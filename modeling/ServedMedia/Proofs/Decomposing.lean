import Mathlib.Data.List.Chain
import ServedMedia.Proofs.Composition

/-!
# What the tables of decompositions and composites agree on

What a character is decomposed to is not decomposed again, and a composite is decomposed
to what its first part is decomposed to and then its second part:

    d ∈ decompose c → decompose d = [d]                                    (decompose_of_mem)
    compose? first second = some c →
      decompose c = decompose first ++ [second]                        (decompose_of_compose?)

For Hangul syllables this is arithmetic.  For all other characters it is checked over the
tables, each of which is gone through once: which characters have an entry is read off the
bits of a number, and an entry is found beside its composite, since both lists are in the
order of the characters.
-/

namespace ServedMedia

namespace Table

/-! ## Algorithm -/

/-- The character that an entry gives a text to. -/
def key (entry : Nat) : Nat := entry % 0x1000000

/-- The numbers packed into a number, 24 bits each, at most `count`. -/
def digits : (count packed : Nat) → List Nat
  | 0, _ => []
  | count + 1, packed =>
    if packed = 0 then [] else packed % 0x1000000 :: digits count (packed / 0x1000000)

/-- The text that an entry gives, as numbers. -/
def codes (entry : Nat) : List Nat := digits 6 (entry / 0x1000000)

/-- The number whose bits say which characters have an entry. -/
def keyBits (entries : List Nat) : Nat :=
  entries.foldr (fun entry bits => bits ||| 1 <<< key entry) 0

/-! ## Lemmas -/

theorem unpack_eq_map (count packed : Nat) :
    unpack count packed = (digits count packed).map Char.ofNat := by
  induction count generalizing packed with
  | zero => rfl
  | succ count ih =>
    rw [unpack, digits]
    split
    · rfl
    · rw [ih, List.map_cons]

theorem testBit_keyBits (entries : List Nat) (n : Nat) :
    (keyBits entries).testBit n = true ↔ ∃ entry ∈ entries, key entry = n := by
  induction entries with
  | nil => simp [keyBits]
  | cons entry rest ih =>
    have hone : (1 <<< key entry).testBit n = true ↔ key entry = n := by
      rw [Nat.one_shiftLeft, Nat.testBit_two_pow, decide_eq_true_eq]
    rw [keyBits, List.foldr_cons, ← keyBits, Nat.testBit_or, Bool.or_eq_true, ih, hone]
    simp [or_comm]

theorem textOf?_eq_none {entries : List Nat} {c : Char}
    (h : (keyBits entries).testBit c.toNat = false) : textOf? entries c = none := by
  have hfind : (entries.find? fun entry => entry % 0x1000000 == c.toNat) = none := by
    rw [List.find?_eq_none]
    intro entry hentry heq
    have hbit := (testBit_keyBits entries c.toNat).2 ⟨entry, hentry, eq_of_beq heq⟩
    rw [hbit] at h
    cases h
  rw [textOf?, hfind]
  rfl

/-- In a table in the order of its characters each of them has one entry. -/
theorem textOf?_of_mem {entries : List Nat} (hsorted : (entries.map key).IsChain (· < ·))
    {entry : Nat} (hmem : entry ∈ entries) {c : Char} (hc : key entry = c.toNat) :
    textOf? entries c = some ((codes entry).map Char.ofNat) := by
  have hpairs : entries.Pairwise fun a b => key a < key b :=
    List.pairwise_map.1 (List.isChain_iff_pairwise.1 hsorted)
  have hfind : entries.find? (fun entry => entry % 0x1000000 == c.toNat) = some entry := by
    obtain ⟨before, after, rfl⟩ := List.append_of_mem hmem
    refine List.find?_eq_some_iff_append.2 ⟨by simpa [key] using hc, before, after, rfl, ?_⟩
    intro other hother
    have hlt := (List.pairwise_append.1 hpairs).2.2 other hother entry List.mem_cons_self
    have hne : other % 0x1000000 ≠ c.toNat := by
      rw [← hc]
      exact Nat.ne_of_lt hlt
    simpa using hne
  rw [textOf?, hfind, Option.map_some, unpack_eq_map, codes]

end Table

namespace Canonical

open ServedMedia.Table

/-! ## Algorithm -/

/-- A composite, and its first and its second part, as its entry has them. -/
def whole (composite : Nat) : Nat := composite / 0x1000000000000

def firstPart (composite : Nat) : Nat := composite / 0x1000000 % 0x1000000

def secondPart (composite : Nat) : Nat := composite % 0x1000000

/-- Whether a number is a character that is neither a Hangul syllable nor an ideograph that
is encoded twice. -/
def isLetter (n : Nat) : Bool := n < 0xAC00 || (0xFAFF < n && n < 0x2F800)

/-- The entries of the characters that begin a composite. -/
def firstLetters : List Nat :=
  letters.filter fun entry => (keyBits (composites.map firstPart)).testBit (key entry)

/-- What the first part of a composite is decomposed to. -/
def firstCodes? (composite : Nat) : Option (List Nat) :=
  if (keyBits letters).testBit (firstPart composite) then
    (firstLetters.find? fun entry => Nat.beq (key entry) (firstPart composite)).map codes
  else some [firstPart composite]

/-- Whether an entry decomposes a composite to its first part and its second one. -/
def splits (composite entry : Nat) : Bool :=
  isLetter (whole composite) && isLetter (firstPart composite) &&
    (firstCodes? composite).any fun start => codes entry == start ++ [secondPart composite]

/-- Whether each composite has its entry, both lists being in the order of the characters. -/
def allSplit : (composites entries : List Nat) → Bool
  | composites, [] => composites.isEmpty
  | composites, entry :: rest =>
    match composites with
    | [] => true
    | composite :: more =>
      if key entry = whole composite then splits composite entry && allSplit more rest
      else allSplit composites rest

/-! ## Tables -/

theorem isChain_letters : (letters.map key).IsChain (· < ·) := by decide +kernel

theorem allSplit_composites : allSplit composites letters = true := by decide +kernel

theorem all_codes : ((ideographs ++ letters).all fun entry => (codes entry).all fun n =>
    isLetter n && !(keyBits letters).testBit n) = true := by
  decide +kernel

/-- No plain character has an entry, and none of the letters that syllables consist of. -/
theorem all_keys : (letters.all fun entry =>
    0xC0 ≤ key entry && (key entry < 0x1100 || 0x11FF < key entry)) = true := by
  decide +kernel

theorem range_key {entry : Nat} (h : entry ∈ letters) :
    0xC0 ≤ key entry ∧ (key entry < 0x1100 ∨ 0x11FF < key entry) := by
  simpa using List.all_eq_true.1 all_keys entry h

theorem exists_splits {composites entries : List Nat} (h : allSplit composites entries = true) :
    ∀ composite ∈ composites, ∃ entry ∈ entries,
      key entry = whole composite ∧ splits composite entry = true := by
  induction entries generalizing composites with
  | nil =>
    rw [allSplit, List.isEmpty_iff] at h
    simp [h]
  | cons entry rest ih =>
    cases composites with
    | nil => simp
    | cons composite more =>
      rw [allSplit] at h
      split at h
      · next hkey =>
        rw [Bool.and_eq_true] at h
        intro other hother
        rcases List.mem_cons.1 hother with rfl | hother
        · exact ⟨entry, List.mem_cons_self, hkey, h.1⟩
        · obtain ⟨found, hfound, hsplits⟩ := ih h.2 other hother
          exact ⟨found, List.mem_cons_of_mem _ hfound, hsplits⟩
      · intro other hother
        obtain ⟨found, hfound, hsplits⟩ := ih h other hother
        exact ⟨found, List.mem_cons_of_mem _ hfound, hsplits⟩

/-! ## Letters -/

theorem toNat_ofNat_of_isLetter {n : Nat} (h : isLetter n = true) : (Char.ofNat n).toNat = n := by
  have hrange : n < 0xAC00 ∨ (0xFAFF < n ∧ n < 0x2F800) := by simpa [isLetter] using h
  have hvalid : n.isValidChar := by
    rcases hrange with hlow | hhigh
    · exact .inl (by omega)
    · exact .inr ⟨by omega, by omega⟩
  rw [Char.ofNat, dif_pos hvalid]
  rfl

theorem decompose_of_isLetter {c : Char} (h : isLetter c.toNat = true) :
    decompose c = if c.toNat < 0xC0 then [c] else (Table.textOf? letters c).getD [c] := by
  have hrange : c.toNat < 0xAC00 ∨ (0xFAFF < c.toNat ∧ c.toNat < 0x2F800) := by
    simpa [isLetter] using h
  have hsyllable : ¬ (0xAC00 ≤ c.toNat ∧ c.toNat ≤ 0xD7A3) := by omega
  have hideograph : isIdeograph c = false := by
    have hout : ¬ ((0xF900 ≤ c.toNat ∧ c.toNat ≤ 0xFAFF) ∨ 0x2F800 ≤ c.toNat) := by omega
    simpa [isIdeograph] using hout
  rw [decompose, if_neg hsyllable, hideograph]
  rfl

/-- A character is decomposed to itself, as a syllable or by an entry. -/
theorem decompose_cases (c : Char) : decompose c = [c] ∨
    ((0xAC00 ≤ c.toNat ∧ c.toNat ≤ 0xD7A3) ∧ decompose c = decomposeHangul c) ∨
      ∃ entry ∈ ideographs ++ letters, decompose c = (codes entry).map Char.ofNat := by
  unfold decompose
  split
  · exact .inl rfl
  · split
    · next hsyllable => exact .inr (.inl ⟨hsyllable, rfl⟩)
    · cases htext : Table.textOf? (if isIdeograph c then ideographs else letters) c with
      | none => exact .inl rfl
      | some text =>
        obtain ⟨entry, hfind, rfl⟩ := Option.map_eq_some_iff.1 htext
        refine .inr (.inr ⟨entry, ?_, by rw [Option.getD_some, unpack_eq_map, codes]⟩)
        have hin := List.mem_of_find?_eq_some hfind
        split at hin
        · exact List.mem_append_left _ hin
        · exact List.mem_append_right _ hin

theorem decompose_of_entry {entry n : Nat} (hmem : entry ∈ letters) (hkey : key entry = n)
    (hletter : isLetter n = true) :
    decompose (Char.ofNat n) = (codes entry).map Char.ofNat := by
  have hn := toNat_ofNat_of_isLetter hletter
  have hlow : ¬ n < 0xC0 := by
    have hrange := range_key hmem
    omega
  rw [decompose_of_isLetter (by rwa [hn]), hn, if_neg hlow,
    textOf?_of_mem isChain_letters hmem (by rw [hkey, hn]), Option.getD_some]

theorem decompose_of_testBit {n : Nat} (hletter : isLetter n = true)
    (hbit : (keyBits letters).testBit n = false) :
    decompose (Char.ofNat n) = [Char.ofNat n] := by
  have hn := toNat_ofNat_of_isLetter hletter
  rw [decompose_of_isLetter (by rwa [hn]), textOf?_eq_none (by rwa [hn])]
  exact ite_self _

/-- The letters that syllables are decomposed to have no entries. -/
theorem decompose_jamo {n : Nat} (hlow : 0x1100 ≤ n) (hhigh : n ≤ 0x11FF) :
    decompose (Char.ofNat n) = [Char.ofNat n] := by
  have hletter : isLetter n = true := by
    have : n < 0xAC00 := by omega
    simp [isLetter, this]
  refine decompose_of_testBit hletter (Bool.eq_false_iff.2 fun hbit => ?_)
  obtain ⟨entry, hentry, hkey⟩ := (testBit_keyBits letters n).1 hbit
  have hrange := range_key hentry
  omega

/-- What is found for the first part of a composite is what it is decomposed to. -/
theorem decompose_of_firstCodes? {composite : Nat} {start : List Nat}
    (hletter : isLetter (firstPart composite) = true) (h : firstCodes? composite = some start) :
    decompose (Char.ofNat (firstPart composite)) = start.map Char.ofNat := by
  have hn := toNat_ofNat_of_isLetter hletter
  unfold firstCodes? at h
  split at h
  · next hbit =>
    obtain ⟨entry, hfind, rfl⟩ := Option.map_eq_some_iff.1 h
    have hmem : entry ∈ letters := (List.mem_filter.1 (List.mem_of_find?_eq_some hfind)).1
    have hkey : Nat.beq (key entry) (firstPart composite) = true := by
      simpa using List.find?_some hfind
    exact decompose_of_entry hmem (Nat.eq_of_beq_eq_true hkey) hletter
  · next hbit =>
    rw [← Option.some.inj h]
    exact decompose_of_testBit hletter (Bool.eq_false_iff.2 hbit)

/-- An entry of a composite decomposes it to its parts. -/
theorem decompose_of_mem_composites {composite : Nat} (hmem : composite ∈ composites) :
    decompose (Char.ofNat (whole composite)) =
      decompose (Char.ofNat (firstPart composite)) ++ [Char.ofNat (secondPart composite)] := by
  obtain ⟨entry, hentry, hkey, hsplits⟩ := exists_splits allSplit_composites composite hmem
  rw [splits, Bool.and_eq_true, Bool.and_eq_true, Option.any_eq_true] at hsplits
  obtain ⟨⟨hwhole, hfirst⟩, start, hstart, hcodes⟩ := hsplits
  rw [decompose_of_entry hentry hkey hwhole, decompose_of_firstCodes? hfirst hstart,
    eq_of_beq hcodes, List.map_append, List.map_singleton]

/-! ## Syllables -/

theorem decompose_of_mem_decomposeHangul {c d : Char} (hc : 0xAC00 ≤ c.toNat ∧ c.toNat ≤ 0xD7A3)
    (h : d ∈ decomposeHangul c) : decompose d = [d] := by
  have hinitial : decompose (Char.ofNat (0x1100 + (c.toNat - 0xAC00) / 588)) = [_] :=
    decompose_jamo (by omega) (by omega)
  have hmedial : decompose (Char.ofNat (0x1161 + (c.toNat - 0xAC00) % 588 / 28)) = [_] :=
    decompose_jamo (by omega) (by omega)
  have hfinal : decompose (Char.ofNat (0x11A7 + (c.toNat - 0xAC00) % 28)) = [_] :=
    decompose_jamo (by omega) (by omega)
  unfold decomposeHangul at h
  dsimp only at h
  split at h
  · rcases List.mem_cons.1 h with rfl | h
    · exact hinitial
    · rw [List.mem_singleton.1 h]
      exact hmedial
  · rcases List.mem_cons.1 h with rfl | h
    · exact hinitial
    · rcases List.mem_cons.1 h with rfl | h
      · exact hmedial
      · rw [List.mem_singleton.1 h]
        exact hfinal

theorem decompose_syllable {n : Nat} (h : 0xAC00 ≤ n ∧ n ≤ 0xD7A3) :
    decompose (Char.ofNat n) = if (n - 0xAC00) % 28 = 0 then
        [Char.ofNat (0x1100 + (n - 0xAC00) / 588),
          Char.ofNat (0x1161 + (n - 0xAC00) % 588 / 28)]
      else [Char.ofNat (0x1100 + (n - 0xAC00) / 588), Char.ofNat (0x1161 + (n - 0xAC00) % 588 / 28),
        Char.ofNat (0x11A7 + (n - 0xAC00) % 28)] := by
  have hn : (Char.ofNat n).toNat = n := toNat_ofNat (by omega)
  have hlow : ¬ n < 0xC0 := by omega
  unfold decompose decomposeHangul
  simp only [hn, if_neg hlow, if_pos h]

theorem decompose_of_composeHangul? {first second c : Char}
    (h : composeHangul? first second = some c) :
    decompose c = decompose first ++ [second] := by
  have hfirst : Char.ofNat first.toNat = first := Char.ofNat_toNat first
  have hsecond : Char.ofNat second.toNat = second := Char.ofNat_toNat second
  unfold composeHangul? at h
  dsimp only at h
  generalize first.toNat = a at *
  generalize second.toNat = b at *
  subst hfirst hsecond
  split at h
  · next hpair =>
    obtain rfl := Option.some.inj h
    obtain ⟨hlow, hhigh, hlow', hhigh'⟩ := hpair
    have hindex : 0xAC00 + ((a - 0x1100) * 21 + (b - 0x1161)) * 28 - 0xAC00 =
        ((a - 0x1100) * 21 + (b - 0x1161)) * 28 := by omega
    have hinitial : 0x1100 + ((a - 0x1100) * 21 + (b - 0x1161)) * 28 / 588 = a := by omega
    have hmedial : 0x1161 + ((a - 0x1100) * 21 + (b - 0x1161)) * 28 % 588 / 28 = b := by omega
    rw [decompose_syllable (by omega), hindex, if_pos (Nat.mul_mod_left _ _), hinitial, hmedial,
      decompose_jamo hlow (by omega)]
    rfl
  · split at h
    · next hpair =>
      obtain rfl := Option.some.inj h
      obtain ⟨hlow, hhigh, hopen, hlow', hhigh'⟩ := hpair
      have hinitial : (a + (b - 0x11A7) - 0xAC00) / 588 = (a - 0xAC00) / 588 := by omega
      have hmedial : (a + (b - 0x11A7) - 0xAC00) % 588 / 28 = (a - 0xAC00) % 588 / 28 := by omega
      have hfinal : 0x11A7 + (a + (b - 0x11A7) - 0xAC00) % 28 = b := by omega
      rw [decompose_syllable (by omega), if_neg (by omega), decompose_syllable ⟨hlow, hhigh⟩,
        if_pos hopen, hinitial, hmedial, hfinal]
      rfl
    · cases h

/-! ## Top theorems -/

theorem decompose_of_mem {c d : Char} (h : d ∈ decompose c) : decompose d = [d] := by
  rcases decompose_cases c with hself | ⟨hsyllable, hletters⟩ | ⟨entry, hentry, htext⟩
  · have heq := h
    rw [hself] at heq
    rwa [List.mem_singleton.1 heq]
  · rw [hletters] at h
    exact decompose_of_mem_decomposeHangul hsyllable h
  · rw [htext] at h
    obtain ⟨n, hn, rfl⟩ := List.mem_map.1 h
    have hsettled := List.all_eq_true.1 (List.all_eq_true.1 all_codes entry hentry) n hn
    rw [Bool.and_eq_true, Bool.not_eq_true'] at hsettled
    exact decompose_of_testBit hsettled.1 hsettled.2

theorem decompose_of_compose? {first second c : Char} (h : compose? first second = some c) :
    decompose c = decompose first ++ [second] := by
  unfold compose? at h
  split at h
  · cases h
  · split at h
    · next composite hhangul =>
      rw [← Option.some.inj h]
      exact decompose_of_composeHangul? hhangul
    · obtain ⟨composite, hfind, rfl⟩ := Option.map_eq_some_iff.1 h
      have hparts : composite % 0x1000000000000 = first.toNat * 0x1000000 + second.toNat := by
        simpa using List.find?_some hfind
      have hbound := toNat_lt second
      have hfirst : firstPart composite = first.toNat := by
        unfold firstPart
        omega
      have hsecond : secondPart composite = second.toNat := by
        unfold secondPart
        omega
      have hsplit := decompose_of_mem_composites (List.mem_of_find?_eq_some hfind)
      rwa [hfirst, hsecond, Char.ofNat_toNat, Char.ofNat_toNat] at hsplit

end Canonical

end ServedMedia
