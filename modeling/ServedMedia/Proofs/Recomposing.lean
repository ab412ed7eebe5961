import Mathlib.Data.List.Infix
import ServedMedia.Proofs.Segmenting

/-!
# Escapes in a composed text

Composition may break an escape: the last digit can be a letter that composes with the mark
behind it.  Where it keeps the escapes of a segment, the segment is decoded to an equivalent
text, tabs and line breaks left out:

    decomposed (decode (unbroken (composed segment))) = decomposed (decode (unbroken segment))
                                                                (decomposed_decode_composed)

The characters between two escapes are not those from before, and the octets on the two sides
may belong together.  So the two texts are compared piece by piece, from any state that reading
may be in: the same octets bring it into the same state, and any other character ends what is
under way, as a fault                                        (exists_read_cons, read_encode).
-/

namespace ServedMedia

namespace Utf8

/-! ## Algorithm -/

/-- A state in which only octets from 0x80 to 0xBF go on with a character. -/
def Fits (p : Option Pending) : Prop := ∀ q, p = some q → 0x80 ≤ q.low ∧ q.high ≤ 0xBF

/-- The fault of a character that is given up. -/
def givenUp (p : Option Pending) : List (Option Char) := if p.isSome then [none] else []

/-! ## States -/

theorem fits_none : Fits none := fun _ h => nomatch h

theorem fits_begin (b : Nat) : Fits (begin b).2 := by
  intro q h
  unfold begin at h
  repeat' split at h
  all_goals cases h
  all_goals simp

/-- What an octet gives does not depend on the octets behind it. -/
theorem exists_read_cons {p : Option Pending} (hp : Fits p) (b : Nat) :
    ∃ out next, Fits next ∧ ∀ rest, read p (b :: rest) = out ++ read next rest := by
  cases p with
  | none => exact ⟨(begin b).1, (begin b).2, fits_begin b, fun rest => rfl⟩
  | some q =>
    by_cases hb : q.low ≤ b ∧ b ≤ q.high
    · by_cases hlast : q.missing ≤ 1
      · refine ⟨[some (Char.ofNat (q.value * 64 + (b - 0x80)))], none, fits_none, fun rest => ?_⟩
        simp [read, hb, hlast]
      · refine ⟨[], some ⟨q.missing - 1, q.value * 64 + (b - 0x80), 0x80, 0xBF⟩, ?_, fun rest => ?_⟩
        · rintro _ ⟨⟩
          exact ⟨Nat.le_refl _, Nat.le_refl _⟩
        · simp [read, hb, hlast]
    · refine ⟨none :: (begin b).1, (begin b).2, fits_begin b, fun rest => ?_⟩
      simp [read, hb]

theorem exists_encodeChar_cons (c : Char) :
    ∃ b bs, encodeChar c = b :: bs ∧ (b < 0x80 ∨ 0xBF < b) := by
  unfold encodeChar
  dsimp only
  split
  · next h => exact ⟨_, _, rfl, .inl h⟩
  · split
    · exact ⟨_, _, rfl, .inr (by omega)⟩
    · split
      · exact ⟨_, _, rfl, .inr (by omega)⟩
      · exact ⟨_, _, rfl, .inr (by omega)⟩

/-- No character goes on with one that is under way. -/
theorem read_encode {p : Option Pending} (hp : Fits p) {text : List Char} (hne : text ≠ [])
    (rest : List Nat) :
    read p (encode text ++ rest) = givenUp p ++ (text.map some ++ read none rest) := by
  cases p with
  | none => exact read_encode_append text rest
  | some q =>
    obtain ⟨c, more, rfl⟩ := List.exists_cons_of_ne_nil hne
    obtain ⟨b, bs, hbs, hb⟩ := exists_encodeChar_cons c
    have hstart : ∀ octets, read (some q) (b :: octets) = none :: read none (b :: octets) := by
      intro octets
      have hq := hp q rfl
      have hout : ¬ (q.low ≤ b ∧ b ≤ q.high) := by omega
      simp [read, hout]
    have hread := read_encode_append (c :: more) rest
    rw [encode_cons, hbs] at hread ⊢
    exact (hstart _).trans (congrArg _ hread)

end Utf8

namespace Percent

open Canonical Utf8

/-! ## Pieces -/

/-- A text as it is decoded behind octets that lead to a state. -/
def decodeFrom (p : Option Pending) (text : List Char) : List Char :=
  (read p (octets text)).map fun c => c.getD '\ufffd'

/-- Texts that are decoded to equivalent ones from any state. -/
def Alike (text other : List Char) : Prop :=
  ∀ p, Fits p → decomposed (decodeFrom p text) = decomposed (decodeFrom p other)

theorem octets_append_of_not_mem {front : List Char} (h : '%' ∉ front) (text : List Char) :
    octets (front ++ text) = Utf8.encode front ++ octets text := by
  induction front with
  | nil => rfl
  | cons c rest ih =>
    obtain ⟨hc, hrest⟩ : '%' ≠ c ∧ '%' ∉ rest := by simpa using h
    rw [List.cons_append, octets_cons_of_ne (Ne.symm hc), ih hrest, Utf8.encode_cons,
      List.append_assoc]

theorem decodeFrom_append {front : List Char} {text : List Char} {p : Option Pending} (hp : Fits p)
    (hne : front ≠ []) (h : octets (front ++ text) = Utf8.encode front ++ octets text) :
    decodeFrom p (front ++ text) =
      (givenUp p).map (fun c => c.getD '\ufffd') ++ (front ++ decodeFrom none text) := by
  have hfront : (front.map some).map (fun c => c.getD '\ufffd') = front := by
    rw [List.map_map]
    exact List.map_id front
  rw [decodeFrom, h, read_encode hp hne, List.map_append, List.map_append, hfront, decodeFrom]

theorem Alike.refl (text : List Char) : Alike text text := fun _ _ => rfl

section
variable {text other : List Char} (h : Alike text other)
include h

theorem Alike.append {front front' : List Char} (hfront : '%' ∉ front) (hfront' : '%' ∉ front')
    (hequivalent : decomposed front = decomposed front') :
    Alike (front ++ text) (front' ++ other) := by
  intro p hp
  by_cases hnil : front = []
  · subst hnil
    have hnil' : front' = [] :=
      Classical.byContradiction fun hne => decomposed_ne_nil hne hequivalent.symm
    rw [hnil']
    exact h p hp
  · have hne : front' ≠ [] := by
      rintro rfl
      exact decomposed_ne_nil hnil hequivalent
    rw [decodeFrom_append hp hnil (octets_append_of_not_mem hfront text),
      decodeFrom_append hp hne (octets_append_of_not_mem hfront' other)]
    exact decomposed_append_left _ (decomposed_append_congr hequivalent (h none fits_none))

theorem Alike.percent (htext : escape? text = none) (hother : escape? other = none) :
    Alike ('%' :: text) ('%' :: other) := by
  intro p hp
  have hne : ['%'] ≠ [] := List.cons_ne_nil _ _
  have hleft := decodeFrom_append hp hne (octets_percent_of_none htext)
  have hright := decodeFrom_append hp hne (octets_percent_of_none hother)
  rw [List.singleton_append] at hleft hright
  rw [hleft, hright]
  exact decomposed_append_left _ (decomposed_append_left ['%'] (h none fits_none))

end

theorem Alike.escape {text other : List Char} {octet : Nat} (htext : escape? text = some octet)
    (hother : escape? other = some octet) (h : Alike (text.drop 2) (other.drop 2)) :
    Alike ('%' :: text) ('%' :: other) := by
  intro p hp
  obtain ⟨out, next, hnext, hread⟩ := exists_read_cons hp octet
  rw [decodeFrom, decodeFrom, octets_percent_of_some htext, octets_percent_of_some hother, hread,
    hread, List.map_append, List.map_append]
  exact decomposed_append_left _ (h next hnext)

end Percent

namespace Canonical

/-! ## Composing behind a digit -/

theorem exists_composeOnto_cons (starter : Char) (marks text : List Char) :
    ∃ c rest, composeOnto starter marks text = c :: rest ∧ (c = starter ∨ 0xC0 ≤ c.toNat) := by
  induction text generalizing starter marks with
  | nil => exact ⟨starter, marks.reverse, rfl, .inl rfl⟩
  | cons d rest ih =>
    unfold composeOnto
    dsimp only
    split
    · next composite hcompose =>
      have hsome : compose? starter d = some composite :=
        (Option.ite_none_left_eq_some.1 hcompose).2
      obtain ⟨c, more, heq, hc⟩ := ih composite marks
      refine ⟨c, more, heq, .inr ?_⟩
      rcases hc with rfl | hc
      · exact le_of_compose? hsome
      · exact hc
    · split
      · exact ⟨starter, _, rfl, .inl rfl⟩
      · exact ih starter (d :: marks)

/-- A starter stays by itself, or what it has become is not plain. -/
theorem composeOnto_cases (starter : Char) (marks text : List Char) :
    composeOnto starter marks text = starter :: marks.reverse ++ recompose text ∨
      ∃ c rest, composeOnto starter marks text = c :: rest ∧ 0xC0 ≤ c.toNat := by
  induction text generalizing marks with
  | nil => exact .inl (by simp [composeOnto, recompose])
  | cons d rest ih =>
    unfold composeOnto
    dsimp only
    split
    · next composite hcompose =>
      have hsome : compose? starter d = some composite :=
        (Option.ite_none_left_eq_some.1 hcompose).2
      obtain ⟨c, more, heq, hc⟩ := exists_composeOnto_cons composite marks rest
      refine .inr ⟨c, more, heq, ?_⟩
      rcases hc with rfl | hc
      · exact le_of_compose? hsome
      · exact hc
    · rw [recompose]
      split
      · exact .inl rfl
      · refine (ih (d :: marks)).imp_left fun heq => heq.trans ?_
        simp

section
variable {c : Char} (hc : c.toNat < 0xC0)
include hc

theorem composed_cons_plain (text : List Char) :
    composed (c :: text) = composeOnto c [] (decomposed text) := by
  have hdecomposed := decomposed_append_cons hc [] text
  have hclass : combiningClass c = 0 := combiningClass_of_lt (Nat.lt_trans hc (by decide))
  rw [List.nil_append] at hdecomposed
  rw [composed, hdecomposed]
  exact if_pos hclass

theorem composed_append_plain (before after : List Char) :
    composed (before ++ c :: after) = composed before ++ composed (c :: after) := by
  rw [composed_cons_plain hc, composed, decomposed_append_cons hc, recompose_append_plain hc,
    composed]

theorem composed_cons_cases (text : List Char) :
    composed (c :: text) = c :: composed text ∨
      ∃ d rest, composed (c :: text) = d :: rest ∧ 0xC0 ≤ d.toNat := by
  rw [composed_cons_plain hc]
  exact composeOnto_cases c [] (decomposed text)

end

end Canonical

namespace FileUrl

open Canonical Percent

/-! ## Escapes that are kept -/

/-- Whether composition leaves each escape what it is, once the breaks are gone. -/
def KeepsEscapes (segment : List Char) : Prop :=
  ∀ text, '%' :: text <:+ segment → escape? (unbroken (composed text)) = escape? (unbroken text)

instance (segment : List Char) : Decidable (KeepsEscapes segment) :=
  decidable_of_iff (∀ tail ∈ segment.tails, tail.head? = some '%' →
      escape? (unbroken (composed tail.tail)) = escape? (unbroken tail.tail)) <| by
    constructor
    · exact fun h text hsuffix => h ('%' :: text) ((List.mem_tails _ _).2 hsuffix) rfl
    · intro h tail hmem hhead
      obtain ⟨text, rfl⟩ := List.head?_eq_some_iff.1 hhead
      exact h text ((List.mem_tails _ _).1 hmem)

theorem KeepsEscapes.of_suffix {segment back : List Char} (h : KeepsEscapes segment)
    (hback : back <:+ segment) : KeepsEscapes back :=
  fun text hsuffix => h text (hsuffix.trans hback)

theorem not_isBreak_of_hexValue? {c : Char} {n : Nat} (h : hexValue? c = some n) :
    isBreak c = false := by
  rw [Bool.eq_false_iff]
  intro hbreak
  have hfree := isCut_of_hexValue? h
  rw [isCut, isBlank_of_isBreak hbreak] at hfree
  cases hfree

theorem not_isBreak_of_le {c : Char} (h : 0xC0 ≤ c.toNat) : isBreak c = false := by
  rw [Bool.eq_false_iff]
  intro hbreak
  have hlow := toNat_lt_of_mustEscape (mustEscape_of_isBreak hbreak)
  omega

theorem unbroken_cons_of_not_isBreak {c : Char} (h : isBreak c = false) (text : List Char) :
    unbroken (c :: text) = c :: unbroken text :=
  List.filter_cons_of_pos (by simp [h])

/-- Behind an escape that is kept, the rest is composed by itself. -/
theorem exists_behind_escape {text : List Char} {octet : Nat}
    (hraw : escape? (unbroken text) = some octet)
    (hkept : escape? (unbroken (composed text)) = some octet) :
    ∃ front back, text = front ++ back ∧ (unbroken text).drop 2 = unbroken back ∧
      (unbroken (composed text)).drop 2 = unbroken (composed back) := by
  obtain ⟨a, b, more, high, low, heq, ha, hb, -⟩ := escape?_eq_some_iff.1 hraw
  obtain ⟨breaks, text, rfl, hbreaks, -, htext⟩ := List.filter_eq_cons_iff.1 heq
  obtain ⟨breaks', back, rfl, hbreaks', -, hback⟩ := List.filter_eq_cons_iff.1 htext
  have hafree := not_isBreak_of_hexValue? ha
  have hbfree := not_isBreak_of_hexValue? hb
  have hlow : ∀ c ∈ breaks ++ a :: breaks', c.toNat < 0xC0 := by
    have hbreak : ∀ {c : Char}, ¬ (!isBreak c) = true → c.toNat < 0xC0 := fun hc =>
      toNat_lt_of_mustEscape (mustEscape_of_isBreak (by simpa using hc))
    exact List.forall_mem_append.2 ⟨fun c hc => hbreak (hbreaks c hc), List.forall_mem_cons.2
      ⟨Nat.lt_trans (lt_of_hexValue? ha) (by decide), fun c hc => hbreak (hbreaks' c hc)⟩⟩
  have hfront : unbroken (breaks ++ a :: breaks') = [a] := by
    have hnil : unbroken breaks = [] := List.filter_eq_nil_iff.2 hbreaks
    have hnil' : unbroken breaks' = [] := List.filter_eq_nil_iff.2 hbreaks'
    rw [unbroken_append, hnil, unbroken_cons_of_not_isBreak hafree, hnil']
    rfl
  have hcut : breaks ++ a :: (breaks' ++ b :: back) = (breaks ++ a :: breaks') ++ b :: back := by
    rw [List.append_assoc, List.cons_append]
  have hcomposed : unbroken (composed (breaks ++ a :: (breaks' ++ b :: back))) =
      a :: unbroken (composed (b :: back)) := by
    rw [hcut, composed_append_plain (Nat.lt_trans (lt_of_hexValue? hb) (by decide)),
      composed_of_plain hlow, unbroken_append, hfront]
    rfl
  refine ⟨breaks ++ a :: (breaks' ++ [b]), back, by simp, ?_, ?_⟩
  · rw [heq, ← hback]
    rfl
  · rw [hcomposed] at hkept ⊢
    rcases composed_cons_cases (Nat.lt_trans (lt_of_hexValue? hb) (by decide)) back with
      hself | ⟨d, rest, hother, hd⟩
    · rw [hself, unbroken_cons_of_not_isBreak hbfree]
      rfl
    · -- Then the letter of the escape is gone, and the escape with it.
      rw [hother, unbroken_cons_of_not_isBreak (not_isBreak_of_le hd)] at hkept
      obtain ⟨x, y, _, _, low', hcons, -, hy, -⟩ := escape?_eq_some_iff.1 hkept
      obtain ⟨-, hcons⟩ := List.cons.inj hcons
      obtain ⟨rfl, -⟩ := List.cons.inj hcons
      have hdigit := lt_of_hexValue? hy
      omega

theorem alike_composed {segment : List Char} (h : KeepsEscapes segment) :
    Alike (unbroken (composed segment)) (unbroken segment) := by
  have hfree : ∀ {text : List Char}, '%' ∉ text →
      '%' ∉ unbroken text ∧ '%' ∉ unbroken (composed text) := by
    intro text htext
    refine ⟨fun hmem => htext (List.mem_of_mem_filter hmem), fun hmem => htext ?_⟩
    exact mem_of_mem_composed (isOriginal_of_mustEscape rfl) (List.mem_of_mem_filter hmem)
  induction hlength : segment.length using Nat.strongRecOn generalizing segment with
  | ind n ih =>
    subst hlength
    by_cases hmem : '%' ∈ segment
    · obtain ⟨front, text, rfl, hfront⟩ := List.eq_append_cons_of_mem hmem
      have hkept := h text (List.suffix_append front _)
      have htext : KeepsEscapes text :=
        h.of_suffix ((List.suffix_cons '%' text).trans (List.suffix_append front _))
      have hpercent : isBreak '%' = false := rfl
      rw [composed_append_cons (isSolitary_of_mustEscape rfl), unbroken_append, unbroken_append,
        unbroken_cons_of_not_isBreak hpercent, unbroken_cons_of_not_isBreak hpercent]
      refine Alike.append ?_ (hfree hfront).2 (hfree hfront).1 (decomposed_unbroken_composed front)
      cases hraw : escape? (unbroken text) with
      | none =>
        refine Alike.percent (ih text.length ?_ htext rfl) (hkept.trans hraw) hraw
        rw [List.length_append, List.length_cons]
        omega
      | some octet =>
        obtain ⟨digits, back, rfl, hdrop, hdrop'⟩ := exists_behind_escape hraw (hkept.trans hraw)
        refine Alike.escape (hkept.trans hraw) hraw ?_
        rw [hdrop, hdrop']
        refine ih back.length ?_ (htext.of_suffix (List.suffix_append digits back)) rfl
        rw [List.length_append, List.length_cons, List.length_append]
        omega
    · have hends := Alike.append (Alike.refl []) (hfree hmem).2 (hfree hmem).1
        (decomposed_unbroken_composed segment)
      rwa [List.append_nil, List.append_nil] at hends

/-! ## Top theorems -/

theorem decomposed_decode_composed {segment : List Char} (h : KeepsEscapes segment) :
    decomposed (decode (unbroken (composed segment))) = decomposed (decode (unbroken segment)) :=
  alike_composed h none Utf8.fits_none

end FileUrl

end ServedMedia
