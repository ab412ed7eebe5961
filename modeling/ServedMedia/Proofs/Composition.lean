import ServedMedia.Text.Canonical
import ServedMedia.Text.Segments

/-!
# Where canonical composition can be cut

A character below U+00C0 is never decomposed, never a mark, and never the second
part of a composite.  If it is no first part either, such as a slash or a dot,
then nothing reaches across it, and the text on each side is composed by itself:

    composed (before ++ c :: after) = composed before ++ c :: composed after (composed_append_cons)

So composition keeps the separators of a path and an ASCII extension at its end, and a
path is composed piece by piece                                     (cutSlash_composed).

Composites are never plain.  A plain character that nothing is decomposed to, such as
a question mark, therefore stands in a composed text only if it stood there before
                                                                       (mem_of_mem_composed).
-/

namespace ServedMedia.Canonical

/-- A plain character that begins no composite. -/
def IsSolitary (c : Char) : Prop := c.toNat < 0xC0 ∧ ∀ second, compose? c second = none

/-- A plain character that no other one is decomposed to. -/
def IsOriginal (c : Char) : Prop :=
  c.toNat < 0xC0 ∧ ∀ entry ∈ ideographs ++ letters, c ∉ Table.unpack 6 (entry / 0x1000000)

instance (c : Char) : Decidable (IsOriginal c) := inferInstanceAs (Decidable (_ ∧ _))

/-! ## Solitary characters -/

theorem toNat_lt (c : Char) : c.toNat < 0x110000 := by
  have hv : c.toNat < 0xD800 ∨ (0xDFFF < c.toNat ∧ c.toNat < 0x110000) := c.valid
  omega

/-- The first parts of composites stand in the middle 24 bits of their entries. -/
theorem compose?_eq_none {c : Char} (hc : c.toNat < 0xC0)
    (h : ∀ entry ∈ composites, entry / 0x1000000 % 0x1000000 ≠ c.toNat) (second : Char) :
    compose? c second = none := by
  have hsecond := toNat_lt second
  have hangul : composeHangul? c second = none := by
    unfold composeHangul?
    rw [if_neg (by omega), if_neg (by omega)]
  have hfind : (composites.find? fun entry =>
      entry % 0x1000000000000 == c.toNat * 0x1000000 + second.toNat) = none := by
    rw [List.find?_eq_none]
    intro entry hentry heq
    have he : entry % 0x1000000000000 = c.toNat * 0x1000000 + second.toNat := by simpa using heq
    exact h entry hentry (by omega)
  unfold compose?
  rw [hangul, hfind]
  simp

theorem isSolitary_slash : IsSolitary '/' :=
  ⟨by decide, compose?_eq_none (by decide) (by decide +kernel)⟩

theorem isSolitary_dot : IsSolitary '.' :=
  ⟨by decide, compose?_eq_none (by decide) (by decide +kernel)⟩

/-! ## Cutting decomposition -/

theorem insertMark_append_cons {c : Char} (hc : combiningClass c = 0) (d : Char)
    (before after : List Char) :
    insertMark d (before ++ c :: after) = insertMark d before ++ c :: after := by
  induction before with
  | nil => simp [insertMark, hc]
  | cons e rest ih =>
    simp only [List.cons_append, insertMark, ih]
    split <;> rfl

theorem order_append_cons {c : Char} (hc : combiningClass c = 0) (before after : List Char) :
    order (before ++ c :: after) = order before ++ c :: order after := by
  induction before with
  | nil =>
    show insertMark c (order after) = c :: order after
    exact insertMark_starter hc (order after)
  | cons d rest ih =>
    show insertMark d (order (rest ++ c :: after)) = insertMark d (order rest) ++ c :: order after
    rw [ih, insertMark_append_cons hc]

theorem decomposed_append_cons {c : Char} (hc : c.toNat < 0xC0) (before after : List Char) :
    decomposed (before ++ c :: after) = decomposed before ++ c :: decomposed after := by
  unfold decomposed
  rw [List.flatMap_append, List.flatMap_cons, decompose_of_lt hc, List.singleton_append,
    order_append_cons (combiningClass_of_lt (by omega))]

/-! ## Cutting composition -/

/-- A starter that begins no composite leaves the rest to itself; the marks it has
gone by stay behind it. -/
theorem composeOnto_of_isSolitary {c : Char} (hc : IsSolitary c) (marks text : List Char) :
    composeOnto c marks text = c :: marks.reverse ++ recompose text := by
  induction text generalizing marks with
  | nil => simp [composeOnto, recompose]
  | cons d rest ih =>
    unfold composeOnto
    rw [recompose]
    simp only [hc.2 d, ite_self]
    split
    · rfl
    · rw [ih]
      simp

/-- Composing onto a starter ends in front of a character that is no second part. -/
theorem composeOnto_append_cons {c : Char} (hc : c.toNat < 0xC0) (starter : Char)
    (marks before after : List Char) :
    composeOnto starter marks (before ++ c :: after) =
      composeOnto starter marks before ++ composeOnto c [] after := by
  have hclass : combiningClass c = 0 := combiningClass_of_lt (by omega)
  induction before generalizing starter marks with
  | nil => simp [composeOnto, compose?_of_lt starter (show c.toNat < 0x300 by omega), hclass]
  | cons d rest ih =>
    rw [List.cons_append]
    generalize composeOnto c [] after = tail at ih ⊢
    unfold composeOnto
    simp only [ih]
    split
    · rfl
    · split
      · simp
      · rfl

/-- A plain character is no second part, so what stands in front of it is composed by itself. -/
theorem recompose_append_plain {c : Char} (hc : c.toNat < 0xC0) (before after : List Char) :
    recompose (before ++ c :: after) = recompose before ++ composeOnto c [] after := by
  induction before with
  | nil =>
    have hclass : combiningClass c = 0 := combiningClass_of_lt (Nat.lt_trans hc (by decide))
    simp [recompose, hclass]
  | cons d rest ih =>
    rw [List.cons_append, recompose, recompose, ih]
    split
    · rw [composeOnto_append_cons hc]
    · rfl

theorem recompose_append_cons {c : Char} (hc : IsSolitary c) (before after : List Char) :
    recompose (before ++ c :: after) = recompose before ++ c :: recompose after := by
  rw [recompose_append_plain hc.1, composeOnto_of_isSolitary hc]
  rfl

/-! ## Something is left -/

theorem decompose_ne_nil (c : Char) : decompose c ≠ [] := by
  have hpacked : ∀ entry ∈ ideographs ++ letters, entry / 0x1000000 ≠ 0 := by decide +kernel
  unfold decompose
  split
  · simp
  · split
    · unfold decomposeHangul
      dsimp only
      split <;> simp
    · cases htext : Table.textOf? (if isIdeograph c then ideographs else letters) c with
      | none => simp
      | some text =>
        obtain ⟨entry, hfind, rfl⟩ := Option.map_eq_some_iff.1 htext
        have hmem : entry ∈ ideographs ++ letters := by
          have hin := List.mem_of_find?_eq_some hfind
          split at hin
          · exact List.mem_append_left _ hin
          · exact List.mem_append_right _ hin
        exact Table.unpack_ne_nil (hpacked entry hmem) 5

theorem insertMark_ne_nil (c : Char) (text : List Char) : insertMark c text ≠ [] := by
  cases text with
  | nil => simp [insertMark]
  | cons d rest =>
    rw [insertMark]
    split <;> simp

theorem decomposed_ne_nil {text : List Char} (h : text ≠ []) : decomposed text ≠ [] := by
  obtain ⟨c, rest, rfl⟩ := List.exists_cons_of_ne_nil h
  obtain ⟨d, more, hd⟩ := List.exists_cons_of_ne_nil (decompose_ne_nil c)
  rw [decomposed, List.flatMap_cons, hd, order, List.cons_append, List.foldr_cons]
  exact insertMark_ne_nil _ _

theorem composeOnto_ne_nil (starter : Char) (marks text : List Char) :
    composeOnto starter marks text ≠ [] := by
  induction text generalizing starter marks with
  | nil => simp [composeOnto]
  | cons c rest ih =>
    unfold composeOnto
    dsimp only
    split
    · exact ih _ _
    · split
      · simp
      · exact ih _ _

theorem composed_ne_nil {text : List Char} (h : text ≠ []) : composed text ≠ [] := by
  obtain ⟨c, rest, hc⟩ := List.exists_cons_of_ne_nil (decomposed_ne_nil h)
  rw [composed, hc, recompose]
  split
  · exact composeOnto_ne_nil c [] rest
  · simp

theorem composed_eq_nil_iff {text : List Char} : composed text = [] ↔ text = [] :=
  ⟨fun h => Classical.byContradiction fun hne => composed_ne_nil hne h, fun h => by rw [h]; rfl⟩

/-! ## Where a character comes from -/

/-- The least character that another one is decomposed to is the semicolon: U+037E is
the Greek question mark. -/
theorem all_unpack : ∀ entry ∈ ideographs ++ letters,
    (Table.unpack 6 (entry / 0x1000000)).all fun d => 0x3B ≤ d.toNat ∧ d.toNat ≠ 0x3F := by
  decide +kernel

theorem isOriginal_of_toNat {c : Char} (hc : c.toNat < 0x3B ∨ c.toNat = 0x3F) :
    IsOriginal c := by
  refine ⟨by omega, fun entry hentry hmem => ?_⟩
  have hlow : 0x3B ≤ c.toNat ∧ c.toNat ≠ 0x3F :=
    of_decide_eq_true (List.all_eq_true.1 (all_unpack entry hentry) c hmem)
  omega

theorem isOriginal_question : IsOriginal '?' := isOriginal_of_toNat (.inr rfl)

theorem isOriginal_hash : IsOriginal '#' := isOriginal_of_toNat (.inl (by decide))

theorem isOriginal_slash : IsOriginal '/' := isOriginal_of_toNat (.inl (by decide))

theorem isOriginal_dot : IsOriginal '.' := isOriginal_of_toNat (.inl (by decide))

theorem toNat_ofNat {n : Nat} (h : n < 0xD800) : (Char.ofNat n).toNat = n := by
  have hvalid : n.isValidChar := .inl h
  rw [Char.ofNat, dif_pos hvalid]
  rfl

theorem lt_of_mem_decomposeHangul {c d : Char} (hd : d.toNat ≤ 0xD7A3)
    (h : c ∈ decomposeHangul d) : 0xC0 ≤ c.toNat := by
  have hjamo : ∀ n, 0x1100 ≤ n → n < 0xD800 → 0xC0 ≤ (Char.ofNat n).toNat := by
    intro n hlow hhigh
    rw [toNat_ofNat hhigh]
    omega
  unfold decomposeHangul at h
  dsimp only at h
  split at h
  · rcases List.mem_cons.1 h with rfl | h
    · exact hjamo _ (by omega) (by omega)
    · rw [List.mem_singleton.1 h]
      exact hjamo _ (by omega) (by omega)
  · rcases List.mem_cons.1 h with rfl | h
    · exact hjamo _ (by omega) (by omega)
    · rcases List.mem_cons.1 h with rfl | h
      · exact hjamo _ (by omega) (by omega)
      · rw [List.mem_singleton.1 h]
        exact hjamo _ (by omega) (by omega)

theorem eq_of_mem_decompose {c d : Char} (hc : IsOriginal c) (h : c ∈ decompose d) : c = d := by
  unfold decompose at h
  split at h
  · exact List.mem_singleton.1 h
  · split at h
    · next hhangul =>
      have := lt_of_mem_decomposeHangul hhangul.2 h
      have := hc.1
      omega
    · cases htext : Table.textOf? (if isIdeograph d then ideographs else letters) d with
      | none => simpa [htext] using h
      | some text =>
        obtain ⟨entry, hfind, rfl⟩ := Option.map_eq_some_iff.1 htext
        have hmem : entry ∈ ideographs ++ letters := by
          have hin := List.mem_of_find?_eq_some hfind
          split at hin
          · exact List.mem_append_left _ hin
          · exact List.mem_append_right _ hin
        rw [htext] at h
        exact absurd h (hc.2 entry hmem)

theorem mem_insertMark {c d : Char} {text : List Char} (h : c ∈ insertMark d text) :
    c = d ∨ c ∈ text := by
  induction text with
  | nil => exact .inl (List.mem_singleton.1 h)
  | cons e rest ih =>
    rw [insertMark] at h
    split at h
    · rcases List.mem_cons.1 h with rfl | h
      · exact .inr List.mem_cons_self
      · exact (ih h).imp_right (List.mem_cons_of_mem _)
    · exact List.mem_cons.1 h

theorem mem_order {c : Char} {text : List Char} (h : c ∈ order text) : c ∈ text := by
  induction text with
  | nil => exact h
  | cons d rest ih =>
    rcases mem_insertMark h with rfl | h
    · exact List.mem_cons_self
    · exact List.mem_cons_of_mem _ (ih h)

theorem mem_of_mem_decomposed {c : Char} (hc : IsOriginal c) {text : List Char}
    (h : c ∈ decomposed text) : c ∈ text := by
  obtain ⟨d, hd, hmem⟩ := List.mem_flatMap.1 (mem_order h)
  rwa [eq_of_mem_decompose hc hmem]

/-- No composite is plain. -/
theorem le_of_compose? {first second c : Char} (h : compose? first second = some c) :
    0xC0 ≤ c.toNat := by
  have htable : ∀ entry ∈ composites, 0xC0 ≤ (Char.ofNat (entry / 0x1000000000000)).toNat := by
    decide +kernel
  have hsyllable : ∀ n, 0xAC00 ≤ n → n < 0xD800 → 0xC0 ≤ (Char.ofNat n).toNat := by
    intro n hlow hhigh
    rw [toNat_ofNat hhigh]
    omega
  unfold compose? at h
  split at h
  · cases h
  · split at h
    · next composite hhangul =>
      obtain rfl := Option.some.inj h
      unfold composeHangul? at hhangul
      dsimp only at hhangul
      split at hhangul
      · obtain rfl := Option.some.inj hhangul
        exact hsyllable _ (by omega) (by omega)
      · split at hhangul
        · obtain rfl := Option.some.inj hhangul
          exact hsyllable _ (by omega) (by omega)
        · cases hhangul
    · obtain ⟨entry, hfind, rfl⟩ := Option.map_eq_some_iff.1 h
      exact htable entry (List.mem_of_find?_eq_some hfind)

theorem mem_composeOnto {c : Char} (hc : c.toNat < 0xC0) {starter : Char} {marks text : List Char}
    (h : c ∈ composeOnto starter marks text) : c = starter ∨ c ∈ marks ∨ c ∈ text := by
  induction text generalizing starter marks with
  | nil => simpa [composeOnto] using h
  | cons d rest ih =>
    unfold composeOnto at h
    dsimp only at h
    split at h
    · next composite hcompose =>
      rcases ih h with rfl | hmark | hrest
      · have hsome : compose? starter d = some c := (Option.ite_none_left_eq_some.1 hcompose).2
        exact absurd hc (Nat.not_lt.2 (le_of_compose? hsome))
      · exact .inr (.inl hmark)
      · exact .inr (.inr (List.mem_cons_of_mem _ hrest))
    · split at h
      · rcases List.mem_append.1 h with hfront | hback
        · rcases List.mem_cons.1 hfront with rfl | hmark
          · exact .inl rfl
          · exact .inr (.inl (List.mem_reverse.1 hmark))
        · rcases ih hback with rfl | hmark | hrest
          · exact .inr (.inr List.mem_cons_self)
          · cases hmark
          · exact .inr (.inr (List.mem_cons_of_mem _ hrest))
      · rcases ih h with rfl | hmark | hrest
        · exact .inl rfl
        · rcases List.mem_cons.1 hmark with rfl | hmark
          · exact .inr (.inr List.mem_cons_self)
          · exact .inr (.inl hmark)
        · exact .inr (.inr (List.mem_cons_of_mem _ hrest))

theorem mem_recompose {c : Char} (hc : c.toNat < 0xC0) {text : List Char}
    (h : c ∈ recompose text) : c ∈ text := by
  induction text with
  | nil => exact h
  | cons d rest ih =>
    rw [recompose] at h
    split at h
    · rcases mem_composeOnto hc h with rfl | h | h
      · exact List.mem_cons_self
      · cases h
      · exact List.mem_cons_of_mem _ h
    · rcases List.mem_cons.1 h with rfl | h
      · exact List.mem_cons_self
      · exact List.mem_cons_of_mem _ (ih h)

/-! ## Top theorems -/

theorem composed_append_cons {c : Char} (hc : IsSolitary c) (before after : List Char) :
    composed (before ++ c :: after) = composed before ++ c :: composed after := by
  unfold composed
  rw [decomposed_append_cons hc.1, recompose_append_cons hc]

/-- Plain text up to a solitary character stays in front of the rest. -/
theorem composed_plain_append_cons {c : Char} (hc : IsSolitary c) {before : List Char}
    (h : ∀ d ∈ before, d.toNat < 0xC0) (after : List Char) :
    composed (before ++ c :: after) = before ++ c :: composed after := by
  rw [composed_append_cons hc, composed_of_plain h]

/-- Plain text behind a solitary character stays at the end. -/
theorem composed_append_cons_plain {c : Char} (hc : IsSolitary c) (before : List Char)
    {after : List Char} (h : ∀ d ∈ after, d.toNat < 0xC0) :
    composed (before ++ c :: after) = composed before ++ c :: after := by
  rw [composed_append_cons hc, composed_of_plain h]

theorem mem_of_mem_composed {c : Char} (hc : IsOriginal c) {text : List Char}
    (h : c ∈ composed text) : c ∈ text :=
  mem_of_mem_decomposed hc (mem_recompose hc.1 h)

/-- Composition neither makes nor loses a text of dots alone. -/
theorem composed_eq_iff_of_dots {dots : List Char} (h : ∀ c ∈ dots, c = '.') (text : List Char) :
    composed text = dots ↔ text = dots := by
  constructor
  · intro heq
    induction dots generalizing text with
    | nil => exact composed_eq_nil_iff.1 heq
    | cons c dots ih =>
      obtain rfl : c = '.' := h c List.mem_cons_self
      have hmem : '.' ∈ text :=
        mem_of_mem_composed isOriginal_dot (by rw [heq]; exact List.mem_cons_self)
      obtain ⟨before, after, rfl, hfirst⟩ := List.eq_append_cons_of_mem hmem
      rw [composed_append_cons isSolitary_dot] at heq
      cases hbefore : composed before with
      | nil =>
        obtain rfl := composed_eq_nil_iff.1 hbefore
        rw [hbefore] at heq
        rw [ih (fun d hd => h d (List.mem_cons_of_mem _ hd)) after (List.cons.inj heq).2]
        rfl
      | cons d rest =>
        rw [hbefore] at heq
        obtain rfl : d = '.' := (List.cons.inj heq).1
        have hd : '.' ∈ composed before := by rw [hbefore]; exact List.mem_cons_self
        exact absurd (mem_of_mem_composed isOriginal_dot hd) hfirst
  · rintro rfl
    refine composed_of_plain fun c hc => ?_
    rw [h c hc]
    decide

/-- Slashes are kept, so the pieces between them are composed one by one. -/
theorem composed_joinSlash (pieces : List (List Char)) :
    composed (joinSlash pieces) = joinSlash (pieces.map composed) := by
  induction pieces with
  | nil => rfl
  | cons piece rest ih =>
    by_cases hrest : rest = []
    · rw [hrest]
      rfl
    · rw [joinSlash_cons_of_ne_nil piece hrest, composed_append_cons isSolitary_slash, ih,
        List.map_cons, joinSlash_cons_of_ne_nil _ (by simp [hrest])]

theorem cutSlash_composed (text : List Char) :
    cutSlash (composed text) = (cutSlash text).map composed := by
  have hslash : ∀ piece ∈ (cutSlash text).map composed, '/' ∉ piece := by
    intro piece hpiece hmem
    obtain ⟨before, hbefore, rfl⟩ := List.mem_map.1 hpiece
    exact slash_not_mem_of_mem_cutSlash hbefore (mem_of_mem_composed isOriginal_slash hmem)
  have hjoin := composed_joinSlash (cutSlash text)
  rw [joinSlash_cutSlash] at hjoin
  rw [hjoin, cutSlash_joinSlash (by simp [cutSlash_ne_nil]) hslash]

end ServedMedia.Canonical
