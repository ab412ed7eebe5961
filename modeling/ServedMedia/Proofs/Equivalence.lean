import ServedMedia.Proofs.Decomposing

/-!
# Canonical equivalence

Two texts are canonically equivalent if they have the same decomposed form.  This is kept
by putting texts together, and a composed text is equivalent to the text it comes from:

    decomposed a = decomposed a' → decomposed b = decomposed b' →
      decomposed (a ++ b) = decomposed (a' ++ b')                    (decomposed_append_congr)
    decomposed (composed text) = decomposed text                       (decomposed_composed)

So composition is a normal form: it changes nothing the second time, and it tells apart just
the texts that are not equivalent           (composed_composed, composed_eq_composed_iff).

The marks behind a starter are ordered by insertion, in which two marks of different classes
may change places.  Composing takes a mark out from behind others of smaller classes, and
decomposing puts it back in front of them, so ordering makes good for it.
-/

namespace ServedMedia.Canonical

/-- Whether two neighbours are in order: no mark stands behind one of a greater class. -/
def InOrder (c d : Char) : Prop := combiningClass d = 0 ∨ combiningClass c ≤ combiningClass d

/-- A text that is as it is when all its characters are decomposed. -/
def Settled (text : List Char) : Prop := ∀ c ∈ text, decompose c = [c]

/-! ## Ordering -/

theorem insertMark_of_inOrder {c d : Char} (h : InOrder c d) (rest : List Char) :
    insertMark c (d :: rest) = c :: d :: rest := by
  have hstay : ¬ (0 < combiningClass d ∧ combiningClass d < combiningClass c) := by
    rcases h with h | h <;> omega
  rw [insertMark, if_neg hstay]

theorem insertMark_of_not_inOrder {c d : Char} (h : ¬ InOrder c d) (rest : List Char) :
    insertMark c (d :: rest) = d :: insertMark c rest := by
  obtain ⟨hmark, hless⟩ := not_or.1 h
  rw [insertMark, if_pos ⟨Nat.pos_of_ne_zero hmark, Nat.lt_of_not_le hless⟩]

theorem isChain_insertMark {text : List Char} (h : text.IsChain InOrder) (c : Char) :
    (insertMark c text).IsChain InOrder := by
  induction text with
  | nil => exact List.isChain_singleton c
  | cons d rest ih =>
    by_cases hcd : InOrder c d
    · rw [insertMark_of_inOrder hcd]
      exact List.isChain_cons_cons.2 ⟨hcd, h⟩
    · have hdc : InOrder d c := by
        obtain ⟨hmark, hless⟩ := not_or.1 hcd
        exact .inr (by omega)
      rw [insertMark_of_not_inOrder hcd]
      have hrest := ih h.tail
      cases rest with
      | nil => exact List.isChain_cons_cons.2 ⟨hdc, hrest⟩
      | cons e rest =>
        by_cases hce : InOrder c e
        · rw [insertMark_of_inOrder hce] at hrest ⊢
          exact List.isChain_cons_cons.2 ⟨hdc, hrest⟩
        · rw [insertMark_of_not_inOrder hce] at hrest ⊢
          exact List.isChain_cons_cons.2 ⟨(List.isChain_cons_cons.1 h).1, hrest⟩

theorem isChain_order (text : List Char) : (order text).IsChain InOrder := by
  induction text with
  | nil => exact List.isChain_nil
  | cons c rest ih => exact isChain_insertMark ih c

theorem order_of_isChain {text : List Char} (h : text.IsChain InOrder) : order text = text := by
  induction text with
  | nil => rfl
  | cons c rest ih =>
    have hrest : order rest = rest := ih h.tail
    rw [order, List.foldr_cons, ← order, hrest]
    cases rest with
    | nil => rfl
    | cons d rest => exact insertMark_of_inOrder (List.isChain_cons_cons.1 h).1 rest

/-- Two marks of different classes may be put in front of a text one after the other in
either order. -/
theorem insertMark_comm {c d : Char} (hmark : 0 < combiningClass d)
    (hless : combiningClass d < combiningClass c) (text : List Char) :
    insertMark c (insertMark d text) = insertMark d (insertMark c text) := by
  have hcd : ¬ InOrder c d := not_or.2 ⟨by omega, by omega⟩
  have hdc : InOrder d c := .inr (by omega)
  induction text with
  | nil =>
    show insertMark c [d] = insertMark d [c]
    rw [insertMark_of_not_inOrder hcd, insertMark_of_inOrder hdc]
    rfl
  | cons e rest ih =>
    by_cases hde : InOrder d e
    · rw [insertMark_of_inOrder hde, insertMark_of_not_inOrder hcd]
      by_cases hce : InOrder c e
      · rw [insertMark_of_inOrder hce, insertMark_of_inOrder hdc]
      · rw [insertMark_of_not_inOrder hce, insertMark_of_inOrder hde]
    · have hce : ¬ InOrder c e := by
        obtain ⟨hclass, hle⟩ := not_or.1 hde
        exact not_or.2 ⟨hclass, by omega⟩
      rw [insertMark_of_not_inOrder hde, insertMark_of_not_inOrder hce,
        insertMark_of_not_inOrder hce, insertMark_of_not_inOrder hde, ih]

theorem foldr_insertMark_insertMark (c : Char) (front text : List Char) :
    (insertMark c front).foldr insertMark text = insertMark c (front.foldr insertMark text) := by
  induction front with
  | nil => rfl
  | cons d rest ih =>
    by_cases hcd : InOrder c d
    · rw [insertMark_of_inOrder hcd]
      rfl
    · obtain ⟨hmark, hless⟩ := not_or.1 hcd
      rw [insertMark_of_not_inOrder hcd, List.foldr_cons, List.foldr_cons, ih]
      exact (insertMark_comm (by omega) (by omega) _).symm

theorem foldr_insertMark_order (front text : List Char) :
    (order front).foldr insertMark text = front.foldr insertMark text := by
  induction front with
  | nil => rfl
  | cons c rest ih =>
    rw [order, List.foldr_cons, ← order, foldr_insertMark_insertMark, ih, List.foldr_cons]

theorem order_append (before after : List Char) :
    order (before ++ after) = before.foldr insertMark (order after) :=
  List.foldr_append

/-- A mark may move in front of marks of smaller classes. -/
theorem order_append_mark {marks : List Char} {c : Char}
    (h : ∀ d ∈ marks, 0 < combiningClass d ∧ combiningClass d < combiningClass c)
    (rest : List Char) : order (marks ++ c :: rest) = order (c :: marks ++ rest) := by
  induction marks with
  | nil => rfl
  | cons d marks ih =>
    have hd := h d List.mem_cons_self
    have hmarks := ih fun e he => h e (List.mem_cons_of_mem _ he)
    show insertMark d (order (marks ++ c :: rest)) =
      insertMark c (insertMark d (order (marks ++ rest)))
    rw [hmarks, insertMark_comm hd.1 hd.2]
    rfl

theorem order_perm (text : List Char) : (order text).Perm text := by
  have hinsert : ∀ c front, (insertMark c front).Perm (c :: front) := by
    intro c front
    induction front with
    | nil => exact List.Perm.refl _
    | cons d rest ih =>
      by_cases hcd : InOrder c d
      · rw [insertMark_of_inOrder hcd]
      · rw [insertMark_of_not_inOrder hcd]
        exact (ih.cons d).trans (List.Perm.swap c d rest)
  induction text with
  | nil => exact List.Perm.refl _
  | cons c rest ih => exact (hinsert c (order rest)).trans (ih.cons c)

/-! ## Decomposing -/

theorem flatMap_of_settled {text : List Char} (h : Settled text) :
    text.flatMap decompose = text := by
  induction text with
  | nil => rfl
  | cons c rest ih =>
    rw [List.flatMap_cons, h c List.mem_cons_self,
      ih fun d hd => h d (List.mem_cons_of_mem _ hd)]
    rfl

theorem settled_decomposed (text : List Char) : Settled (decomposed text) := by
  intro c hc
  obtain ⟨d, -, hmem⟩ := List.mem_flatMap.1 (mem_order hc)
  exact decompose_of_mem hmem

theorem decomposed_of_settled {text : List Char} (hsettled : Settled text)
    (hchain : text.IsChain InOrder) : decomposed text = text := by
  rw [decomposed, flatMap_of_settled hsettled, order_of_isChain hchain]

theorem decomposed_append (before after : List Char) :
    decomposed (before ++ after) =
      (decomposed before).foldr insertMark (decomposed after) := by
  unfold decomposed
  rw [List.flatMap_append, order_append, foldr_insertMark_order]

theorem decomposed_append_congr {before before' after after' : List Char}
    (hbefore : decomposed before = decomposed before')
    (hafter : decomposed after = decomposed after') :
    decomposed (before ++ after) = decomposed (before' ++ after') := by
  rw [decomposed_append, hbefore, hafter, ← decomposed_append]

theorem decomposed_append_left (before : List Char) {after after' : List Char}
    (h : decomposed after = decomposed after') :
    decomposed (before ++ after) = decomposed (before ++ after') :=
  decomposed_append_congr rfl h

/-! ## Composing -/

theorem decomposed_cons_of_settled (starter : Char) {text : List Char} (h : Settled text) :
    decomposed (starter :: text) = order (decompose starter ++ text) := by
  rw [decomposed, List.flatMap_cons, flatMap_of_settled h]

/-- A mark may be left out between neighbours in order. -/
theorem isChain_skip {mark c : Char} {rest : List Char}
    (h : (mark :: c :: rest).IsChain InOrder) (hle : combiningClass mark ≤ combiningClass c) :
    (mark :: rest).IsChain InOrder := by
  cases rest with
  | nil => exact List.isChain_singleton mark
  | cons d rest =>
    obtain ⟨-, hrest⟩ := List.isChain_cons_cons.1 h
    obtain ⟨hcd, hrest⟩ := List.isChain_cons_cons.1 hrest
    exact List.isChain_cons_cons.2 ⟨hcd.imp_right (Nat.le_trans hle), hrest⟩

/-- Composing onto a starter is undone by decomposing.  The marks that were gone by are in
order, last one first, and so is each of them with what comes next. -/
theorem decomposed_composeOnto {starter : Char} {marks text : List Char}
    (hmarks : ∀ mark ∈ marks, 0 < combiningClass mark)
    (hsorted : marks.Pairwise fun a b => combiningClass b ≤ combiningClass a)
    (hnext : ∀ mark ∈ marks, (mark :: text).IsChain InOrder)
    (hchain : text.IsChain InOrder) (hsettled : Settled (marks.reverse ++ text)) :
    decomposed (composeOnto starter marks text) =
      decomposed (starter :: (marks.reverse ++ text)) := by
  induction text generalizing starter marks with
  | nil => rw [composeOnto, List.append_nil]
  | cons c rest ih =>
    unfold composeOnto
    dsimp only
    split
    · next composite hcompose =>
      obtain ⟨hfree, hsome⟩ := Option.ite_none_left_eq_some.1 hcompose
      -- What is not blocked by the last mark is of a greater class than all of them.
      have hless : ∀ mark ∈ marks, combiningClass mark < combiningClass c := by
        cases marks with
        | nil => simp
        | cons last marks =>
          have hlast : combiningClass last < combiningClass c := by simpa using hfree
          intro mark hmark
          rcases List.mem_cons.1 hmark with rfl | hmark
          · exact hlast
          · exact Nat.lt_of_le_of_lt ((List.pairwise_cons.1 hsorted).1 mark hmark) hlast
      have hrest : Settled (marks.reverse ++ rest) := fun d hd =>
        hsettled d (((List.sublist_cons_self c rest).append_left marks.reverse).mem hd)
      have hmove : order (marks.reverse ++ c :: rest) = order (c :: (marks.reverse ++ rest)) :=
        order_append_mark (fun d hd => ⟨hmarks d (List.mem_reverse.1 hd),
          hless d (List.mem_reverse.1 hd)⟩) rest
      rw [ih hmarks hsorted
          (fun mark hmark => isChain_skip (hnext mark hmark) (Nat.le_of_lt (hless mark hmark)))
          hchain.tail hrest,
        decomposed_cons_of_settled composite hrest, decomposed_cons_of_settled starter hsettled,
        decompose_of_compose? hsome, List.append_assoc, order_append (decompose starter),
        order_append (decompose starter), hmove, List.singleton_append]
    · split
      · have hrest : Settled rest := fun d hd =>
          hsettled d (List.mem_append_right _ (List.mem_cons_of_mem _ hd))
        have hcompose : decomposed (composeOnto c [] rest) = decomposed (c :: rest) :=
          ih (List.forall_mem_nil _) List.Pairwise.nil (List.forall_mem_nil _) hchain.tail hrest
        exact decomposed_append_left (starter :: marks.reverse) hcompose
      · next hclass =>
        have hle : ∀ mark ∈ marks, combiningClass mark ≤ combiningClass c := fun mark hmark =>
          (List.isChain_cons_cons.1 (hnext mark hmark)).1.resolve_left hclass
        have happend : (c :: marks).reverse ++ rest = marks.reverse ++ c :: rest := by simp
        have hcompose : decomposed (composeOnto starter (c :: marks) rest) =
            decomposed (starter :: ((c :: marks).reverse ++ rest)) :=
          ih (List.forall_mem_cons.2 ⟨Nat.pos_of_ne_zero hclass, hmarks⟩)
            (List.pairwise_cons.2 ⟨hle, hsorted⟩)
            (List.forall_mem_cons.2 ⟨hchain, fun mark hmark =>
              isChain_skip (hnext mark hmark) (hle mark hmark)⟩)
            hchain.tail (by rwa [happend])
        rw [hcompose, happend]

theorem decomposed_recompose {text : List Char} (hsettled : Settled text)
    (hchain : text.IsChain InOrder) : decomposed (recompose text) = decomposed text := by
  induction text with
  | nil => rfl
  | cons c rest ih =>
    have hrest : Settled rest := fun d hd => hsettled d (List.mem_cons_of_mem _ hd)
    rw [recompose]
    split
    · exact decomposed_composeOnto (by simp) List.Pairwise.nil (by simp) hchain.tail hrest
    · exact decomposed_append_left [c] (ih hrest hchain.tail)

/-! ## Top theorems -/

theorem decomposed_composed (text : List Char) :
    decomposed (composed text) = decomposed text := by
  have hsettled := settled_decomposed text
  have hchain : (decomposed text).IsChain InOrder := isChain_order _
  rw [composed, decomposed_recompose hsettled hchain, decomposed_of_settled hsettled hchain]

theorem composed_composed (text : List Char) : composed (composed text) = composed text :=
  composed_eq_of_equivalent (decomposed_composed text)

theorem composed_eq_composed_iff {a b : List Char} :
    composed a = composed b ↔ decomposed a = decomposed b := by
  refine ⟨fun h => ?_, composed_eq_of_equivalent⟩
  rw [← decomposed_composed a, h, decomposed_composed]

end ServedMedia.Canonical
