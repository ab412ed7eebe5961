import ServedMedia.Proofs.Sites

/-!
# One walk after another

What two walks leave is left by one walk as well, whose decision about a statement is
made from the decisions of the two:

    substitute second isBody (substitute first isBody value) =
      substitute (followedBy first second) isBody value           (substitute_substitute)

A walk leaves a tree as it is exactly if no statement has something to take its place,
where nothing takes its own place                                 (substitute_eq_self_iff).

A decision is shallow if the statements inside a node do not matter to it: what was
done to them is done to the replacement as well.
-/

namespace ServedMedia.Syntax

open Json

/-! ## Algorithm -/

/-- What two walks, one after the other, put in the place of a statement. -/
def followedBy (first second : Json → Option Json) (node : Json) : Option Json :=
  match first node with
  | some replacement => some ((second replacement).getD (substitute second false replacement))
  | none => second (substitute first false node)

/-- A walk over the statements inside a node shows in its replacement, and nowhere else. -/
def Shallow (edit : Json → Option Json) : Prop :=
  ∀ inner node, edit (substitute inner false node) = (edit node).map (substitute inner false)

/-! ## One walk -/

section
variable {edit other : Json → Option Json} {isBody : Bool} {value : Json}

theorem substitute_congr (h : Throughout (fun node => edit node = other node) isBody value) :
    substitute edit isBody value = substitute other isBody value := by
  induction value using Json.inductionOn generalizing isBody with
  | array items ih =>
    rw [throughout_array] at h
    rw [substitute, substitute, substituteItems_eq_map, substituteItems_eq_map]
    congr 1
    apply List.map_congr_left
    intro item hitem
    obtain ⟨hself, hinside⟩ := h item hitem
    rw [ih item hitem hinside]
    cases isBody with
    | false => rfl
    | true => rw [hself rfl]
  | object members ih =>
    rw [throughout_object] at h
    rw [substitute, substitute, substituteMembers_eq_map, substituteMembers_eq_map]
    congr 1
    apply List.map_congr_left
    intro member hmember
    rw [ih member hmember (h member hmember)]
  | null | bool _ | number _ | string _ => rfl

theorem substitute_eq_self_iff (hne : ∀ node, edit node ≠ some node) :
    substitute edit isBody value = value ↔
      Throughout (fun node => edit node = none) isBody value := by
  induction value using Json.inductionOn generalizing isBody with
  | array items ih =>
    rw [throughout_array, substitute, substituteItems_eq_map, Json.array.injEq]
    conv_lhs => rhs; rw [← List.map_id items]
    rw [List.map_inj_left]
    refine forall₂_congr fun item hitem => ?_
    rw [← ih item hitem]
    cases isBody with
    | false => simp
    | true =>
      cases hedit : edit item with
      | none => simp
      | some node =>
        have hother : node ≠ item := by
          rintro rfl
          exact hne node hedit
        simp [hother]
  | object members ih =>
    rw [throughout_object, substitute, substituteMembers_eq_map, Json.object.injEq]
    conv_lhs => rhs; rw [← List.map_id members]
    rw [List.map_inj_left]
    refine forall₂_congr fun member hmember => ?_
    rw [← ih member hmember]
    simp [Prod.ext_iff]
  | null | bool _ | number _ | string _ => simp [substitute, Throughout, sites]

theorem substitute_of_none (h : Throughout (fun node => edit node = none) isBody value) :
    substitute edit isBody value = value :=
  calc substitute edit isBody value
      = substitute (fun _ => none) isBody value := substitute_congr h
    _ = value := (substitute_eq_self_iff (by simp)).2 fun _ _ => rfl

/-- Where there are no statements, nothing is replaced. -/
theorem substitute_of_sites_eq_nil (h : sites isBody value = []) :
    substitute edit isBody value = value :=
  substitute_of_none fun site hsite => by simp [h] at hsite

end

/-! ## Two walks -/

theorem substitute_substitute (first second : Json → Option Json) (isBody : Bool) (value : Json) :
    substitute second isBody (substitute first isBody value) =
      substitute (followedBy first second) isBody value := by
  induction value using Json.inductionOn generalizing isBody with
  | array items ih =>
    simp only [substitute, substituteItems_eq_map, List.map_map]
    congr 1
    apply List.map_congr_left
    intro item hitem
    have hinside := ih item hitem false
    cases isBody with
    | false => exact hinside
    | true =>
      cases hfirst : first item with
      | none => simp [followedBy, hfirst, hinside]
      | some replacement => simp [followedBy, hfirst]
  | object members ih =>
    simp only [substitute, substituteMembers_eq_map, List.map_map]
    congr 1
    apply List.map_congr_left
    intro member hmember
    exact Prod.ext rfl (ih member hmember _)
  | null | bool _ | number _ | string _ => rfl

/-- If the second walk leaves the replacements of the first one, each of the two puts its
own replacement in the place of a statement, with the other's replacements inside. -/
theorem followedBy_eq_or {first second : Json → Option Json} (hshallow : Shallow second)
    (hkeep : ∀ node replacement, first node = some replacement → second replacement = none)
    (node : Json) : followedBy first second node =
      ((first node).map (substitute second false)).or
        ((second node).map (substitute first false)) := by
  unfold followedBy
  cases hfirst : first node with
  | none => exact hshallow first node
  | some replacement => simp [hkeep node replacement hfirst]

end ServedMedia.Syntax
