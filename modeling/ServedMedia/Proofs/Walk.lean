import Mathlib.Data.List.Induction
import ServedMedia.Proofs.Position

/-!
# What a walk puts in the place of statements

If a walk decides about each statement without its state, the tree that it leaves
is `substitute edit` of the tree, and the state only adds a record:

    (∀ s node, (offer s node).1 = edit node) →
      (visitStatements offer tree s).1 = substitute edit false tree           (visitStatements_fst)

A statement is replaced if there is something for it and no statement around it is
replaced.  At every position that is neither a replaced statement's nor inside one,
the new tree has the node of the old one, with its own statements replaced:

    (substitute edit false tree).at? position =
      (tree.at? position).map (substitute edit (endsAtBody position))         (at?_substitute)
    (substitute edit false tree).at? position = edit node         (at?_substitute_of_replaced)
-/

namespace ServedMedia.Syntax

open Json

/-! ## Algorithm -/

mutual

/-- The value with its statements replaced; `isBody` says whether it stands under the
key of statement lists. -/
def substitute (edit : Json → Option Json) (isBody : Bool) : Json → Json
  | .array items => .array (substituteItems edit isBody items)
  | .object members => .object (substituteMembers edit members)
  | value => value

def substituteItems (edit : Json → Option Json) (isBody : Bool) : List Json → List Json
  | [] => []
  | item :: items =>
    (if isBody then (edit item).getD (substitute edit false item)
      else substitute edit false item) ::
      substituteItems edit isBody items

def substituteMembers (edit : Json → Option Json) : List (String × Json) → List (String × Json)
  | [] => []
  | (key, value) :: members =>
    (key, substitute edit (key == bodyKey) value) :: substituteMembers edit members

end

/-- A statement of the tree that has something to take its place. -/
def Matches (edit : Json → Option Json) (tree : Json) (position : Position) : Prop :=
  IsStatement position ∧ ∃ node, tree.at? position = some node ∧ (edit node).isSome = true

/-- A statement that has something to take its place and lies in no other such statement. -/
def Replaced (edit : Json → Option Json) (tree : Json) (position : Position) : Prop :=
  Matches edit tree position ∧
    ∀ outer, Encloses outer position → ¬ Matches edit tree outer

/-- Whether a step leads to the value under the key of statement lists. -/
def isBodyStep : Step → Bool
  | .key name => name == bodyKey
  | .item _ => false

/-- Whether the value at a position stands under the key of statement lists. -/
def endsAtBody (position : Position) : Bool := position.getLast?.any isBodyStep

/-! ## Walks without state -/

section
variable {σ : Type} {offer : Offer σ} {edit : Json → Option Json}

mutual

theorem visit_fst (h : ∀ s node, (offer s node).1 = edit node) (isBody : Bool) :
    ∀ (value : Json) (s : σ), (visit offer isBody value s).1 = substitute edit isBody value
  | .array items, s => congrArg Json.array (visitItems_fst h isBody items s)
  | .object members, s => congrArg Json.object (visitMembers_fst h members s)
  | .null, _ | .bool _, _ | .number _, _ | .string _, _ => rfl

theorem visitItems_fst (h : ∀ s node, (offer s node).1 = edit node) (isBody : Bool) :
    ∀ (items : List Json) (s : σ),
      (visitItems offer isBody items s).1 = substituteItems edit isBody items
  | [], _ => rfl
  | item :: items, s => by
    have hitem := visit_fst h false item
    have hitems := visitItems_fst h isBody items
    rw [visitItems, substituteItems, hitems]
    cases isBody with
    | false => simp [hitem]
    | true =>
      have hfirst := h s item
      cases hoffer : offer s item with
      | mk answer s' =>
        rw [hoffer] at hfirst
        cases answer with
        | none => simp [← hfirst, hitem]
        | some node => simp [← hfirst]

theorem visitMembers_fst (h : ∀ s node, (offer s node).1 = edit node) :
    ∀ (members : List (String × Json)) (s : σ),
      (visitMembers offer members s).1 = substituteMembers edit members
  | [], _ => rfl
  | (key, value) :: members, s => by
    rw [visitMembers, substituteMembers, visitMembers_fst h members,
      visit_fst h (key == bodyKey) value s]

end

theorem visitStatements_fst (h : ∀ s node, (offer s node).1 = edit node) (tree : Json) (s : σ) :
    (visitStatements offer tree s).1 = substitute edit false tree :=
  visit_fst h false tree s

end

/-! ## Children -/

section
variable (edit : Json → Option Json) (isBody : Bool)

theorem substituteItems_eq_map (items : List Json) :
    substituteItems edit isBody items =
      items.map fun item =>
        if isBody then (edit item).getD (substitute edit false item)
        else substitute edit false item := by
  induction items with
  | nil => rfl
  | cons item items ih => rw [substituteItems, ih, List.map_cons]

/-- The items of an array that is no statement list. -/
theorem substituteItems_plain (item : Json) (items : List Json) :
    substituteItems edit false (item :: items) =
      substitute edit false item :: substituteItems edit false items := rfl

theorem substituteMembers_eq_map (members : List (String × Json)) :
    substituteMembers edit members =
      members.map fun member => (member.1, substitute edit (member.1 == bodyKey) member.2) := by
  induction members with
  | nil => rfl
  | cons member members ih => rw [substituteMembers, ih, List.map_cons]

theorem get?_substituteMembers (key : String) (members : List (String × Json)) :
    Members.get? key (substituteMembers edit members) =
      (Members.get? key members).map (substitute edit (key == bodyKey)) := by
  induction members with
  | nil => rfl
  | cons member members ih =>
    obtain ⟨k, value⟩ := member
    rw [substituteMembers, Members.get?, Members.get?]
    by_cases h : k = key
    · simp [h]
    · simp [h, ih]

theorem outline_substitute (value : Json) :
    (substitute edit isBody value).outline = value.outline := by
  cases value with
  | array items =>
    rw [substitute, outline, outline, substituteItems_eq_map, List.map_map]
    rfl
  | object members =>
    rw [substitute, outline, outline, substituteMembers_eq_map, List.map_map]
    rfl
  | null | bool _ | number _ | string _ => rfl

theorem member?_substitute (key : String) (value : Json) :
    (substitute edit isBody value).member? key =
      (value.member? key).map (substitute edit (key == bodyKey)) := by
  cases value with
  | object members => exact get?_substituteMembers edit key members
  | array items => rfl
  | null | bool _ | number _ | string _ => rfl

theorem step?_item_substitute (index : Nat) (value : Json) :
    (substitute edit isBody value).step? (.item index) =
      (value.step? (.item index)).map fun item =>
        if isBody then (edit item).getD (substitute edit false item)
        else substitute edit false item := by
  cases value with
  | array items => simp [substitute, step?, substituteItems_eq_map]
  | object members => rfl
  | null | bool _ | number _ | string _ => rfl

end

/-! ## Positions -/

section
variable {edit : Json → Option Json} {tree : Json} {position : Position}

/-- A statement with something to take its place is replaced, or one around it is. -/
theorem exists_replaced_of_matches (h : Matches edit tree position) :
    ∃ outer, outer <+: position ∧ Replaced edit tree outer :=
  exists_outermost h

theorem not_matches_of_not_replaced
    (h : ∀ outer, outer <+: position → ¬ Replaced edit tree outer) :
    ¬ Matches edit tree position := by
  intro hmatch
  obtain ⟨outer, hle, hreplaced⟩ := exists_replaced_of_matches hmatch
  exact h outer hle hreplaced

theorem not_matches_of_none {node : Json} (hnode : tree.at? position = some node)
    (hnone : edit node = none) : ¬ Matches edit tree position := by
  rintro ⟨-, other, hother, hsome⟩
  obtain rfl : node = other := by simpa [hnode] using hother
  rw [hnone] at hsome
  cases hsome

theorem endsAtBody_concat (outer : Position) (step : Step) :
    endsAtBody (outer ++ [step]) = isBodyStep step := by
  simp [endsAtBody]

theorem endsAtBody_of_isStatement (h : IsStatement position) : endsAtBody position = false := by
  obtain ⟨outer, index, rfl⟩ := h
  simp [endsAtBody, isBodyStep]

theorem getLast?_of_endsAtBody (h : endsAtBody position = true) :
    position.getLast? = some (.key bodyKey) := by
  unfold endsAtBody at h
  cases hlast : position.getLast? with
  | none => simp [hlast] at h
  | some step =>
    cases step with
    | key name => simpa [hlast, isBodyStep] using h
    | item index => simp [hlast, isBodyStep] at h

/-- One step below a node that is kept. -/
theorem step?_substitute {node : Json} {step : Step} (hnode : tree.at? position = some node)
    (hkept : ¬ Matches edit tree (position ++ [step])) :
    (substitute edit (endsAtBody position) node).step? step =
      (node.step? step).map (substitute edit (isBodyStep step)) := by
  cases step with
  | key name =>
    rw [← member?_eq_step?, ← member?_eq_step?, member?_substitute]
    rfl
  | item index =>
    rw [step?_item_substitute]
    cases hchild : node.step? (.item index) with
    | none => rfl
    | some child =>
      cases hbody : endsAtBody position with
      | false => rfl
      | true =>
        have hstatement : IsStatement (position ++ [.item index]) :=
          isStatement_concat_item (getLast?_of_endsAtBody hbody) index
        have hat : tree.at? (position ++ [.item index]) = some child := by
          rw [at?_concat, hnode]
          exact hchild
        have hnone : edit child = none := by
          cases hedit : edit child with
          | none => rfl
          | some replacement => exact absurd ⟨hstatement, child, hat, by simp [hedit]⟩ hkept
        simp [hnone, isBodyStep]

theorem at?_substitute (hkept : ∀ outer, outer <+: position → ¬ Matches edit tree outer) :
    (substitute edit false tree).at? position =
      (tree.at? position).map (substitute edit (endsAtBody position)) := by
  induction position using List.reverseRecOn with
  | nil => rfl
  | append_singleton outer step ih =>
    have hparent := ih fun first hfirst =>
      hkept first (hfirst.trans (List.prefix_append outer [step]))
    rw [at?_concat, at?_concat, hparent, endsAtBody_concat]
    cases houter : tree.at? outer with
    | none => rfl
    | some parent => exact step?_substitute houter (hkept _ (List.prefix_refl _))

theorem at?_substitute_of_replaced {node : Json} (hnode : tree.at? position = some node)
    (h : Replaced edit tree position) : (substitute edit false tree).at? position = edit node := by
  obtain ⟨⟨⟨init, index, rfl⟩, node', hnode', hsome⟩, hkept⟩ := h
  obtain rfl : node' = node := by simpa [hnode'] using hnode
  have hcut : init ++ [Step.key bodyKey, Step.item index] =
      (init ++ [.key bodyKey]) ++ [.item index] := by simp
  rw [hcut, at?_concat] at hnode ⊢
  cases hbody : tree.at? (init ++ [.key bodyKey]) with
  | none => simp [hbody] at hnode
  | some body =>
    have hends : endsAtBody (init ++ [.key bodyKey]) = true := by
      simp [endsAtBody_concat, isBodyStep]
    have hlist : (substitute edit false tree).at? (init ++ [.key bodyKey]) =
        some (substitute edit true body) := by
      rw [at?_substitute, hbody, hends]
      · rfl
      · intro outer hle
        apply hkept outer
        rw [hcut]
        exact Encloses.of_le hle (encloses_concat _ _)
    rw [hlist]
    rw [hbody] at hnode
    have hitem : body.step? (.item index) = some node' := hnode
    obtain ⟨replacement, hreplacement⟩ := Option.isSome_iff_exists.1 hsome
    show (substitute edit true body).step? (.item index) = edit node'
    rw [step?_item_substitute, hitem]
    simp [hreplacement]

end

end ServedMedia.Syntax
