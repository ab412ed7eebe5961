import ServedMedia.Proofs.Walk

/-!
# The statements of a tree in document order

`sites` lists every statement of a value, each one in front of the statements inside
it and with the statements around it.  A walk whose offer takes the statements of a
set offers those that lie in no statement of the set, one time each and in this order:

    (visitStatements offer tree s).2 =
      (offered taken false tree).foldl (fun s node => (offer s node).2) s     (visitStatements_snd)

Among them are the `outermost` statements of the set, and if there are none then no
statement belongs to the set                                          (outermost_eq_nil_iff).
-/

namespace ServedMedia.Syntax

open Json

/-! ## Algorithm -/

/-- A statement and the statements around it, from the outermost to the innermost. -/
structure Site where
  around : List Json
  node : Json
  deriving Repr

/-- The site as seen from outside of one more statement. -/
def Site.within (outer : Json) (site : Site) : Site := ⟨outer :: site.around, site.node⟩

mutual

/-- The statements of a value; `isBody` says whether it stands under the key of
statement lists. -/
def sites (isBody : Bool) : Json → List Site
  | .array items => sitesOfItems isBody items
  | .object members => sitesOfMembers members
  | _ => []

def sitesOfItems (isBody : Bool) : List Json → List Site
  | [] => []
  | item :: items =>
    (if isBody then ⟨[], item⟩ :: (sites false item).map (Site.within item)
      else sites false item) ++ sitesOfItems isBody items

def sitesOfMembers : List (String × Json) → List Site
  | [] => []
  | (key, value) :: members => sites (key == bodyKey) value ++ sitesOfMembers members

end

/-- Every statement of the value has the property. -/
def Throughout (P : Json → Prop) (isBody : Bool) (value : Json) : Prop :=
  ∀ site ∈ sites isBody value, P site.node

/-- The statements that lie in none that is taken. -/
def offered (taken : Json → Bool) (isBody : Bool) (value : Json) : List Json :=
  ((sites isBody value).filter fun site => !site.around.any taken).map Site.node

/-- The statements that are taken and lie in none that is. -/
def outermost (taken : Json → Bool) (isBody : Bool) (value : Json) : List Json :=
  ((sites isBody value).filter fun site => taken site.node && !site.around.any taken).map Site.node

/-! ## Lists of sites -/

theorem sitesOfItems_eq_flatMap (isBody : Bool) (items : List Json) :
    sitesOfItems isBody items = items.flatMap fun item =>
      if isBody then ⟨[], item⟩ :: (sites false item).map (Site.within item)
      else sites false item := by
  induction items with
  | nil => rfl
  | cons item items ih => rw [sitesOfItems, ih, List.flatMap_cons]

theorem sitesOfMembers_eq_flatMap (members : List (String × Json)) :
    sitesOfMembers members =
      members.flatMap fun member => sites (member.1 == bodyKey) member.2 := by
  induction members with
  | nil => rfl
  | cons member members ih => rw [sitesOfMembers, ih, List.flatMap_cons]

theorem throughout_array {P : Json → Prop} {isBody : Bool} {items : List Json} :
    Throughout P isBody (.array items) ↔
      ∀ item ∈ items, (isBody = true → P item) ∧ Throughout P false item := by
  unfold Throughout
  rw [sites, sitesOfItems_eq_flatMap, List.forall_mem_flatMap]
  cases isBody with
  | false => simp
  | true => simp [Site.within]

theorem throughout_object {P : Json → Prop} {isBody : Bool} {members : List (String × Json)} :
    Throughout P isBody (.object members) ↔
      ∀ member ∈ members, Throughout P (member.1 == bodyKey) member.2 := by
  unfold Throughout
  rw [sites, sitesOfMembers_eq_flatMap, List.forall_mem_flatMap]

theorem Throughout.imp {P Q : Json → Prop} {isBody : Bool} {value : Json}
    (h : Throughout P isBody value) (himp : ∀ node, P node → Q node) :
    Throughout Q isBody value :=
  fun site hsite => himp site.node (h site hsite)

/-! ## Offered statements -/

section
variable (taken : Json → Bool) (isBody : Bool)

theorem offered_array (items : List Json) :
    offered taken isBody (.array items) = items.flatMap fun item =>
      if isBody then item :: (if taken item then [] else offered taken false item)
      else offered taken false item := by
  unfold offered
  rw [sites, sitesOfItems_eq_flatMap, List.filter_flatMap, List.map_flatMap]
  congr 1
  funext item
  cases isBody with
  | false => rfl
  | true =>
    cases htaken : taken item with
    | true => simp [Site.within, htaken, List.filter_map, Function.comp_def]
    | false => simp [Site.within, htaken, List.filter_map, Function.comp_def]

theorem offered_object (members : List (String × Json)) :
    offered taken isBody (.object members) =
      members.flatMap fun member => offered taken (member.1 == bodyKey) member.2 := by
  unfold offered
  rw [sites, sitesOfMembers_eq_flatMap, List.filter_flatMap, List.map_flatMap]

theorem outermost_eq_filter (value : Json) :
    outermost taken isBody value = (offered taken isBody value).filter taken := by
  unfold outermost offered
  rw [List.filter_map, List.filter_filter]
  rfl

end

/-- What is taken is outermost or lies in what is. -/
theorem outermost_eq_nil_iff {taken : Json → Bool} {isBody : Bool} {value : Json} :
    outermost taken isBody value = [] ↔
      Throughout (fun node => taken node = false) isBody value := by
  rw [outermost_eq_filter]
  induction value using Json.inductionOn generalizing isBody with
  | array items ih =>
    rw [throughout_array, offered_array, List.filter_flatMap, List.flatMap_eq_nil_iff]
    refine forall₂_congr fun item hitem => ?_
    rw [← ih item hitem]
    cases isBody with
    | false => simp
    | true => cases htaken : taken item <;> simp [htaken]
  | object members ih =>
    rw [throughout_object, offered_object, List.filter_flatMap, List.flatMap_eq_nil_iff]
    exact forall₂_congr fun member hmember => ih member hmember
  | null | bool _ | number _ | string _ => simp [offered, Throughout, sites]

/-! ## The state of a walk -/

section
variable {σ : Type} {offer : Offer σ} {taken : Json → Bool}

mutual

theorem visit_snd (h : ∀ s node, (offer s node).1.isSome = taken node) (isBody : Bool) :
    ∀ (value : Json) (s : σ), (visit offer isBody value s).2 =
      (offered taken isBody value).foldl (fun s node => (offer s node).2) s
  | .array items, s => by
    rw [visit, offered_array]
    exact visitItems_snd h isBody items s
  | .object members, s => by
    rw [visit, offered_object]
    exact visitMembers_snd h members s
  | .null, _ | .bool _, _ | .number _, _ | .string _, _ => rfl

theorem visitItems_snd (h : ∀ s node, (offer s node).1.isSome = taken node) (isBody : Bool) :
    ∀ (items : List Json) (s : σ), (visitItems offer isBody items s).2 =
      (items.flatMap fun item =>
        if isBody then item :: (if taken item then [] else offered taken false item)
        else offered taken false item).foldl (fun s node => (offer s node).2) s
  | [], _ => rfl
  | item :: items, s => by
    have hitem := visit_snd h false item
    rw [visitItems, visitItems_snd h isBody items, List.flatMap_cons, List.foldl_append]
    congr 1
    cases isBody with
    | false => exact hitem s
    | true =>
      have hfirst := h s item
      cases hoffer : offer s item with
      | mk answer s' =>
        rw [hoffer] at hfirst
        cases answer with
        | none => simp [← hfirst, hitem, hoffer]
        | some node => simp [← hfirst, hoffer]

theorem visitMembers_snd (h : ∀ s node, (offer s node).1.isSome = taken node) :
    ∀ (members : List (String × Json)) (s : σ), (visitMembers offer members s).2 =
      (members.flatMap fun member => offered taken (member.1 == bodyKey) member.2).foldl
        (fun s node => (offer s node).2) s
  | [], _ => rfl
  | (key, value) :: members, s => by
    rw [visitMembers, List.flatMap_cons, List.foldl_append, visitMembers_snd h members,
      visit_snd h (key == bodyKey) value s]

end

theorem visitStatements_snd (h : ∀ s node, (offer s node).1.isSome = taken node) (tree : Json)
    (s : σ) : (visitStatements offer tree s).2 =
      (offered taken false tree).foldl (fun s node => (offer s node).2) s :=
  visit_snd h false tree s

end

end ServedMedia.Syntax
