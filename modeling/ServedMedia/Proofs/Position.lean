import ServedMedia.Syntax.Walk

/-!
# Positions in a tree

A position leads from the root of a tree to a node, by the keys of objects and
the places of array items:

    tree.at? (outer ++ inner) = (tree.at? outer).bind (·.at? inner)      (at?_append)

Two nodes have one outline if they differ in nothing but what stands below them:
scalars are equal, arrays are of one length, and objects have the same keys in the
same order.
-/

namespace ServedMedia.Json

/-! ## Algorithm -/

/-- One step down. -/
inductive Step where
  | key (name : String)
  | item (index : Nat)
  deriving DecidableEq, Repr

/-- The steps from the root down. -/
abbrev Position := List Step

/-- The child that a step leads to. -/
def step? : Json → Step → Option Json
  | .object members, .key name => Members.get? name members
  | .array items, .item index => items[index]?
  | _, _ => none

/-- The node at a position. -/
def at? : Json → Position → Option Json
  | value, [] => some value
  | value, step :: rest => (value.step? step).bind fun child => child.at? rest

/-- A node with nothing left below it. -/
def outline : Json → Json
  | .array items => .array (items.map fun _ => .null)
  | .object members => .object (members.map fun member => (member.1, .null))
  | value => value

/-- The items of arrays under the key of statement lists. -/
def IsStatement (position : Position) : Prop :=
  ∃ outer index, position = outer ++ [.key Syntax.bodyKey, .item index]

/-- The first position is passed on the way to the second. -/
def Encloses (outer position : Position) : Prop := outer <+: position ∧ outer ≠ position

/-! ## Lemmas -/

theorem at?_append (value : Json) (outer inner : Position) :
    value.at? (outer ++ inner) = (value.at? outer).bind fun node => node.at? inner := by
  induction outer generalizing value with
  | nil => rfl
  | cons step rest ih =>
    rw [List.cons_append, at?, at?]
    cases value.step? step with
    | none => rfl
    | some child => exact ih child

theorem at?_concat (value : Json) (outer : Position) (step : Step) :
    value.at? (outer ++ [step]) = (value.at? outer).bind fun node => node.step? step := by
  rw [at?_append]
  congr 1
  funext node
  rw [at?]
  cases node.step? step <;> rfl

theorem member?_eq_step? (key : String) (value : Json) :
    value.member? key = value.step? (.key key) := by
  cases value <;> rfl

/-- A position is a statement's if its last two steps are. -/
theorem isStatement_concat_item {outer : Position} (h : outer.getLast? = some (.key Syntax.bodyKey))
    (index : Nat) : IsStatement (outer ++ [.item index]) := by
  obtain ⟨init, rfl⟩ := List.getLast?_eq_some_iff.1 h
  exact ⟨init, index, by simp⟩

theorem Encloses.of_le {first outer position : Position} (hle : first <+: outer)
    (h : Encloses outer position) : Encloses first position := by
  refine ⟨hle.trans h.1, ?_⟩
  rintro rfl
  exact h.2 (h.1.eq_of_length_le hle.length_le)

theorem Encloses.length_lt {outer position : Position} (h : Encloses outer position) :
    outer.length < position.length := by
  rcases Nat.lt_or_eq_of_le h.1.length_le with hlt | heq
  · exact hlt
  · exact absurd (h.1.eq_of_length heq) h.2

theorem encloses_concat (outer : Position) (step : Step) : Encloses outer (outer ++ [step]) :=
  ⟨List.prefix_append outer [step], by simp⟩

theorem forall_le_of_encloses {P : Position → Prop} {position : Position} (hself : P position)
    (h : ∀ outer, Encloses outer position → P outer) : ∀ outer, outer <+: position → P outer := by
  intro outer hle
  by_cases heq : outer = position
  · rw [heq]
    exact hself
  · exact h outer ⟨hle, heq⟩

/-- Of the positions with a property on the way to a node, one lies in no other. -/
theorem exists_outermost {P : Position → Prop} {position : Position} (h : P position) :
    ∃ outer, outer <+: position ∧ P outer ∧ ∀ first, Encloses first outer → ¬ P first := by
  induction hn : position.length using Nat.strongRecOn generalizing position with
  | ind n ih =>
    by_cases hex : ∃ outer, Encloses outer position ∧ P outer
    · obtain ⟨outer, hencloses, houter⟩ := hex
      have hlt : outer.length < n := by
        have := hencloses.length_lt
        omega
      obtain ⟨first, hle, hfirst⟩ := ih outer.length hlt houter rfl
      exact ⟨first, hle.trans hencloses.1, hfirst⟩
    · exact ⟨position, List.prefix_refl position, h,
        fun outer hencloses houter => hex ⟨outer, hencloses, houter⟩⟩

theorem exists_items_of_at? {tree node : Json} {outer : Position} {index : Nat}
    (h : tree.at? (outer ++ [.item index]) = some node) :
    ∃ items, tree.at? outer = some (.array items) ∧ items[index]? = some node := by
  rw [at?_concat] at h
  obtain ⟨list, hlist, hstep⟩ := Option.bind_eq_some_iff.1 h
  cases list with
  | array items => exact ⟨items, hlist, hstep⟩
  | null | bool _ | number _ | string _ | object _ => simp [step?] at hstep

/-- What has the outline of an array is an array of the same length. -/
theorem exists_array_of_outline {out : Json} {items : List Json}
    (h : out.outline = (array items).outline) :
    ∃ others, out = .array others ∧ others.length = items.length := by
  cases out with
  | array others =>
    refine ⟨others, rfl, ?_⟩
    have hmap : (others.map fun _ => null) = items.map fun _ => null := by simpa [outline] using h
    simpa using congrArg List.length hmap
  | null | bool _ | number _ | string _ | object _ => simp [outline] at h

end ServedMedia.Json
