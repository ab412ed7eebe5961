import Mathlib.Data.Option.Basic
import ServedMedia.Proofs.Reporting

/-!
# Statements without influence on each other

Two trees that differ in one statement are walked side by side.  A scan decides about
a statement by its view alone, and no view shows the statements inside it.  So both
trees have the same statements replaced, by the same constants but for the positions
that the constants keep, and what the scan leaves differs in the same place:

    LeadsToStatement isBody position → DifferAt position first second →
      DifferAt position (substitute (config.replacementFor scan) isBody first)
        (substitute (config.replacementFor scan) isBody second)        (substitute_differAt)

Whatever does not pass through that place is the same afterwards  (replaceImports_agree).
-/

namespace ServedMedia

open Json Syntax

/-! ## Two trees -/

/-- Two trees that differ at most in what stands at a position. -/
inductive Json.DifferAt : Position → Json → Json → Prop
  | same (position : Position) (value : Json) : DifferAt position value value
  | here (first second : Json) : DifferAt [] first second
  | member (before after : Members) (name : String) {rest : Position} {first second : Json} :
      DifferAt rest first second →
      DifferAt (.key name :: rest) (.object (before ++ (name, first) :: after))
        (.object (before ++ (name, second) :: after))
  | item (before after : List Json) {rest : Position} {first second : Json} :
      DifferAt rest first second →
      DifferAt (.item before.length :: rest) (.array (before ++ first :: after))
        (.array (before ++ second :: after))

/-- Whether a position is a statement's as seen from a value; `isBody` says whether the
value stands under the key of statement lists. -/
def Syntax.LeadsToStatement : (isBody : Bool) → Position → Prop
  | _, [] => False
  | isBody, [.item _] => isBody = true
  | _, .item _ :: rest => LeadsToStatement false rest
  | _, .key name :: rest => LeadsToStatement (name == bodyKey) rest

/-- Two nodes that differ in a statement inside them have either nothing or replacements
that differ in the same place at most. -/
def Syntax.Independent (edit : Json → Option Json) : Prop :=
  ∀ position first second, LeadsToStatement false position → DifferAt position first second →
    Option.Rel (DifferAt position) (edit first) (edit second)

/-- The first members of some keys. -/
def Syntax.picked (keys : List String) (node : Json) : Members :=
  keys.filterMap fun key => (node.member? key).map fun value => (key, value)

/-! ## Positions -/

theorem Syntax.leadsToStatement_of_isStatement {position : Position} (h : IsStatement position) :
    LeadsToStatement false position := by
  obtain ⟨outer, index, rfl⟩ := h
  -- The value on the way may stand under any key.
  suffices ∀ isBody, LeadsToStatement isBody (outer ++ [.key bodyKey, .item index]) from this false
  induction outer with
  | nil =>
    intro isBody
    simp [LeadsToStatement]
  | cons step outer ih =>
    intro isBody
    cases step with
    | key name => exact ih (name == bodyKey)
    | item _ => cases outer <;> exact ih false

theorem Json.get?_append (name : String) (before after : Members) :
    Members.get? name (before ++ after) =
      (Members.get? name before).or (Members.get? name after) := by
  induction before with
  | nil => rfl
  | cons member before ih =>
    obtain ⟨key, value⟩ := member
    rw [List.cons_append, Members.get?, Members.get?]
    by_cases h : key = name <;> simp [h, ih]

section
variable {position other : Position} {first second : Json}

theorem Json.DifferAt.outline_eq {step : Step} {rest : Position}
    (h : DifferAt (step :: rest) first second) : first.outline = second.outline := by
  cases h with
  | same => rfl
  | member before after name _ => simp [outline]
  | item before after _ => simp [outline]

/-- Two such trees have the same nodes off the position, and on the way to it nodes of the
same outline. -/
theorem Json.DifferAt.agree (h : DifferAt position first second) (hother : ¬ position <+: other) :
    (first.at? other).map outline = (second.at? other).map outline := by
  induction h generalizing other with
  | same => rfl
  | here => exact absurd List.nil_prefix hother
  | @member before after name rest first second hdiffer ih =>
    cases other with
    | nil => exact congrArg some (hdiffer.member before after name).outline_eq
    | cons step others =>
      cases step with
      | item _ => rfl
      | key key =>
        simp only [at?, step?, get?_append, Members.get?]
        cases Members.get? key before with
        | some value => rfl
        | none =>
          by_cases hkey : name = key
          · have hrest : ¬ rest <+: others := by simpa [hkey] using hother
            simpa [hkey] using ih hrest
          · simp [hkey]
  | @item before after rest first second hdiffer ih =>
    cases other with
    | nil => exact congrArg some (hdiffer.item before after).outline_eq
    | cons step others =>
      cases step with
      | key _ => rfl
      | item index =>
        simp only [at?, step?]
        by_cases hindex : index = before.length
        · have hrest : ¬ rest <+: others := by simpa [hindex] using hother
          simpa [hindex] using ih hrest
        · rcases Nat.lt_or_gt_of_ne hindex with hlt | hgt
          · simp [List.getElem?_append_left hlt]
          · obtain ⟨k, rfl⟩ := Nat.exists_eq_add_of_lt hgt
            simp [List.getElem?_append_right, Nat.add_assoc]

end

/-! ## Walks side by side -/

theorem rel_getD {α : Type} {R : α → α → Prop} {first second : Option α} {a b : α}
    (h : Option.Rel R first second) (hab : R a b) : R (first.getD a) (second.getD b) := by
  cases h with
  | some h => exact h
  | none => exact hab

section
variable {edit : Json → Option Json} {isBody : Bool} {position : Position} {first second : Json}

theorem Syntax.substitute_differAt (hedit : Independent edit)
    (hstatement : LeadsToStatement isBody position) (h : DifferAt position first second) :
    DifferAt position (substitute edit isBody first) (substitute edit isBody second) := by
  induction h generalizing isBody with
  | same => exact .same _ _
  | here => exact hstatement.elim
  | member before after name _ ih =>
    simp only [substitute, substituteMembers_eq_map, List.map_append, List.map_cons]
    exact (ih hstatement).member _ _ name
  | @item before after rest first second hdiffer ih =>
    simp only [substitute, substituteItems_eq_map, List.map_append, List.map_cons]
    have hlength (f : Json → Json) : before.length = (before.map f).length := by simp
    rw [hlength]
    apply DifferAt.item
    cases rest with
    | nil => exact .here _ _
    | cons step rest =>
      have hinside : DifferAt (step :: rest) (substitute edit false first)
          (substitute edit false second) := ih hstatement
      cases isBody with
      | false => exact hinside
      | true => exact rel_getD (hedit _ first second hstatement hdiffer) hinside

/-- Without their statements the two are the same. -/
theorem Syntax.substitute_eq_of_differAt (hstatement : LeadsToStatement isBody position)
    (h : DifferAt position first second) (replacement : Json) :
    substitute (fun _ => some replacement) isBody first =
      substitute (fun _ => some replacement) isBody second := by
  induction h generalizing isBody with
  | same => rfl
  | here => exact hstatement.elim
  | member before after name _ ih =>
    simp only [substitute, substituteMembers_eq_map, List.map_append, List.map_cons, ih hstatement]
  | @item before after rest first second hdiffer ih =>
    simp only [substitute, substituteItems_eq_map, List.map_append, List.map_cons]
    cases isBody with
    | true => rfl
    | false =>
      cases rest with
      | nil => cases hstatement
      | cons step rest =>
        have hinside : substitute (fun _ => some replacement) false first =
            substitute (fun _ => some replacement) false second := ih hstatement
        rw [hinside]

end

/-! ## Decisions -/

/-- What an import binds and where it is imported from do not depend on the statements inside. -/
theorem Scan.import?_substitute (scan : Scan) (edit : Json → Option Json) (node : Json) :
    scan.import? (substitute edit false node) = scan.import? node := by
  rw [import?_eq_bind, import?_eq_bind, binding?_substitute]
  cases scan.binding? node with
  | none => rfl
  | some binding => simp [Binding.map, qualify_substitute]

section
variable {position : Position} {first second : Json}

theorem Scan.import?_eq_of_differAt (scan : Scan) (hstatement : LeadsToStatement false position)
    (h : DifferAt position first second) : scan.import? first = scan.import? second :=
  calc scan.import? first
      = scan.import? (substitute (fun _ => some .null) false first) :=
        (scan.import?_substitute _ first).symm
    _ = scan.import? (substitute (fun _ => some .null) false second) := by
        rw [substitute_eq_of_differAt hstatement h]
    _ = scan.import? second := scan.import?_substitute _ second

section
variable (before after : Members) (name : String) (first second : Json)

theorem Syntax.picked_eq_of_not_mem {keys : List String} (h : name ∉ keys) :
    picked keys (.object (before ++ (name, first) :: after)) =
      picked keys (.object (before ++ (name, second) :: after)) := by
  apply List.filterMap_congr
  intro key hkey
  have hne : name ≠ key := fun he => h (he ▸ hkey)
  simp [member?, get?_append, Members.get?, hne]

/-- Of each key the first member counts, so the one that differs may not show. -/
theorem Syntax.picked_cases {keys : List String} (hkeys : keys.Nodup) :
    picked keys (.object (before ++ (name, first) :: after)) =
      picked keys (.object (before ++ (name, second) :: after)) ∨
    ∃ left right,
      picked keys (.object (before ++ (name, first) :: after)) = left ++ (name, first) :: right ∧
      picked keys (.object (before ++ (name, second) :: after)) =
        left ++ (name, second) :: right := by
  cases hbefore : Members.get? name before with
  | some value =>
    refine .inl (List.filterMap_congr fun key _ => ?_)
    by_cases hkey : name = key
    · simp [member?, get?_append, ← hkey, hbefore]
    · simp [member?, get?_append, Members.get?, hkey]
  | none =>
    by_cases hmem : name ∈ keys
    · obtain ⟨left, right, rfl⟩ := List.append_of_mem hmem
      obtain ⟨-, hright, hapart⟩ := List.nodup_append.1 hkeys
      have hleft : name ∉ left := fun hname => hapart name hname name List.mem_cons_self rfl
      refine .inr ⟨picked left (.object (before ++ (name, first) :: after)),
        picked right (.object (before ++ (name, first) :: after)), ?_, ?_⟩
      · simp [picked, member?, get?_append, Members.get?, hbefore]
      · rw [picked_eq_of_not_mem before after name first second hleft,
          picked_eq_of_not_mem before after name first second (List.nodup_cons.1 hright).1]
        simp [picked, member?, get?_append, Members.get?, hbefore]
    · exact .inl (picked_eq_of_not_mem before after name first second hmem)

end

theorem Syntax.positions_eq_picked (node : Json) : positions node = picked positionKeys node := rfl

/-- A constant keeps the positions of its source, and nothing else of it. -/
theorem Syntax.constant_differAt (hstatement : LeadsToStatement false position)
    (h : DifferAt position first second) (name value : String) :
    DifferAt position (constant name value first) (constant name value second) := by
  cases h with
  | same => exact .same _ _
  | here => exact hstatement.elim
  | item before after _ => exact .same _ _
  | @member before after key _ x y hdiffer =>
    unfold constant
    rw [positions_eq_picked, positions_eq_picked]
    have hkeys : positionKeys.Nodup := by decide
    rcases picked_cases before after key x y hkeys with hequal | ⟨left, right, hfirst, hsecond⟩
    · rw [hequal]
      exact .same _ _
    · rw [hfirst, hsecond, ← List.append_assoc, ← List.append_assoc]
      exact hdiffer.member _ right key

namespace Config

theorem independent_replacementFor (config : Config) (scan : Scan) :
    Independent (config.replacementFor scan) := by
  intro position first second hstatement hdiffer
  rw [replacementFor_eq_map, replacementFor_eq_map,
    scan.import?_eq_of_differAt hstatement hdiffer]
  cases scan.import? second with
  | none => exact .none
  | some found => exact .some (constant_differAt hstatement hdiffer _ _)

/-- One scan after the other. -/
theorem replaceImports_differAt (config : Config) (hstatement : LeadsToStatement false position)
    (h : DifferAt position first second) :
    DifferAt position (config.replaceImports first).1 (config.replaceImports second).1 := by
  rw [replaceImports_fst, replaceImports_fst, scanned_eq_substitute, scanned_eq_substitute]
  have hscanned := substitute_differAt (config.independent_replacementFor .dynamicImport)
    hstatement h
  exact substitute_differAt (config.independent_replacementFor .staticImport) hstatement hscanned

/-! ## Top theorems -/

theorem replaceImports_agree (config : Config) {other : Position}
    (hstatement : IsStatement position) (hdiffer : DifferAt position first second)
    (hother : ¬ position <+: other) :
    ((config.replaceImports first).1.at? other).map outline =
      ((config.replaceImports second).1.at? other).map outline :=
  (config.replaceImports_differAt (leadsToStatement_of_isStatement hstatement) hdiffer).agree hother

/-- A page of two imports, the first of which has a statement in its place. -/
def pageAround (inside : Json) : Json :=
  .object [("type", .string "Program"), ("body", .array [
    .object [("type", .string "ImportDeclaration"), ("loc", .object [("body", .array [inside])]),
      ("specifiers", .array [.object [("local",
        .object [("type", .string "Identifier"), ("name", .string "photo")])]]),
      ("source", .object [("type", .string "Literal"), ("value", .string "../a.png")])],
    filmImport])]

/-- Where that statement is. -/
def inPlace : Position := [.key "body", .item 0, .key "loc", .key "body", .item 0]

/-- The import around it is replaced in both pages, and keeps its place. -/
theorem replaceImports_agree_around : IsStatement inPlace ∧
    DifferAt inPlace (pageAround filmImport) (pageAround .null) ∧
    ¬ inPlace <+: [.key "body", .item 0, .key "loc"] ∧
    ((Config.empty.replaceImports (pageAround filmImport)).1.at?
        [.key "body", .item 0, .key "loc"]).map outline =
      ((Config.empty.replaceImports (pageAround .null)).1.at?
        [.key "body", .item 0, .key "loc"]).map outline := by
  have hstatement : IsStatement inPlace := ⟨[.key "body", .item 0, .key "loc"], 0, rfl⟩
  have hdiffer : DifferAt inPlace (pageAround filmImport) (pageAround .null) :=
    .member [_] [] "body" (.item [] [_] (.member [_] [_, _] "loc"
      (.member [] [] "body" (.item [] [] (.here _ _)))))
  have hother : ¬ inPlace <+: [.key "body", .item 0, .key "loc"] := by decide
  exact ⟨hstatement, hdiffer, hother, replaceImports_agree Config.empty hstatement hdiffer hother⟩

end Config

end

end ServedMedia
