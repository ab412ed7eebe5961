import ServedMedia.Proofs.Independence
import ServedMedia.Proofs.Literals

/-!
# Constants read back

A constant has members of its own and behind them the positions of its source, in their
order and with their values:

    (constant name value source).member? key =
      if key ∈ positionKeys then source.member? key
      else Members.get? key (ownMembers name value)                   (member?_constant)

It is read as the declaration of one name with a literal value, the text of which denotes
the value again, and it is nothing to either scan                 (constant_reads_back).

The only statements in it are those in its positions, which are where they were in the
source                                                          (at?_of_at?_constant).
-/

namespace ServedMedia.Syntax

open Json

/-! ## Algorithm -/

/-- The members of a constant that do not come from its source. -/
def ownMembers (name value : String) : Members :=
  [("type", .string "VariableDeclaration"), ("kind", .string "const"),
    ("declarations", .array [.object [("type", .string "VariableDeclarator"),
      ("id", .object [("type", .string "Identifier"), ("name", .string name)]),
      ("init", stringLiteral value)]])]

/-! ## Members -/

theorem constant_eq_object (name value : String) (source : Json) :
    constant name value source = .object (ownMembers name value ++ positions source) := rfl

theorem get?_picked (key : String) (keys : List String) (node : Json) :
    Members.get? key (picked keys node) = if key ∈ keys then node.member? key else none := by
  induction keys with
  | nil => rfl
  | cons first keys ih =>
    unfold picked at ih ⊢
    rw [List.filterMap_cons]
    by_cases hkey : first = key
    · subst hkey
      cases hmember : node.member? first with
      | none => simpa [hmember] using ih
      | some value => simp [Members.get?]
    · cases hmember : node.member? first with
      | none => simp [ih, Ne.symm hkey]
      | some value => simp [Members.get?, hkey, ih, Ne.symm hkey]

theorem map_fst_picked (keys : List String) (node : Json) :
    (picked keys node).map Prod.fst = keys.filter fun key => (node.member? key).isSome := by
  induction keys with
  | nil => rfl
  | cons key keys ih =>
    unfold picked at ih ⊢
    rw [List.filterMap_cons]
    cases hmember : node.member? key with
    | none => simp [hmember, ih]
    | some value => simp [hmember, ih]

theorem get?_ownMembers_of_mem (name value : String) :
    ∀ key ∈ positionKeys, Members.get? key (ownMembers name value) = none := by
  intro key hkey
  have hother : key ≠ "type" ∧ key ≠ "kind" ∧ key ≠ "declarations" := by
    revert key
    decide
  simp [ownMembers, Members.get?, hother.1.symm, hother.2.1.symm, hother.2.2.symm]

theorem member?_constant (name value key : String) (source : Json) :
    (constant name value source).member? key =
      if key ∈ positionKeys then source.member? key
      else Members.get? key (ownMembers name value) := by
  rw [constant_eq_object, member?, get?_append, positions_eq_picked, get?_picked]
  by_cases hkey : key ∈ positionKeys
  · rw [if_pos hkey, if_pos hkey, get?_ownMembers_of_mem name value key hkey, Option.none_or]
  · rw [if_neg hkey, if_neg hkey, Option.or_none]

/-! ## Statements inside -/

/-- If no statement is listed then none is found at a position. -/
theorem not_isStatement_of_sites_eq_nil {value node : Json} {position : Position}
    (hsites : sites false value = []) (hnode : value.at? position = some node) :
    ¬ IsStatement position := by
  intro hstatement
  -- A walk that would put every statement into an array finds nothing to do.
  let edit : Json → Option Json := fun node => some (.array [node])
  have hmatch : Matches edit value position := ⟨hstatement, node, hnode, rfl⟩
  obtain ⟨outer, -, hreplaced⟩ := exists_replaced_of_matches hmatch
  obtain ⟨-, first, hfirst, -⟩ := hreplaced.1
  have hat := at?_substitute_of_replaced hfirst hreplaced
  rw [substitute_of_sites_eq_nil hsites, hfirst] at hat
  have hsize := congrArg sizeOf (Option.some.inj hat)
  simp only [array.sizeOf_spec, List.cons.sizeOf_spec, List.nil.sizeOf_spec] at hsize
  omega

theorem sites_of_mem_ownMembers (name value : String) :
    ∀ member ∈ ownMembers name value, sites false member.2 = [] := by
  simp [ownMembers, stringLiteral, sites, sitesOfItems, sitesOfMembers]

/-- A statement in a constant stands where it stood in the source. -/
theorem at?_of_at?_constant {name value : String} {source out : Json} {position : Position}
    (hstatement : IsStatement position)
    (h : (constant name value source).at? position = some out) :
    source.at? position = some out := by
  obtain ⟨outer, index, rfl⟩ := hstatement
  obtain ⟨key, rest, hposition⟩ : ∃ key rest,
      outer ++ [.key bodyKey, .item index] = Step.key key :: rest := by
    cases outer with
    | nil => exact ⟨_, _, rfl⟩
    | cons step outer =>
      cases step with
      | key key => exact ⟨key, _, rfl⟩
      | item _ => cases h
  rw [hposition, at?, ← member?_eq_step?, member?_constant] at h
  rw [hposition, at?, ← member?_eq_step?]
  by_cases hkey : key ∈ positionKeys
  · rwa [if_pos hkey] at h
  · rw [if_neg hkey] at h
    obtain ⟨child, hchild, hout⟩ := Option.bind_eq_some_iff.1 h
    have hplain := sites_of_mem_ownMembers name value _ (Members.mem_of_get? hchild)
    cases outer with
    | nil =>
      obtain ⟨⟨⟩, -⟩ := List.cons.inj hposition
      cases hchild
    | cons step outer =>
      obtain ⟨-, rfl⟩ := List.cons.inj hposition
      exact absurd ⟨outer, index, rfl⟩ (not_isStatement_of_sites_eq_nil hplain hout)

/-! ## Top theorems -/

/-- The literal that a constant is initialized with. -/
def literalPosition : Position := [.key "declarations", .item 0, .key "init"]

theorem constant_reads_back (config : Config) (name value : String) (source : Json) :
    Statement.classify (constant name value source) =
        .variableDeclaration [⟨.identifier name, some (.literal (.string value))⟩] ∧
      (∃ raw inner, (constant name value source).at? (literalPosition ++ [.key "raw"]) =
          some (.string raw) ∧ raw.toList = '"' :: (inner ++ ['"']) ∧
        parse? raw = some (.string value)) ∧
      (∃ members, constant name value source = .object members ∧
        members.map Prod.fst = ["type", "kind", "declarations"] ++
          ["start", "end", "loc", "range"].filter (fun key => (source.member? key).isSome) ∧
        ∀ key ∈ ["start", "end", "loc", "range"],
          Members.get? key members = source.member? key) ∧
      ∀ scan report, config.replaceStatement scan report (constant name value source) =
        (none, report) := by
  have hconstant := Config.isConstant_constant name value source
  refine ⟨classify_of_isConstant hconstant, ?_, ?_, ?_⟩
  · refine ⟨compact (.string value), value.toList.flatMap escapeChar, rfl, ?_,
      parse?_compact_string value⟩
    rw [compact, String.toList_ofList]
    rfl
  · refine ⟨ownMembers name value ++ positions source, rfl, ?_, ?_⟩
    · rw [List.map_append, positions_eq_picked, map_fst_picked]
      rfl
    · intro key hkey
      have hposition : key ∈ positionKeys := hkey
      have hmember := member?_constant name value key source
      rwa [if_pos hposition] at hmember
  · intro scan report
    unfold Config.replaceStatement
    rw [binding?_of_isConstant scan hconstant]

end ServedMedia.Syntax
