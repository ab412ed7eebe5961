import Mathlib.Data.List.Basic
import ServedMedia.Proofs.Passes
import ServedMedia.Proofs.Replacing
import ServedMedia.Proofs.Views

/-!
# The two scans together

What stands inside a statement does not decide about it, a constant is nothing to
either scan, and no statement is something to both of them.  So the scans do not
interact, wherever their statements stand inside each other:

    (runScan .staticImport (runScan .dynamicImport tree …).1 …).1 =
      (runScan .dynamicImport (runScan .staticImport tree …).1 …).1         (scans_commute)

Together they are one walk that puts a constant in the place of a statement:

    (config.replaceImports tree).1 =
      substitute config.bothScans false tree             (replaceImports_eq_substitute)
    config.bothScans node = some out →
      ∃ name value edit, out = constant name value (substitute edit false node)
                                                           (exists_constant_of_bothScans)
-/

namespace ServedMedia

open Json Syntax

/-! ## Bindings -/

/-- The binding with its specifier changed. -/
def Binding.map (f : Json → Json) (binding : Binding) : Binding :=
  ⟨binding.name, f binding.specifier⟩

theorem staticBinding?_map (f : Json → Json) (locals : List String) (source : Json) :
    staticBinding? locals (f source) = (staticBinding? locals source).map (Binding.map f) := by
  cases locals <;> rfl

/-- Only the import of a literal becomes the import of one. -/
theorem exists_import_of_map {f : Json → Json} {expression : Expression} {specifier : Json}
    {others : List Expression}
    (h : expression.map f = .await (.importOf (.call (.literal specifier :: others)))) :
    ∃ value rest, expression = .await (.importOf (.call (.literal value :: rest))) := by
  obtain ⟨_, rfl, hargument⟩ := Expression.map_eq_await_iff.1 h
  obtain ⟨_, rfl, hsource⟩ := Expression.map_eq_importOf_iff.1 hargument
  obtain ⟨_, rfl, harguments⟩ := Expression.map_eq_call_iff.1 hsource
  obtain ⟨_, rest, rfl, hfirst, -⟩ := Expression.mapAll_eq_cons_iff.1 harguments
  obtain ⟨value, rfl, -⟩ := Expression.map_eq_literal_iff.1 hfirst
  exact ⟨value, rest, rfl⟩

theorem dynamicBinding?_map (f : Json → Json) (declarators : List Declarator) :
    dynamicBinding? (declarators.map (Declarator.map f)) =
      (dynamicBinding? declarators).map (Binding.map f) := by
  fun_cases dynamicBinding? declarators with
  | case1 name specifier others => rfl
  | case2 _ hother =>
    unfold dynamicBinding?
    split
    · next name specifier others hmap =>
      exfalso
      obtain ⟨⟨id, init⟩, rest, rfl, hfirst, hrest⟩ := List.map_eq_cons_iff.1 hmap
      obtain rfl := List.map_eq_nil_iff.1 hrest
      obtain ⟨rfl, hinit⟩ := Declarator.mk.inj hfirst
      obtain ⟨expression, rfl, hexpression⟩ := Option.map_eq_some_iff.1 hinit
      obtain ⟨value, rest, rfl⟩ := exists_import_of_map hexpression
      exact hother name value rest rfl
    · rfl

/-- A scan sees the same name, and the same specifier if that is a text. -/
theorem Scan.binding?_substitute (scan : Scan) (edit : Json → Option Json) (node : Json) :
    scan.binding? (substitute edit false node) =
      (scan.binding? node).map (Binding.map (substitute edit false)) := by
  unfold Scan.binding?
  rw [classify_substitute]
  have hname : (fun binding : Binding => decide (binding.name ≠ "")) =
      (fun binding => decide (binding.name ≠ "")) ∘ Binding.map (substitute edit false) := rfl
  conv_rhs => rw [hname, ← Option.filter_map]
  refine congrArg (Option.filter _) ?_
  cases Statement.classify node with
  | importDeclaration locals source =>
    cases scan with
    | dynamicImport => rfl
    | staticImport => exact staticBinding?_map _ locals source
  | variableDeclaration declarators =>
    cases scan with
    | dynamicImport => exact dynamicBinding?_map _ declarators
    | staticImport => rfl
  | other => cases scan <;> rfl

theorem Scan.binding?_of_ne {first second : Scan} {node : Json} {binding : Binding}
    (hne : first ≠ second) (h : first.binding? node = some binding) :
    second.binding? node = none := by
  unfold Scan.binding? at h ⊢
  cases first <;> cases second
  · exact absurd rfl hne
  · cases hnode : Statement.classify node <;> simp [hnode] at h ⊢
  · cases hnode : Statement.classify node <;> simp [hnode] at h ⊢
  · exact absurd rfl hne

theorem qualify_substitute (edit : Json → Option Json) (value : Json) :
    qualify (substitute edit false value) = qualify value := by
  cases value <;> rfl

/-! ## Constants -/

namespace Syntax

theorem ne_bodyKey_of_mem : ∀ key ∈ positionKeys, key ≠ bodyKey := by decide

theorem positions_substitute (edit : Json → Option Json) (node : Json) :
    positions (substitute edit false node) = substituteMembers edit (positions node) := by
  unfold positions
  rw [substituteMembers_eq_map, List.map_filterMap]
  apply List.filterMap_congr
  intro key hkey
  have hbody : (key == bodyKey) = false := beq_false_of_ne (ne_bodyKey_of_mem key hkey)
  rw [member?_substitute, Option.map_map, Option.map_map]
  simp only [Function.comp_def, hbody]

/-- Of a constant only the positions are walked. -/
theorem constant_substitute (edit : Json → Option Json) (name value : String) (source : Json) :
    constant name value (substitute edit false source) =
      substitute edit false (constant name value source) := by
  unfold constant
  rw [positions_substitute, substitute, substituteMembers_eq_map, substituteMembers_eq_map,
    List.map_append]
  rfl

end Syntax

namespace Config

/-- What the two scans put in the place of a statement. -/
def bothScans (config : Config) : Json → Option Json :=
  followedBy (config.replacementFor .dynamicImport) (config.replacementFor .staticImport)

/-! ## Replacements -/

section
variable {config : Config} {node out : Json}

theorem shallow_replacementFor (config : Config) (scan : Scan) :
    Shallow (config.replacementFor scan) := by
  intro edit node
  unfold replacementFor
  rw [scan.binding?_substitute]
  cases scan.binding? node with
  | none => rfl
  | some binding =>
    show (qualify (substitute edit false binding.specifier)).toOption.bind _ =
      ((qualify binding.specifier).toOption.bind _).map _
    rw [qualify_substitute]
    cases (qualify binding.specifier).toOption with
    | none => rfl
    | some specifier => exact congrArg some (constant_substitute edit binding.name _ node)

theorem replacementFor_constant (config : Config) (scan : Scan) (name value : String)
    (source : Json) : config.replacementFor scan (constant name value source) = none :=
  replacementFor_eq_none (binding?_of_isConstant scan (isConstant_constant name value source))

/-- A constant that one scan leaves is kept by the other. -/
theorem replacementFor_replacementFor {first : Scan} (second : Scan)
    (h : config.replacementFor first node = some out) :
    config.replacementFor second out = none := by
  obtain ⟨name, value, rfl⟩ := exists_constant_of_replacementFor h
  exact replacementFor_constant config second name value node

theorem replacementFor_of_ne {first second : Scan} (hne : first ≠ second)
    (h : config.replacementFor first node = some out) :
    config.replacementFor second node = none := by
  obtain ⟨binding, hbinding, -⟩ := Option.bind_eq_some_iff.1 h
  exact replacementFor_eq_none (Scan.binding?_of_ne hne hbinding)

/-! ## Two scans -/

theorem followedBy_replacementFor (config : Config) (first second : Scan) (node : Json) :
    followedBy (config.replacementFor first) (config.replacementFor second) node =
      ((config.replacementFor first node).map
        (substitute (config.replacementFor second) false)).or
      ((config.replacementFor second node).map
        (substitute (config.replacementFor first) false)) :=
  followedBy_eq_or (shallow_replacementFor config second)
    (fun _ _ h => replacementFor_replacementFor second h) node

/-- At most one of two scans has something for a statement, so either may come first. -/
theorem followedBy_comm (config : Config) (first second : Scan) :
    followedBy (config.replacementFor first) (config.replacementFor second) =
      followedBy (config.replacementFor second) (config.replacementFor first) := by
  by_cases hne : first = second
  · rw [hne]
  · funext node
    rw [followedBy_replacementFor, followedBy_replacementFor]
    cases hfirst : config.replacementFor first node with
    | none => simp
    | some out => simp [replacementFor_of_ne hne hfirst]

theorem replaceImports_eq_substitute (config : Config) (tree : Json) :
    (config.replaceImports tree).1 = substitute config.bothScans false tree := by
  rw [replaceImports_fst, scanned_eq_substitute, substitute_substitute]
  rfl

theorem bothScans_eq_none_iff : config.bothScans node = none ↔
    config.replacementFor .dynamicImport node = none ∧
      config.replacementFor .staticImport node = none := by
  unfold bothScans
  rw [followedBy_replacementFor, Option.or_eq_none_iff, Option.map_eq_none_iff,
    Option.map_eq_none_iff]

/-- Both scans put a constant in the place of a statement; what they do inside of the
statement shows in the positions. -/
theorem exists_constant_of_bothScans (h : config.bothScans node = some out) :
    ∃ name value edit, out = constant name value (substitute edit false node) := by
  unfold bothScans at h
  rw [followedBy_replacementFor, Option.or_eq_some_iff] at h
  rcases h with h | ⟨-, h⟩
  · obtain ⟨inner, hinner, rfl⟩ := Option.map_eq_some_iff.1 h
    obtain ⟨name, value, rfl⟩ := exists_constant_of_replacementFor hinner
    exact ⟨name, value, _, (constant_substitute _ name value node).symm⟩
  · obtain ⟨inner, hinner, rfl⟩ := Option.map_eq_some_iff.1 h
    obtain ⟨name, value, rfl⟩ := exists_constant_of_replacementFor hinner
    exact ⟨name, value, _, (constant_substitute _ name value node).symm⟩

theorem bothScans_constant (config : Config) (name value : String) (source : Json) :
    config.bothScans (constant name value source) = none :=
  bothScans_eq_none_iff.2
    ⟨replacementFor_constant config _ name value source,
      replacementFor_constant config _ name value source⟩

theorem bothScans_ne_self (config : Config) (node : Json) :
    config.bothScans node ≠ some node := by
  intro h
  obtain ⟨name, value, edit, hnode⟩ := exists_constant_of_bothScans h
  rw [hnode, bothScans_constant] at h
  cases h

end

/-! ## Top theorems -/

theorem scans_commute (config : Config) (tree : Json) (first second third fourth : Report) :
    (config.runScan .staticImport (config.runScan .dynamicImport tree first).1 second).1 =
      (config.runScan .dynamicImport (config.runScan .staticImport tree third).1 fourth).1 := by
  rw [runScan_fst, runScan_fst, runScan_fst, runScan_fst, substitute_substitute,
    substitute_substitute, followedBy_comm]

end Config

end ServedMedia
