import ServedMedia.Proofs.Reading

/-!
# Which statements are replaced, and what stays

Both scans are walks without state, one on the tree that the other leaves:

    (config.replaceImports tree).1 =
      substitute (config.replacementFor .staticImport) false (config.scanned tree)
                                                            (replaceImports_fst)

Every import whose specifier qualifies is replaced, unless a statement around it is:

    (config.replaceImports tree).1.at? position = some out ∧
      IsConstant name (resolvePath specifier …).1 out       (exists_constant_of_import)

Every other node keeps its outline, and replaced statements keep their places
in lists that keep their lengths (replaceImports_frame).
-/

namespace ServedMedia.Config

open Json Syntax

/-! ## Replacements -/

/-- What a scan puts in the place of a statement. -/
def replacementFor (config : Config) (scan : Scan) (node : Json) : Option Json := do
  let binding ← scan.binding? node
  let specifier ← (qualify binding.specifier).toOption
  pure (constant binding.name (config.resolve specifier).1 node)

/-- The tree between the two scans. -/
def scanned (config : Config) (tree : Json) : Json := (config.runScan .dynamicImport tree .empty).1

/-- One of the scans replaces the statement. -/
def Replaces (config : Config) (tree : Json) (position : Position) : Prop :=
  Replaced (config.replacementFor .dynamicImport) tree position ∨
    Replaced (config.replacementFor .staticImport) (config.scanned tree) position

/-- No statement around the position is replaced. -/
def Reaches (config : Config) (tree : Json) (position : Position) : Prop :=
  ∀ outer, Encloses outer position → ¬ config.Replaces tree outer

/-- A constant stands where a statement stood, in a list that is as long as it was. -/
def HoldsConstant (before after : Json) (position : Position) : Prop :=
  ∃ outer index items others name value node, position = outer ++ [.key bodyKey, .item index] ∧
    before.at? (outer ++ [.key bodyKey]) = some (.array items) ∧
    after.at? (outer ++ [.key bodyKey]) = some (.array others) ∧ others.length = items.length ∧
    others[index]? = some node ∧ IsConstant name value node

section
variable {config : Config} {tree : Json} {position : Position}

theorem replaceStatement_fst (scan : Scan) (report : Report) (node : Json) :
    (config.replaceStatement scan report node).1 = config.replacementFor scan node := by
  unfold replacementFor replaceStatement
  cases scan.binding? node with
  | none => rfl
  | some binding =>
    show _ = (qualify binding.specifier).toOption.bind _
    cases hqualify : qualify binding.specifier with
    | error reason => simp only [hqualify]; rfl
    | ok specifier => simp only [hqualify]; rfl

theorem replacementFor_of_binding (config : Config) {scan : Scan} {node : Json}
    {name specifier : String} (hbinding : scan.binding? node = some ⟨name, .string specifier⟩)
    (hqualify : qualify (.string specifier) = .ok specifier) :
    config.replacementFor scan node = some (constant name (config.resolve specifier).1 node) := by
  unfold replacementFor
  rw [hbinding]
  show (qualify (.string specifier)).toOption.bind _ = _
  rw [hqualify]
  rfl

theorem replacementFor_eq_none {scan : Scan} {node : Json} (hbinding : scan.binding? node = none) :
    config.replacementFor scan node = none := by
  unfold replacementFor
  rw [hbinding]
  rfl

theorem isConstant_constant (name value : String) (source : Json) :
    IsConstant name value (constant name value source) := by
  refine ⟨⟨_, rfl, rfl⟩, ⟨_, rfl, rfl⟩, _, rfl, _, rfl, ⟨_, rfl, rfl⟩, ?_, ?_⟩
  · exact ⟨_, rfl, ⟨_, rfl, rfl⟩, ⟨_, rfl, rfl⟩⟩
  · exact ⟨_, rfl, ⟨_, rfl, rfl⟩, ⟨_, rfl, rfl⟩⟩

theorem exists_constant_of_replacementFor {scan : Scan} {node out : Json}
    (h : config.replacementFor scan node = some out) :
    ∃ name value, out = constant name value node := by
  obtain ⟨binding, -, h⟩ := Option.bind_eq_some_iff.1 h
  obtain ⟨specifier, -, h⟩ := Option.bind_eq_some_iff.1 h
  cases h
  exact ⟨_, _, rfl⟩

/-- Whatever a scan puts in the place of a statement is a constant. -/
theorem isConstant_of_replacementFor {scan : Scan} {node out : Json}
    (h : config.replacementFor scan node = some out) : ∃ name value, IsConstant name value out := by
  obtain ⟨name, value, rfl⟩ := exists_constant_of_replacementFor h
  exact ⟨name, value, isConstant_constant name value node⟩

/-! ## Scans -/

theorem runScan_fst (config : Config) (scan : Scan) (tree : Json) (report : Report) :
    (config.runScan scan tree report).1 =
      substitute (config.replacementFor scan) false tree :=
  visitStatements_fst (replaceStatement_fst scan) tree report

theorem scanned_eq_substitute (tree : Json) :
    config.scanned tree = substitute (config.replacementFor .dynamicImport) false tree :=
  runScan_fst config .dynamicImport tree .empty

theorem replaceImports_fst (tree : Json) :
    (config.replaceImports tree).1 =
      substitute (config.replacementFor .staticImport) false (config.scanned tree) :=
  runScan_fst config .staticImport _ _

theorem not_matches_of_not_replaces
    (h : ∀ outer, outer <+: position → ¬ config.Replaces tree outer) :
    ¬ Matches (config.replacementFor .dynamicImport) tree position ∧
      ¬ Matches (config.replacementFor .staticImport) (config.scanned tree) position := by
  constructor
  · exact not_matches_of_not_replaced fun outer hle hreplaced => h outer hle (.inl hreplaced)
  · exact not_matches_of_not_replaced fun outer hle hreplaced => h outer hle (.inr hreplaced)

theorem Reaches.not_matches (h : config.Reaches tree position) : ∀ outer, Encloses outer position →
    ¬ Matches (config.replacementFor .dynamicImport) tree outer ∧
      ¬ Matches (config.replacementFor .staticImport) (config.scanned tree) outer :=
  fun _ hencloses => not_matches_of_not_replaces fun first hle => h first (hencloses.of_le hle)

/-- What the first scan keeps stands in the tree between the scans. -/
theorem at?_scanned (hreached : config.Reaches tree position)
    (hself : ¬ Matches (config.replacementFor .dynamicImport) tree position) :
    (config.scanned tree).at? position =
      (tree.at? position).map
        (substitute (config.replacementFor .dynamicImport) (endsAtBody position)) := by
  rw [scanned_eq_substitute]
  apply at?_substitute
  exact forall_le_of_encloses hself fun outer hencloses => (hreached.not_matches outer hencloses).1

/-- What the second scan keeps stands in the result. -/
theorem at?_replaceImports (hreached : config.Reaches tree position)
    (hself : ¬ Matches (config.replacementFor .staticImport) (config.scanned tree) position) :
    (config.replaceImports tree).1.at? position =
      ((config.scanned tree).at? position).map
        (substitute (config.replacementFor .staticImport) (endsAtBody position)) := by
  rw [replaceImports_fst]
  apply at?_substitute
  exact forall_le_of_encloses hself fun outer hencloses => (hreached.not_matches outer hencloses).2

theorem replaced_dynamic {node : Json} (hreached : config.Reaches tree position)
    (hstatement : IsStatement position) (hnode : tree.at? position = some node)
    (hsome : (config.replacementFor .dynamicImport node).isSome = true) :
    Replaced (config.replacementFor .dynamicImport) tree position :=
  ⟨⟨hstatement, node, hnode, hsome⟩,
    fun outer hencloses => (hreached.not_matches outer hencloses).1⟩

theorem replaced_static {node : Json} (hreached : config.Reaches tree position)
    (hstatement : IsStatement position) (hnode : (config.scanned tree).at? position = some node)
    (hsome : (config.replacementFor .staticImport node).isSome = true) :
    Replaced (config.replacementFor .staticImport) (config.scanned tree) position :=
  ⟨⟨hstatement, node, hnode, hsome⟩,
    fun outer hencloses => (hreached.not_matches outer hencloses).2⟩

/-! ## Replaced statements -/

/-- A constant of the first scan outlives the second one. -/
theorem exists_constant_of_dynamic {node out : Json} {name value : String}
    (hreached : config.Reaches tree position)
    (hreplaced : Replaced (config.replacementFor .dynamicImport) tree position)
    (hnode : tree.at? position = some node)
    (hout : config.replacementFor .dynamicImport node = some out)
    (hconstant : IsConstant name value out) :
    ∃ out, (config.replaceImports tree).1.at? position = some out ∧ IsConstant name value out := by
  have hscanned : (config.scanned tree).at? position = some out := by
    rw [scanned_eq_substitute, at?_substitute_of_replaced hnode hreplaced, hout]
  have hself : ¬ Matches (config.replacementFor .staticImport) (config.scanned tree) position :=
    not_matches_of_none hscanned (replacementFor_eq_none (binding?_of_isConstant _ hconstant))
  refine ⟨substitute (config.replacementFor .staticImport) false out, ?_,
    stays_isConstant name value out hconstant⟩
  rw [at?_replaceImports hreached hself, hscanned, endsAtBody_of_isStatement hreplaced.1.1]
  rfl

theorem at?_replaceImports_of_static {node : Json}
    (hreplaced : Replaced (config.replacementFor .staticImport) (config.scanned tree) position)
    (hnode : (config.scanned tree).at? position = some node) :
    (config.replaceImports tree).1.at? position = config.replacementFor .staticImport node := by
  rw [replaceImports_fst, at?_substitute_of_replaced hnode hreplaced]

theorem Replaces.isStatement (h : config.Replaces tree position) : IsStatement position :=
  h.elim (fun hreplaced => hreplaced.1.1) fun hreplaced => hreplaced.1.1

/-- Nothing lies around the statements at the top of a tree. -/
theorem reaches_of_length_le (h : position.length ≤ 2) : config.Reaches tree position := by
  intro outer hencloses hreplaces
  have hlt := hencloses.length_lt
  obtain ⟨init, index, rfl⟩ := hreplaces.isStatement
  simp only [List.length_append, List.length_cons, List.length_nil] at hlt
  omega

theorem exists_constant_of_replaces (hreached : config.Reaches tree position)
    (h : config.Replaces tree position) : ∃ name value out,
      (config.replaceImports tree).1.at? position = some out ∧ IsConstant name value out := by
  rcases h with hreplaced | hreplaced
  · obtain ⟨-, node, hnode, hsome⟩ := hreplaced.1
    obtain ⟨out, hout⟩ := Option.isSome_iff_exists.1 hsome
    obtain ⟨name, value, hconstant⟩ := isConstant_of_replacementFor hout
    exact ⟨name, value, exists_constant_of_dynamic hreached hreplaced hnode hout hconstant⟩
  · obtain ⟨-, node, hnode, hsome⟩ := hreplaced.1
    obtain ⟨out, hout⟩ := Option.isSome_iff_exists.1 hsome
    obtain ⟨name, value, hconstant⟩ := isConstant_of_replacementFor hout
    refine ⟨name, value, out, ?_, hconstant⟩
    rw [at?_replaceImports_of_static hreplaced hnode, hout]

/-! ## Kept nodes -/

theorem outline_of_kept (hreached : config.Reaches tree position)
    (hkept : ¬ config.Replaces tree position) :
    ((config.replaceImports tree).1.at? position).map outline =
      (tree.at? position).map outline := by
  have hself := not_matches_of_not_replaces (forall_le_of_encloses hkept hreached)
  rw [at?_replaceImports hreached hself.2, at?_scanned hreached hself.1]
  cases tree.at? position with
  | none => rfl
  | some node =>
    simp only [Option.map_some]
    rw [outline_substitute, outline_substitute]

/-- The list of an outermost replaced statement is no statement, so it is kept. -/
theorem holdsConstant_of_replaces (hreached : config.Reaches tree position)
    (h : config.Replaces tree position) :
    HoldsConstant tree (config.replaceImports tree).1 position := by
  obtain ⟨name, value, out, hout, hconstant⟩ := exists_constant_of_replaces hreached h
  obtain ⟨outer, index, rfl⟩ := h.isStatement
  have hcut : outer ++ [.key bodyKey, .item index] =
      (outer ++ [.key bodyKey]) ++ [Step.item index] := by simp
  rw [hcut] at hreached hout
  have hencloses := encloses_concat (outer ++ [.key bodyKey]) (.item index)
  obtain ⟨others, hothers, hitem⟩ := exists_items_of_at? hout
  have hlist : config.Reaches tree (outer ++ [.key bodyKey]) :=
    fun first hfirst => hreached first (hencloses.of_le hfirst.1)
  have houtline := outline_of_kept hlist (hreached _ hencloses)
  rw [hothers] at houtline
  obtain ⟨list, hat, hsame⟩ := Option.map_eq_some_iff.1 houtline.symm
  obtain ⟨items, rfl, hlength⟩ := exists_array_of_outline hsame
  exact ⟨outer, index, items, others, name, value, out, rfl, hat, hothers, hlength.symm, hitem,
    hconstant⟩

/-! ## Imports -/

theorem exists_constant_of_isStaticImport {node : Json} {name specifier : String}
    (hstatement : IsStatement position) (hnode : tree.at? position = some node)
    (hreached : config.Reaches tree position) (himport : IsStaticImport name specifier node)
    (hname : name ≠ "") (hqualify : qualify (.string specifier) = .ok specifier) :
    ∃ out, (config.replaceImports tree).1.at? position = some out ∧
      IsConstant name (config.resolve specifier).1 out := by
  have hself : ¬ Matches (config.replacementFor .dynamicImport) tree position :=
    not_matches_of_none hnode (replacementFor_eq_none (dynamic_binding?_of_isStaticImport himport))
  have hscanned := at?_scanned hreached hself
  rw [hnode, endsAtBody_of_isStatement hstatement] at hscanned
  -- The first scan may have been inside the statement, which is still an import.
  have hstays : IsStaticImport name specifier
      (substitute (config.replacementFor .dynamicImport) false node) :=
    stays_isStaticImport name specifier node himport
  have hout := replacementFor_of_binding config (binding?_of_isStaticImport hname hstays) hqualify
  have hreplaced := replaced_static hreached hstatement hscanned (by rw [hout]; rfl)
  have hat := at?_replaceImports_of_static hreplaced hscanned
  rw [hout] at hat
  exact ⟨_, hat, isConstant_constant name _ _⟩

theorem exists_constant_of_isDynamicImport {node : Json} {name specifier : String}
    (hstatement : IsStatement position) (hnode : tree.at? position = some node)
    (hreached : config.Reaches tree position) (himport : IsDynamicImport name specifier node)
    (hname : name ≠ "") (hqualify : qualify (.string specifier) = .ok specifier) :
    ∃ out, (config.replaceImports tree).1.at? position = some out ∧
      IsConstant name (config.resolve specifier).1 out := by
  have hout := replacementFor_of_binding config (binding?_of_isDynamicImport hname himport) hqualify
  have hreplaced := replaced_dynamic hreached hstatement hnode (by rw [hout]; rfl)
  exact exists_constant_of_dynamic hreached hreplaced hnode hout (isConstant_constant name _ node)

/-! ## A page -/

/-- `const {default: film} = await import(resolve("./b.mp4"))` -/
def filmImport : Json :=
  .object [("declarations", .array [.object [
      ("id", .object [("type", .string "ObjectPattern"), ("properties", .array [.object [
        ("type", .string "Property"),
        ("value", .object [("type", .string "Identifier"), ("name", .string "film")])]])]),
      ("init", .object [("type", .string "AwaitExpression"), ("argument", .object [
        ("type", .string "ImportExpression"), ("source", .object [
          ("type", .string "CallExpression"), ("arguments", .array [.object [
            ("type", .string "Literal"), ("value", .string "./b.mp4")]])])])])]]),
    ("type", .string "VariableDeclaration")]

/-- `import photo from "../a.png"` with the film below it. -/
def photoImport : Json :=
  .object [("body", .array [filmImport]),
    ("specifiers", .array [.object [
      ("local", .object [("name", .string "photo"), ("type", .string "Identifier")])]]),
    ("source", .object [("type", .string "Literal"), ("value", .string "../a.png")]),
    ("type", .string "ImportDeclaration")]

def page : Json := .object [("type", .string "Program"), ("body", .array [photoImport, filmImport])]

theorem isStaticImport_photoImport : IsStaticImport "photo" "../a.png" photoImport := by
  refine ⟨⟨_, rfl, rfl⟩, ⟨_, rfl, _, [], rfl, ?_, by simp⟩, ⟨_, rfl, ⟨_, rfl, rfl⟩, ⟨_, rfl, rfl⟩⟩⟩
  exact ⟨_, rfl, ⟨_, rfl, rfl⟩, ⟨_, rfl, rfl⟩⟩

theorem isDynamicImport_filmImport : IsDynamicImport "film" "./b.mp4" filmImport := by
  refine ⟨⟨_, rfl, rfl⟩, _, rfl, _, rfl, ?_, ?_⟩
  · refine ⟨_, rfl, ⟨_, rfl, rfl⟩, _, rfl, _, rfl, ⟨_, rfl, rfl⟩, _, rfl, ?_⟩
    exact ⟨⟨_, rfl, rfl⟩, ⟨_, rfl, rfl⟩⟩
  · refine ⟨_, rfl, ⟨_, rfl, rfl⟩, _, rfl, ⟨_, rfl, rfl⟩, _, rfl, ?_⟩
    refine ⟨⟨_, rfl, rfl⟩, _, rfl, _, [], rfl, ?_, ?_⟩
    · exact ⟨⟨_, rfl, rfl⟩, ⟨_, rfl, rfl⟩⟩
    · simp

/-! ## Top theorems -/

theorem exists_constant_of_import {node : Json} {name specifier : String}
    (hstatement : IsStatement position) (hnode : tree.at? position = some node)
    (hreached : config.Reaches tree position)
    (himport : IsStaticImport name specifier node ∨ IsDynamicImport name specifier node)
    (hname : name ≠ "") (hqualify : qualify (.string specifier) = .ok specifier) :
    ∃ out, (config.replaceImports tree).1.at? position = some out ∧
      IsConstant name (Resolve.resolvePath specifier config.mountPrefix config.baseUrl).1 out := by
  rcases himport with himport | himport
  · exact exists_constant_of_isStaticImport hstatement hnode hreached himport hname hqualify
  · exact exists_constant_of_isDynamicImport hstatement hnode hreached himport hname hqualify

/-- The film below the photo is found first, and the photo is found all the same. -/
theorem exists_constant_of_photo : IsStatement [.key "body", .item 0] ∧
    IsStaticImport "photo" "../a.png" photoImport ∧ qualify (.string "../a.png") = .ok "../a.png" ∧
    ∃ out, (replaceImports ⟨some "media", none⟩ page).1.at? [.key "body", .item 0] = some out ∧
      IsConstant "photo" (Resolve.resolvePath "../a.png" (some "media") none).1 out :=
  ⟨⟨[], 0, rfl⟩, isStaticImport_photoImport, rfl,
    exists_constant_of_import ⟨[], 0, rfl⟩ rfl (reaches_of_length_le (by decide))
      (.inl isStaticImport_photoImport) (by decide) rfl⟩

theorem replaceImports_frame (hreached : config.Reaches tree position) :
    (¬ config.Replaces tree position →
      ((config.replaceImports tree).1.at? position).map outline =
        (tree.at? position).map outline) ∧
    (config.Replaces tree position →
      HoldsConstant tree (config.replaceImports tree).1 position) := by
  constructor
  · intro hkept
    exact outline_of_kept hreached hkept
  · intro hreplaces
    exact holdsConstant_of_replaces hreached hreplaces

/-- The root is kept, and the film of the page is replaced in its place. -/
theorem replaceImports_frame_page : Config.empty.Reaches page [.key "body", .item 1] ∧
    ((Config.empty.replaceImports page).1.at? []).map outline = (page.at? []).map outline ∧
    HoldsConstant page (Config.empty.replaceImports page).1 [.key "body", .item 1] := by
  have hreached : Config.empty.Reaches page [.key "body", .item 1] :=
    reaches_of_length_le (by decide)
  refine ⟨hreached, ?_, ?_⟩
  · apply (replaceImports_frame (reaches_of_length_le (by decide))).1
    intro hreplaces
    obtain ⟨outer, index, hposition⟩ := hreplaces.isStatement
    simp at hposition
  · apply (replaceImports_frame hreached).2
    have hout := replacementFor_of_binding Config.empty
      (binding?_of_isDynamicImport (by decide) isDynamicImport_filmImport) rfl
    exact .inl (replaced_dynamic hreached ⟨[], 1, rfl⟩ rfl (by rw [hout]; rfl))

end

end ServedMedia.Config
