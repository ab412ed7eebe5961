import Mathlib.Data.List.Forall2
import ServedMedia.Command.Run
import ServedMedia.Proofs.Reporting

/-!
# What the lines for specifiers tell of a program

A program whose statements are imports, one for each specifier, is replaced just as the
lines for the specifiers say.  The line is the value of the constant that comes in the
place of the import, or it is the specifier, and then the import stays:

    Foretells line name specifier node out

The diagnostics are the same in the same order                 (resolveAll_foretells).
-/

namespace ServedMedia

open Json Syntax

/-! ## Algorithm -/

/-- The shape of the imports that a scan looks for. -/
def Scan.Imports : Scan → (name specifier : String) → Json → Prop
  | .dynamicImport => IsDynamicImport
  | .staticImport => IsStaticImport

/-- The statements of the tree are those of its own list; no statement stands inside another. -/
structure Syntax.IsFlat (tree : Json) (nodes : List Json) : Prop where
  body : tree.member? bodyKey = some (.array nodes)
  sites_eq : sites false tree = nodes.map (Site.mk [])

/-- What the line for a specifier tells of a statement that imports it, and of what
stands in the place of the statement. -/
structure Command.Foretells (line name specifier : String) (node out : Json) : Prop where
  replaced_iff : out ≠ node ↔ qualify (.string specifier) = .ok specifier
  replaced : out ≠ node → IsConstant name line out
  kept : out = node → line = specifier

/-! ## Flat programs -/

namespace Syntax

section
variable {tree : Json} {nodes : List Json} (h : IsFlat tree nodes)
include h

theorem IsFlat.sites_node : ∀ node ∈ nodes, sites false node = [] := by
  intro node hnode
  rw [List.eq_nil_iff_forall_not_mem]
  intro site hsite
  have hbody := h.body
  cases tree with
  | object members =>
    have hmem : (bodyKey, Json.array nodes) ∈ members := Members.mem_of_get? hbody
    have hinside : site.within node ∈ sites false (.object members) := by
      rw [sites, sitesOfMembers_eq_flatMap]
      refine List.mem_flatMap.2 ⟨_, hmem, ?_⟩
      rw [beq_self_eq_true, sites, sitesOfItems_eq_flatMap]
      refine List.mem_flatMap.2 ⟨node, hnode, List.mem_cons_of_mem _ (List.mem_map_of_mem hsite)⟩
    rw [h.sites_eq] at hinside
    obtain ⟨other, -, hother⟩ := List.mem_map.1 hinside
    cases congrArg Site.around hother
  | null | bool _ | number _ | string _ | array _ => cases hbody

theorem IsFlat.throughout_iff {P : Json → Prop} :
    Throughout P false tree ↔ ∀ node ∈ nodes, P node := by
  unfold Throughout
  rw [h.sites_eq, List.forall_mem_map]

theorem IsFlat.outermost_eq (taken : Json → Bool) :
    outermost taken false tree = nodes.filter taken := by
  unfold outermost
  rw [h.sites_eq, List.filter_map, List.map_map]
  simp [Function.comp_def]

theorem IsFlat.member?_substitute (edit : Json → Option Json) :
    (substitute edit false tree).member? bodyKey =
      some (.array (nodes.map fun node => (edit node).getD node)) := by
  have hitems : substituteItems edit true nodes = nodes.map fun node => (edit node).getD node := by
    rw [substituteItems_eq_map]
    apply List.map_congr_left
    intro node hnode
    rw [if_pos rfl, substitute_of_sites_eq_nil (h.sites_node node hnode)]
  rw [Syntax.member?_substitute, h.body, beq_self_eq_true, Option.map_some, substitute, hitems]

end

end Syntax

namespace Config

section
variable {config : Config} {scan : Scan} {node : Json}

/-! ## One statement -/

theorem replacementFor_ne_self : config.replacementFor scan node ≠ some node := by
  intro h
  have hnone := replacementFor_replacementFor scan h
  rw [h] at hnone
  cases hnone

/-- With no statement inside, nothing shows in the replacement of a statement. -/
theorem map_substitute_replacementFor (hplain : sites false node = [])
    (edit : Json → Option Json) :
    (config.replacementFor scan node).map (substitute edit false) =
      config.replacementFor scan node := by
  rw [← shallow_replacementFor, substitute_of_sites_eq_nil hplain]

theorem followedBy_of_plain (hplain : sites false node = []) (first second : Scan) :
    followedBy (config.replacementFor first) (config.replacementFor second) node =
      (config.replacementFor first node).or (config.replacementFor second node) := by
  rw [followedBy_replacementFor, map_substitute_replacementFor hplain,
    map_substitute_replacementFor hplain]

/-- A statement that one scan sees is left to this scan by the other. -/
theorem bothScans_of_binding {binding : Binding} (hplain : sites false node = [])
    (h : scan.binding? node = some binding) :
    config.bothScans node = config.replacementFor scan node := by
  unfold bothScans
  rw [followedBy_of_plain hplain]
  cases scan with
  | dynamicImport =>
    have hstatic : config.replacementFor .staticImport node = none :=
      replacementFor_eq_none (Scan.binding?_of_ne (by decide) h)
    rw [hstatic, Option.or_none]
  | staticImport =>
    have hdynamic : config.replacementFor .dynamicImport node = none :=
      replacementFor_eq_none (Scan.binding?_of_ne (by decide) h)
    rw [hdynamic, Option.none_or]

end

/-! ## Reports of flat programs -/

section
variable {config : Config} {tree : Json} {nodes : List Json} (hflat : IsFlat tree nodes)
include hflat

theorem scanReplacements_of_isFlat (scan : Scan) :
    config.scanReplacements scan tree = nodes.filterMap (config.replacement? scan) := by
  unfold scanReplacements
  rw [hflat.outermost_eq, List.filterMap_filter]
  apply List.filterMap_congr
  intro node _
  cases himport : scan.import? node <;> simp [replacement?, himport]

/-- If one scan sees all statements then the other has nothing to report. -/
theorem replacements_of_isFlat {scan : Scan}
    (hseen : ∀ node ∈ nodes, ∃ binding, scan.binding? node = some binding) :
    config.replacements tree = nodes.filterMap (config.replacement? scan) := by
  have hother : ∀ other, other ≠ scan →
      ∀ node ∈ nodes, config.replacementFor other node = none := by
    intro other hne node hnode
    obtain ⟨binding, hbinding⟩ := hseen node hnode
    exact replacementFor_eq_none (Scan.binding?_of_ne hne.symm hbinding)
  unfold replacements
  cases scan with
  | dynamicImport =>
    have hstatic : config.scanReplacements .staticImport (config.scanned tree) = [] := by
      rw [scanReplacements_eq_nil_iff, ← substitute_eq_self_iff fun _ => replacementFor_ne_self,
        scanned_eq_substitute, substitute_substitute]
      apply substitute_congr
      rw [hflat.throughout_iff]
      intro node hnode
      rw [followedBy_of_plain (hflat.sites_node node hnode),
        hother .staticImport (by decide) node hnode, Option.or_none]
    rw [hstatic, List.append_nil, scanReplacements_of_isFlat hflat]
  | staticImport =>
    have hnone : Throughout (fun node => config.replacementFor .dynamicImport node = none)
        false tree := hflat.throughout_iff.2 (hother _ (by decide))
    rw [scanReplacements_eq_nil_iff.2 hnone, scanned_eq_substitute, substitute_of_none hnone,
      List.nil_append, scanReplacements_of_isFlat hflat]

end

end Config

namespace Command

/-! ## One import -/

section
variable {scan : Scan} {name specifier : String} {node : Json}

theorem binding?_of_imports (hname : name ≠ "") (h : scan.Imports name specifier node) :
    scan.binding? node = some ⟨name, .string specifier⟩ := by
  cases scan with
  | dynamicImport => exact binding?_of_isDynamicImport hname h
  | staticImport => exact binding?_of_isStaticImport hname h

theorem foretells_of_imports (config : Config) (hplain : sites false node = [])
    (hbinding : scan.binding? node = some ⟨name, .string specifier⟩) :
    Foretells (resolveSpecifier config specifier).1 name specifier node
      ((config.bothScans node).getD node) := by
  rw [Config.bothScans_of_binding hplain hbinding]
  cases hqualify : qualify (.string specifier) with
  | ok text =>
    obtain rfl : specifier = text := by simpa using eq_string_of_qualify hqualify
    have hout := config.replacementFor_of_binding hbinding hqualify
    have hne : constant name (config.resolve specifier).1 node ≠ node := fun heq =>
      Config.replacementFor_ne_self (hout.trans (congrArg some heq))
    have hline : (resolveSpecifier config specifier).1 = (config.resolve specifier).1 := by
      simp [resolveSpecifier, hqualify]
    rw [hout, Option.getD_some, hline]
    exact ⟨iff_of_true hne hqualify, fun _ => Config.isConstant_constant name _ node,
      fun heq => absurd heq hne⟩
  | error reason =>
    have hout : config.replacementFor scan node = none := by
      simp [Config.replacementFor, hbinding, hqualify, Except.toOption]
    have hline : (resolveSpecifier config specifier).1 = specifier := by
      simp [resolveSpecifier, hqualify]
    rw [hout, Option.getD_none, hline]
    exact ⟨by simp [hqualify], fun hne => absurd rfl hne, fun _ => rfl⟩

theorem diagnostics_of_imports (config : Config)
    (hbinding : scan.binding? node = some ⟨name, .string specifier⟩) :
    (resolveSpecifier config specifier).2.1 =
      ((config.replacement? scan node).bind fun replacement =>
        Resolve.complaint? replacement.specifier config.baseUrl).toList := by
  unfold Config.replacement?
  rw [Scan.import?_eq_bind, hbinding]
  cases hqualify : qualify (.string specifier) with
  | ok text =>
    obtain rfl : specifier = text := by simpa using eq_string_of_qualify hqualify
    have hsnd := Resolve.resolvePath_snd config.mountPrefix config.baseUrl hqualify
    simp [resolveSpecifier, hqualify, Except.toOption, Config.resolve, hsnd]
  | error reason => simp [resolveSpecifier, hqualify, Except.toOption]

end

/-! ## All imports -/

/-- An import for each specifier, under names that are not empty. -/
def AreImports (scan : Scan) (imports : List (String × String)) (nodes : List Json) : Prop :=
  List.Forall₂ (fun entry node => entry.1 ≠ "" ∧ scan.Imports entry.1 entry.2 node) imports nodes

section
variable {scan : Scan} {imports : List (String × String)} {nodes : List Json}
  (h : AreImports scan imports nodes)
include h

theorem AreImports.exists_binding :
    ∀ node ∈ nodes, ∃ binding, scan.binding? node = some binding := by
  induction h with
  | nil => simp
  | cons hfirst _ ih =>
    exact List.forall_mem_cons.2 ⟨⟨_, binding?_of_imports hfirst.1 hfirst.2⟩, ih⟩

theorem AreImports.at {index : Nat} {entry : String × String} {node : Json}
    (hentry : imports[index]? = some entry) (hnode : nodes[index]? = some node) :
    scan.binding? node = some ⟨entry.1, .string entry.2⟩ := by
  obtain ⟨hlt, rfl⟩ := List.getElem?_eq_some_iff.1 hentry
  obtain ⟨hlt', rfl⟩ := List.getElem?_eq_some_iff.1 hnode
  obtain ⟨hname, himport⟩ := List.Forall₂.get h hlt hlt'
  exact binding?_of_imports hname himport

/-- The complaints come in the order of the specifiers. -/
theorem AreImports.diagnostics_eq (config : Config) :
    (resolveAll config (imports.map Prod.snd)).2 =
      (nodes.filterMap (config.replacement? scan)).filterMap fun replacement =>
        Resolve.complaint? replacement.specifier config.baseUrl := by
  rw [List.filterMap_filterMap]
  induction h with
  | nil => rfl
  | @cons entry node imports nodes hfirst _ ih =>
    have hnode := diagnostics_of_imports config (binding?_of_imports hfirst.1 hfirst.2)
    have hrest : (imports.map Prod.snd).flatMap (fun specifier =>
        (resolveSpecifier config specifier).2.1) = _ := ih
    rw [resolveAll, List.map_cons, List.flatMap_cons, hrest, hnode, List.filterMap_cons]
    cases (config.replacement? scan node).bind fun replacement =>
      Resolve.complaint? replacement.specifier config.baseUrl <;> rfl

end

/-! ## Top theorems -/

theorem resolveAll_foretells (config : Config) {scan : Scan} {tree : Json} {nodes : List Json}
    {imports : List (String × String)} (hflat : IsFlat tree nodes)
    (himports : AreImports scan imports nodes) :
    ∃ outs, (config.replaceImports tree).1.member? bodyKey = some (.array outs) ∧
      outs.length = imports.length ∧
      (resolveAll config (imports.map Prod.snd)).1.length = imports.length ∧
      (∀ (index : Nat) (name specifier line : String) (node out : Json),
        imports[index]? = some (name, specifier) → nodes[index]? = some node →
        (resolveAll config (imports.map Prod.snd)).1[index]? = some line →
        outs[index]? = some out → Foretells line name specifier node out) ∧
      (resolveAll config (imports.map Prod.snd)).2 =
        (config.replaceImports tree).2.diagnostics := by
  have hlength := himports.length_eq
  refine ⟨nodes.map fun node => (config.bothScans node).getD node, ?_, ?_, ?_, ?_, ?_⟩
  · rw [Config.replaceImports_eq_substitute, hflat.member?_substitute]
  · rw [List.length_map, hlength]
  · rw [resolveAll, List.length_map, List.length_map]
  · intro index name specifier line node out hentry hnode hline hout
    have hplain := hflat.sites_node node (List.mem_of_getElem? hnode)
    obtain rfl : (resolveSpecifier config specifier).1 = line := by
      simpa [resolveAll, hentry] using hline
    obtain rfl : (config.bothScans node).getD node = out := by simpa [hnode] using hout
    exact foretells_of_imports config hplain (himports.at hentry hnode)
  · rw [Config.diagnostics_replaceImports,
      Config.replacements_of_isFlat hflat himports.exists_binding, himports.diagnostics_eq]

/-- `import name from "specifier"` -/
def importNode (name specifier : String) : Json :=
  .object [("type", .string "ImportDeclaration"),
    ("specifiers", .array [.object [("type", .string "ImportDefaultSpecifier"), ("local",
      .object [("type", .string "Identifier"), ("name", .string name)])]]),
    ("source", .object [("type", .string "Literal"), ("value", .string specifier)])]

theorem isStaticImport_importNode (name specifier : String) :
    IsStaticImport name specifier (importNode name specifier) := by
  refine ⟨⟨_, rfl, rfl⟩, ⟨_, rfl, _, [], rfl, ?_, by simp⟩, ⟨_, rfl, ⟨_, rfl, rfl⟩, ⟨_, rfl, rfl⟩⟩⟩
  exact ⟨_, rfl, ⟨_, rfl, rfl⟩, ⟨_, rfl, rfl⟩⟩

/-- A program of two imports. -/
def importPage : Json :=
  .object [("type", .string "Program"),
    ("body", .array [importNode "photo" "file:///a.png", importNode "Page" "./Page.jsx"])]

/-- The photo is replaced with a complaint, and the component stays. -/
theorem resolveAll_foretells_importPage :
    IsFlat importPage [importNode "photo" "file:///a.png", importNode "Page" "./Page.jsx"] ∧
    AreImports .staticImport [("photo", "file:///a.png"), ("Page", "./Page.jsx")]
      [importNode "photo" "file:///a.png", importNode "Page" "./Page.jsx"] ∧
    resolveAll ⟨some "media", none⟩ ["file:///a.png", "./Page.jsx"] =
      (["/media/a.png", "./Page.jsx"], [.missingBaseUrl "file:///a.png"]) ∧
    ∃ photo, (Config.replaceImports ⟨some "media", none⟩ importPage).1.member? bodyKey =
        some (.array [photo, importNode "Page" "./Page.jsx"]) ∧
      IsConstant "photo" "/media/a.png" photo ∧
      (Config.replaceImports ⟨some "media", none⟩ importPage).2.diagnostics =
        [.missingBaseUrl "file:///a.png"] := by
  have hflat : IsFlat importPage
      [importNode "photo" "file:///a.png", importNode "Page" "./Page.jsx"] := ⟨rfl, rfl⟩
  have himports : AreImports .staticImport [("photo", "file:///a.png"), ("Page", "./Page.jsx")]
      [importNode "photo" "file:///a.png", importNode "Page" "./Page.jsx"] :=
    .cons ⟨by decide, isStaticImport_importNode _ _⟩
      (.cons ⟨by decide, isStaticImport_importNode _ _⟩ .nil)
  have hlines : resolveAll ⟨some "media", none⟩ ["file:///a.png", "./Page.jsx"] =
      (["/media/a.png", "./Page.jsx"], [.missingBaseUrl "file:///a.png"]) := by
    decide +kernel
  obtain ⟨outs, hbody, hlength, -, hforetold, hdiagnostics⟩ :=
    resolveAll_foretells ⟨some "media", none⟩ hflat himports
  obtain ⟨photo, component, rfl⟩ := List.length_eq_two.1 hlength
  rw [List.map_cons, List.map_cons, List.map_nil, hlines] at hforetold hdiagnostics
  have hphoto := hforetold 0 _ _ _ _ _ rfl rfl rfl rfl
  have hcomponent := hforetold 1 _ _ _ _ _ rfl rfl rfl rfl
  obtain rfl : component = importNode "Page" "./Page.jsx" :=
    Classical.byContradiction fun hne => absurd (hcomponent.replaced_iff.1 hne) (by decide)
  exact ⟨hflat, himports, hlines, photo, hbody,
    hphoto.replaced (hphoto.replaced_iff.2 rfl), hdiagnostics.symm⟩

end Command

end ServedMedia
