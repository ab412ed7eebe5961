import ServedMedia.Proofs.Scans
import ServedMedia.Proofs.Serving

/-!
# What the report tells

The report names each statement that is replaced one time, in the order of the two
scans and within each scan in document order, and it holds one diagnostic for each of
them whose file URL cannot be seen from the document:

    (config.replaceImports tree).2.replacements = config.replacements tree
    (config.replaceImports tree).2.diagnostics =
      (config.replacements tree).filterMap fun r => complaint? r.specifier config.baseUrl
                                                                  (replaceImports_report)

If it names none then the tree is as it was, and only then           (isUnchanged_iff).
-/

namespace ServedMedia

open Json Syntax

/-! ## Algorithm -/

/-- The name and the specifier of an import whose specifier qualifies. -/
def Scan.import? (scan : Scan) (node : Json) : Option (String × String) :=
  match scan.binding? node with
  | some ⟨name, .string specifier⟩ =>
    if (qualify (.string specifier)).toOption.isSome then some (name, specifier) else none
  | _ => none

/-- What is wrong with a file URL that cannot be seen from the document at the base. -/
def Resolve.complaint? (specifier : String) (base : Option String) : Option Diagnostic :=
  if startsWith fileUrlStart specifier.toList then
    let url := String.ofList (Canonical.composed specifier.toList)
    match base with
    | none => some (.missingBaseUrl url)
    | some document =>
      if (fileUrlNames? url).isNone then some (.invalidFileUrl url url)
      else if (fileUrlNames? document).isNone then some (.invalidFileUrl document url)
      else none
  else none

namespace Config

/-- How an import is reported. -/
def replacement? (config : Config) (scan : Scan) (node : Json) : Option Replacement :=
  (scan.import? node).map fun (name, specifier) =>
    ⟨scan, name, specifier,
      (Resolve.resolvePath specifier config.mountPrefix config.baseUrl).1⟩

/-- The outermost imports of a tree that one scan looks for, in document order. -/
def scanReplacements (config : Config) (scan : Scan) (tree : Json) : List Replacement :=
  (outermost (fun node => (scan.import? node).isSome) false tree).filterMap
    (config.replacement? scan)

/-- The dynamic imports of a tree and then the static imports that are left of it. -/
def replacements (config : Config) (tree : Json) : List Replacement :=
  config.scanReplacements .dynamicImport tree ++
    config.scanReplacements .staticImport (config.scanned tree)

end Config

/-! ## Diagnostics -/

namespace Resolve

theorem relativePath_snd {specifier : String}
    (hfile : startsWith fileUrlStart specifier.toList = true) (base : Option String) :
    (relativePath (String.ofList (Canonical.composed specifier.toList)) base).2 =
      (complaint? specifier base).toList := by
  unfold relativePath complaint?
  rw [if_pos hfile]
  cases base with
  | none => rfl
  | some document =>
    cases htarget : fileUrlNames? (String.ofList (Canonical.composed specifier.toList)) with
    | none => simp [htarget]
    | some target => cases hnames : fileUrlNames? document <;> simp [htarget, hnames]

/-- The composed specifier is a file URL if the specifier is one. -/
theorem resolvePath_snd {specifier : String} (mount base : Option String)
    (hqualify : qualify (.string specifier) = .ok specifier) :
    (resolvePath specifier mount base).2 = (complaint? specifier base).toList := by
  rcases isRelative_or_fileUrl hqualify with hrelative | ⟨rest, hrest, -⟩
  · rw [resolvePath_of_isRelative hrelative]
    obtain ⟨rest, hrest⟩ := hrelative.exists_dot
    simp [complaint?, hrest, startsWith_of_dot]
  · have hfile : startsWith fileUrlStart specifier.toList = true :=
      (startsWith_iff _ _).2 ⟨rest, hrest⟩
    have hcomposed : startsWith fileUrlStart (Canonical.composed specifier.toList) = true := by
      rw [hrest, composed_fileUrl]
      exact (startsWith_iff _ _).2 ⟨_, rfl⟩
    rw [← relativePath_snd hfile]
    unfold resolvePath
    simp [hcomposed]

end Resolve

/-! ## Reported replacements -/

theorem Scan.import?_eq_bind (scan : Scan) (node : Json) :
    scan.import? node = (scan.binding? node).bind fun binding =>
      (qualify binding.specifier).toOption.map fun specifier => (binding.name, specifier) := by
  unfold Scan.import?
  rcases scan.binding? node with _ | ⟨name, value⟩
  · rfl
  · cases value with
    | string specifier =>
      cases hqualify : qualify (.string specifier) with
      | error reason => simp [hqualify, Except.toOption]
      | ok text =>
        obtain rfl : specifier = text := by simpa using eq_string_of_qualify hqualify
        simp [hqualify, Except.toOption]
    | null | bool _ | number _ | array _ | object _ => rfl

namespace Config

section
variable {config : Config} {scan : Scan}

theorem replacementFor_eq_map (config : Config) (scan : Scan) (node : Json) :
    config.replacementFor scan node = (scan.import? node).map fun (name, specifier) =>
      constant name (config.resolve specifier).1 node := by
  rw [Scan.import?_eq_bind]
  unfold replacementFor
  cases scan.binding? node with
  | none => rfl
  | some binding => cases hqualify : (qualify binding.specifier).toOption <;> simp [hqualify]

/-- A statement that is replaced is reported, with the complaint about its specifier. -/
theorem replaceStatement_snd (report : Report) (node : Json) :
    (config.replaceStatement scan report node).2.replacements =
        report.replacements ++ (config.replacement? scan node).toList ∧
      (config.replaceStatement scan report node).2.diagnostics =
        report.diagnostics ++ ((config.replacement? scan node).bind fun replacement =>
          Resolve.complaint? replacement.specifier config.baseUrl).toList := by
  unfold replaceStatement replacement?
  rw [Scan.import?_eq_bind]
  cases scan.binding? node with
  | none => simp
  | some binding =>
    cases hqualify : qualify binding.specifier with
    | error reason => simp [hqualify, Report.log, Report.replacements, Except.toOption]
    | ok specifier =>
      have hstring := eq_string_of_qualify hqualify
      have hdiagnostics := Resolve.resolvePath_snd config.mountPrefix config.baseUrl
        (hstring ▸ hqualify)
      simp [hqualify, Report.log, Report.replacements, Except.toOption, resolve, hdiagnostics]

end

end Config

/-- A run that adds at most one item at each step. -/
theorem foldl_eq_append_filterMap {σ α β : Type} {step : σ → α → σ} {view : σ → List β}
    {added? : α → Option β} (h : ∀ s item, view (step s item) = view s ++ (added? item).toList)
    (items : List α) (s : σ) :
    view (items.foldl step s) = view s ++ items.filterMap added? := by
  induction items generalizing s with
  | nil => simp
  | cons item items ih =>
    rw [List.foldl_cons, ih, h, List.append_assoc]
    cases hadded : added? item <;> simp [hadded]

namespace Config

theorem runScan_snd (config : Config) (scan : Scan) (tree : Json) (report : Report) :
    (config.runScan scan tree report).2.replacements =
        report.replacements ++ config.scanReplacements scan tree ∧
      (config.runScan scan tree report).2.diagnostics =
        report.diagnostics ++ (config.scanReplacements scan tree).filterMap fun replacement =>
          Resolve.complaint? replacement.specifier config.baseUrl := by
  have htaken : ∀ report node, (config.replaceStatement scan report node).1.isSome =
      (scan.import? node).isSome := by
    intro report node
    rw [replaceStatement_fst, replacementFor_eq_map, Option.isSome_map]
  have hreplacements : config.scanReplacements scan tree =
      (offered (fun node => (scan.import? node).isSome) false tree).filterMap
        (config.replacement? scan) := by
    unfold scanReplacements
    rw [outermost_eq_filter, List.filterMap_filter]
    apply List.filterMap_congr
    intro node _
    cases himport : scan.import? node <;> simp [replacement?, himport]
  have hrun := visitStatements_snd htaken tree report
  show (visitStatements _ tree report).2.replacements = _ ∧
    (visitStatements _ tree report).2.diagnostics = _
  rw [hrun, hreplacements, List.filterMap_filterMap]
  exact ⟨foldl_eq_append_filterMap (fun s node => (replaceStatement_snd s node).1) _ report,
    foldl_eq_append_filterMap (fun s node => (replaceStatement_snd s node).2) _ report⟩

theorem replacements_replaceImports (config : Config) (tree : Json) :
    (config.replaceImports tree).2.replacements = config.replacements tree := by
  show (config.runScan .staticImport (config.scanned tree)
    (config.runScan .dynamicImport tree .empty).2).2.replacements = _
  rw [(runScan_snd config _ _ _).1, (runScan_snd config _ _ _).1]
  rfl

theorem diagnostics_replaceImports (config : Config) (tree : Json) :
    (config.replaceImports tree).2.diagnostics =
      (config.replacements tree).filterMap fun replacement =>
        Resolve.complaint? replacement.specifier config.baseUrl := by
  show (config.runScan .staticImport (config.scanned tree)
    (config.runScan .dynamicImport tree .empty).2).2.diagnostics = _
  rw [(runScan_snd config _ _ _).2, (runScan_snd config _ _ _).2, replacements,
    List.filterMap_append]
  rfl

/-! ## Unchanged trees -/

theorem scanReplacements_eq_nil_iff {config : Config} {scan : Scan} {tree : Json} :
    config.scanReplacements scan tree = [] ↔
      Throughout (fun node => config.replacementFor scan node = none) false tree := by
  have hnone : ∀ node, (scan.import? node).isSome = false ↔
      config.replacementFor scan node = none := by
    intro node
    rw [replacementFor_eq_map, Option.map_eq_none_iff, Option.isSome_eq_false_iff,
      Option.isNone_iff_eq_none]
  have hreplacements : config.scanReplacements scan tree = [] ↔
      outermost (fun node => (scan.import? node).isSome) false tree = [] := by
    unfold scanReplacements
    rw [List.filterMap_eq_nil_iff, List.eq_nil_iff_forall_not_mem]
    refine forall₂_congr fun node hnode => ?_
    rw [outermost_eq_filter, List.mem_filter] at hnode
    simpa [replacement?] using Option.isSome_iff_ne_none.1 hnode.2
  rw [hreplacements, outermost_eq_nil_iff]
  exact forall₂_congr fun site _ => hnone site.node

/-- If the first scan replaces nothing then the second one runs over the same tree. -/
theorem replacements_eq_nil_iff {config : Config} {tree : Json} :
    config.replacements tree = [] ↔
      Throughout (fun node => config.bothScans node = none) false tree := by
  unfold replacements
  rw [List.append_eq_nil_iff, scanReplacements_eq_nil_iff, scanReplacements_eq_nil_iff,
    scanned_eq_substitute]
  constructor
  · rintro ⟨hdynamic, hstatic⟩
    rw [substitute_of_none hdynamic] at hstatic
    exact fun site hsite =>
      bothScans_eq_none_iff.2 ⟨hdynamic site hsite, hstatic site hsite⟩
  · intro h
    have hdynamic := h.imp fun node hnode => (bothScans_eq_none_iff.1 hnode).1
    rw [substitute_of_none hdynamic]
    exact ⟨hdynamic, h.imp fun node hnode => (bothScans_eq_none_iff.1 hnode).2⟩

/-! ## Top theorems -/

theorem replaceImports_report (config : Config) (tree : Json) :
    (config.replaceImports tree).2.replacements = config.replacements tree ∧
      (config.replaceImports tree).2.diagnostics =
        (config.replacements tree).filterMap fun replacement =>
          Resolve.complaint? replacement.specifier config.baseUrl :=
  ⟨replacements_replaceImports config tree, diagnostics_replaceImports config tree⟩

theorem isUnchanged_iff (config : Config) (tree : Json) :
    (config.replaceImports tree).2.isUnchanged = true ↔ (config.replaceImports tree).1 = tree := by
  rw [replaceImports_eq_substitute, substitute_eq_self_iff (bothScans_ne_self config),
    ← replacements_eq_nil_iff, ← replacements_replaceImports]
  exact List.isEmpty_iff

end Config

end ServedMedia
