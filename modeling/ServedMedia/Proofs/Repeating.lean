import ServedMedia.Proofs.Reporting

/-!
# Running again

A second run finds nothing to do, unless there are statements in the positions of a
statement: the positions of what is replaced are kept and no scan has walked them.

    Throughout PlainPositions false tree →
      (config.replaceImports once).1 = once        where once = (config.replaceImports tree).1
                                                                  (replaceImports_again)
-/

namespace ServedMedia

open Json Syntax

/-- No statement stands in the positions of the node. -/
def Syntax.PlainPositions (node : Json) : Prop :=
  ∀ position ∈ positions node, sites false position.2 = []

/-! ## Constants -/

theorem Syntax.ne_bodyKey_of_mem_positions {node : Json} {position : String × Json}
    (h : position ∈ positions node) : position.1 ≠ bodyKey := by
  obtain ⟨key, hkey, hposition⟩ := List.mem_filterMap.1 h
  obtain ⟨value, -, rfl⟩ := Option.map_eq_some_iff.1 hposition
  exact ne_bodyKey_of_mem key hkey

theorem Syntax.constant_of_plainPositions {node : Json} (h : PlainPositions node)
    (edit : Json → Option Json) (name value : String) :
    constant name value (substitute edit false node) = constant name value node := by
  have hpositions : substituteMembers edit (positions node) = positions node := by
    rw [substituteMembers_eq_map]
    conv_rhs => rw [← List.map_id (positions node)]
    apply List.map_congr_left
    intro position hposition
    rw [beq_false_of_ne (ne_bodyKey_of_mem_positions hposition),
      substitute_of_sites_eq_nil (h position hposition)]
    rfl
  unfold constant
  rw [positions_substitute, hpositions]

namespace Config

/-! ## Two runs -/

/-- What stands in the place of a statement is left alone by a second run. -/
theorem followedBy_bothScans (config : Config) {node : Json} (h : PlainPositions node) :
    followedBy config.bothScans config.bothScans node = config.bothScans node := by
  unfold followedBy
  cases hout : config.bothScans node with
  | none =>
    obtain ⟨hdynamic, hstatic⟩ := bothScans_eq_none_iff.1 hout
    exact bothScans_eq_none_iff.2
      ⟨by rw [shallow_replacementFor, hdynamic]; rfl, by rw [shallow_replacementFor, hstatic]; rfl⟩
  | some out =>
    obtain ⟨name, value, edit, rfl⟩ := exists_constant_of_bothScans hout
    rw [constant_of_plainPositions h]
    show some ((config.bothScans (constant name value node)).getD
      (substitute config.bothScans false (constant name value node))) = _
    rw [bothScans_constant, Option.getD_none, ← constant_substitute,
      constant_of_plainPositions h]

theorem substitute_replaceImports (config : Config) {tree : Json}
    (h : Throughout PlainPositions false tree) :
    substitute config.bothScans false (config.replaceImports tree).1 =
      (config.replaceImports tree).1 := by
  rw [replaceImports_eq_substitute, substitute_substitute]
  exact substitute_congr (h.imp fun node hnode => followedBy_bothScans config hnode)

/-! ## Top theorems -/

theorem replaceImports_again {config : Config} {tree : Json}
    (h : Throughout PlainPositions false tree) :
    (config.replaceImports (config.replaceImports tree).1).1 = (config.replaceImports tree).1 ∧
      (config.replaceImports (config.replaceImports tree).1).2.replacements = [] ∧
      (config.replaceImports (config.replaceImports tree).1).2.diagnostics = [] := by
  have hsame := substitute_replaceImports config h
  have hnone : config.replacements (config.replaceImports tree).1 = [] := by
    rw [replacements_eq_nil_iff, ← substitute_eq_self_iff (bothScans_ne_self config)]
    exact hsame
  rw [replacements_replaceImports, diagnostics_replaceImports, hnone]
  refine ⟨?_, rfl, rfl⟩
  rw [replaceImports_eq_substitute]
  exact hsame

/-- A statement with the place of its text. -/
def placed (first last : Int) : Json → Json
  | .object members => .object (members ++
      [("loc", .object [("start", .object [("line", .number (.whole first))])]),
        ("range", .array [.number (.whole first), .number (.whole last)])])
  | value => value

def placedPage : Json :=
  .object [("type", .string "Program"),
    ("body", .array [placed 1 80 photoImport, placed 81 99 filmImport])]

theorem replaceImports_again_placed : Throughout PlainPositions false placedPage ∧
    (replaceImports ⟨some "media", none⟩ (replaceImports ⟨some "media", none⟩ placedPage).1).1 =
      (replaceImports ⟨some "media", none⟩ placedPage).1 ∧
    (replaceImports ⟨some "media", none⟩
      (replaceImports ⟨some "media", none⟩ placedPage).1).2.replacements = [] ∧
    (replaceImports ⟨some "media", none⟩
      (replaceImports ⟨some "media", none⟩ placedPage).1).2.diagnostics = [] := by
  have hplain : Throughout PlainPositions false placedPage := by
    unfold Throughout PlainPositions
    decide
  exact ⟨hplain, replaceImports_again hplain⟩

end Config

end ServedMedia
