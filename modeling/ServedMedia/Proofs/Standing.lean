import ServedMedia.Proofs.Constants
import ServedMedia.Proofs.Repeating

/-!
# What stands in the place of an import

The scan that puts a constant in the place of an import does not enter it.  But the
positions of the import, which the constant keeps, are walked by the other scan, before
or after:

    config.Reaches tree position → (config.replaceImports tree).1.at? position =
      some (constant name url (substitute (config.replacementFor scan.other) false node))

Nothing but that scan sees the statements in these positions, so a constant that stands
there is made of the import as it was                             (replaceImports_standing).
-/

namespace ServedMedia

open Json Syntax

/-- The scan that a scan is not. -/
def Scan.other : Scan → Scan
  | .dynamicImport => .staticImport
  | .staticImport => .dynamicImport

/-! ## Positions of statements -/

/-- A statement of a tree that lies below another one is a statement of that other one. -/
theorem Json.isStatement_of_append {outer inner : Position} (houter : IsStatement outer)
    (hne : inner ≠ []) (h : IsStatement (outer ++ inner)) : IsStatement inner := by
  obtain ⟨around, place, rfl⟩ := houter
  obtain ⟨init, index, heq⟩ := h
  rcases List.append_eq_append_iff.1 heq with ⟨middle, -, hinner⟩ | ⟨middle, houter, hlast⟩
  · exact ⟨middle, index, hinner⟩
  · -- The outer position ends with an item, so it does not end between the last two steps.
    match middle, hlast with
    | [], hlast => exact ⟨[], index, hlast.symm⟩
    | [step], hlast =>
      obtain ⟨rfl, -⟩ := List.cons.inj hlast
      have hstep := congrArg List.getLast? houter
      simp at hstep
    | [_, _], hlast =>
      simp only [List.cons_append, List.nil_append, List.cons.injEq] at hlast
      exact absurd hlast.2.2.symm hne
    | _ :: _ :: _ :: _, hlast => simp at hlast

namespace Config

section
variable {config : Config} {tree : Json} {position : Position}

/-! ## Outermost replaced statements -/

theorem exists_reached_of_replaces (h : config.Replaces tree position) :
    ∃ outer, outer <+: position ∧ config.Replaces tree outer ∧ config.Reaches tree outer :=
  exists_outermost h

/-- What a scan replaces are its imports. -/
theorem replacementFor_eq_some_iff {scan : Scan} {node out : Json} :
    config.replacementFor scan node = some out ↔
      ∃ name specifier, scan.import? node = some (name, specifier) ∧
        constant name (config.resolve specifier).1 node = out := by
  rw [replacementFor_eq_map, Option.map_eq_some_iff, Prod.exists]

/-- The first scan puts a constant in the place of an import. -/
theorem at?_scanned_of_replaced
    (h : Replaced (config.replacementFor .dynamicImport) tree position) :
    ∃ node name specifier, tree.at? position = some node ∧
      Scan.dynamicImport.import? node = some (name, specifier) ∧
      (config.scanned tree).at? position =
        some (constant name (config.resolve specifier).1 node) := by
  obtain ⟨-, node, hnode, hsome⟩ := h.1
  obtain ⟨out, hout⟩ := Option.isSome_iff_exists.1 hsome
  obtain ⟨name, specifier, himport, rfl⟩ := replacementFor_eq_some_iff.1 hout
  refine ⟨node, name, specifier, hnode, himport, ?_⟩
  rw [scanned_eq_substitute, at?_substitute_of_replaced hnode h, hout]

/-- The second scan puts a constant in the place of an import that the first one left. -/
theorem at?_replaceImports_of_replaced
    (h : Replaced (config.replacementFor .staticImport) (config.scanned tree) position) :
    ∃ node name specifier, (config.scanned tree).at? position = some node ∧
      Scan.staticImport.import? node = some (name, specifier) ∧
      (config.replaceImports tree).1.at? position =
        some (constant name (config.resolve specifier).1 node) := by
  obtain ⟨-, node, hnode, hsome⟩ := h.1
  obtain ⟨out, hout⟩ := Option.isSome_iff_exists.1 hsome
  obtain ⟨name, specifier, himport, rfl⟩ := replacementFor_eq_some_iff.1 hout
  exact ⟨node, name, specifier, hnode, himport, by rw [at?_replaceImports_of_static h hnode, hout]⟩

/-- A constant of the first scan is no import, so what the second scan replaces the first one
kept. -/
theorem not_matches_of_static (hreached : config.Reaches tree position)
    (h : Replaced (config.replacementFor .staticImport) (config.scanned tree) position) :
    ¬ Matches (config.replacementFor .dynamicImport) tree position := by
  rintro ⟨hstatement, node, hnode, hsome⟩
  obtain ⟨_, _, _, -, -, hscanned⟩ :=
    at?_scanned_of_replaced (replaced_dynamic hreached hstatement hnode hsome)
  obtain ⟨-, left, hleft, hstill⟩ := h.1
  obtain rfl := Option.some.inj (hscanned.symm.trans hleft)
  rw [replacementFor_constant] at hstill
  cases hstill

/-- Around nothing that is replaced, an import is replaced. -/
theorem replaces_of_import? {scan : Scan} {node : Json} {name specifier : String}
    (hreached : config.Reaches tree position) (hstatement : IsStatement position)
    (hnode : tree.at? position = some node) (himport : scan.import? node = some (name, specifier)) :
    config.Replaces tree position := by
  have hout : config.replacementFor scan node = some _ :=
    replacementFor_eq_some_iff.2 ⟨name, specifier, himport, rfl⟩
  cases scan with
  | dynamicImport => exact .inl (replaced_dynamic hreached hstatement hnode (by rw [hout]; rfl))
  | staticImport =>
    have hself : ¬ Matches (config.replacementFor .dynamicImport) tree position :=
      not_matches_of_none hnode (replacementFor_of_ne (by decide) hout)
    have hscanned := at?_scanned hreached hself
    rw [hnode, endsAtBody_of_isStatement hstatement, Option.map_some] at hscanned
    have hsome : (config.replacementFor .staticImport
        (substitute (config.replacementFor .dynamicImport) false node)).isSome = true := by
      rw [shallow_replacementFor, hout]
      rfl
    exact .inr (replaced_static hreached hstatement hscanned hsome)

/-! ## What stands in the result -/

/-- A statement that no replaced one is around becomes a constant that is made of what the
other scan leaves of it. -/
theorem at?_replaceImports_of_reaches (hreached : config.Reaches tree position)
    (h : config.Replaces tree position) :
    ∃ (scan : Scan) (node : Json) (name specifier : String), tree.at? position = some node ∧
      scan.import? node = some (name, specifier) ∧
      (config.replaceImports tree).1.at? position =
        some (constant name (config.resolve specifier).1
          (substitute (config.replacementFor scan.other) false node)) := by
  have hbody := endsAtBody_of_isStatement h.isStatement
  rcases h with hdynamic | hstatic
  · obtain ⟨node, name, specifier, hnode, himport, hscanned⟩ := at?_scanned_of_replaced hdynamic
    have hkept := not_matches_of_none hscanned (replacementFor_constant config .staticImport _ _ _)
    refine ⟨.dynamicImport, node, name, specifier, hnode, himport, ?_⟩
    rw [at?_replaceImports hreached hkept, hscanned, hbody, Option.map_some, constant_substitute]
    rfl
  · obtain ⟨left, name, specifier, hleft, himport, hfinal⟩ :=
      at?_replaceImports_of_replaced hstatic
    rw [at?_scanned hreached (not_matches_of_static hreached hstatic), hbody] at hleft
    obtain ⟨node, hnode, rfl⟩ := Option.map_eq_some_iff.1 hleft
    rw [Scan.import?_substitute] at himport
    exact ⟨.staticImport, node, name, specifier, hnode, himport, hfinal⟩

/-- A statement inside a replaced one is replaced by the other scan, which takes it as it was. -/
theorem at?_replaceImports_of_not_reaches (hinside : ¬ config.Reaches tree position)
    (h : config.Replaces tree position) :
    ∃ (scan : Scan) (node : Json) (name specifier : String), tree.at? position = some node ∧
      scan.import? node = some (name, specifier) ∧
      ∀ out, (config.replaceImports tree).1.at? position = some out →
        out = constant name (config.resolve specifier).1 node := by
  obtain ⟨outer, ⟨rest, rfl⟩, houter, hreached⟩ := exists_reached_of_replaces h
  have hne : rest ≠ [] := by
    rintro rfl
    exact hinside (by simpa using hreached)
  have hencloses : Encloses outer (outer ++ rest) := ⟨List.prefix_append outer rest, by simpa⟩
  have hrest : IsStatement rest := isStatement_of_append houter.isStatement hne h.isStatement
  rcases houter, h with ⟨houter | houter, h | h⟩
  · exact absurd houter.1 (h.2 outer hencloses)
  · -- The second scan finds the statement in the positions that the first one kept.
    obtain ⟨source, _, _, hsource, -, hconstant⟩ := at?_scanned_of_replaced houter
    obtain ⟨node, name, specifier, hnode, himport, hfinal⟩ := at?_replaceImports_of_replaced h
    rw [at?_append, hconstant] at hnode
    refine ⟨.staticImport, node, name, specifier, ?_, himport, ?_⟩
    · rw [at?_append, hsource]
      exact at?_of_at?_constant hrest hnode
    · intro out hout
      exact Option.some.inj (hout.symm.trans hfinal)
  · -- The second scan keeps what the first one put into the positions.
    obtain ⟨source, _, _, hsource, -, hconstant⟩ := at?_replaceImports_of_replaced houter
    obtain ⟨node, name, specifier, hnode, himport, hscanned⟩ := at?_scanned_of_replaced h
    refine ⟨.dynamicImport, node, name, specifier, hnode, himport, ?_⟩
    intro out hout
    rw [at?_append, hconstant] at hout
    rw [at?_append, hsource] at hscanned
    exact Option.some.inj ((at?_of_at?_constant hrest hout).symm.trans hscanned)
  · exact absurd houter.1 (h.2 outer hencloses)

/-- Whatever stands in the place of an import is a constant of its name, made of what the other
scan leaves of it or of the import as it was. -/
theorem exists_source_of_replaces (h : config.Replaces tree position) :
    ∃ (scan : Scan) (node : Json) (name specifier : String), tree.at? position = some node ∧
      scan.import? node = some (name, specifier) ∧
      (config.Reaches tree position →
        ∃ out, (config.replaceImports tree).1.at? position = some out) ∧
      ∀ out, (config.replaceImports tree).1.at? position = some out →
        ∃ source, out = constant name (config.resolve specifier).1 source ∧
          ((config.Reaches tree position ∧
              source = substitute (config.replacementFor scan.other) false node) ∨
            (¬ config.Reaches tree position ∧ source = node)) := by
  by_cases hreached : config.Reaches tree position
  · obtain ⟨scan, node, name, specifier, hnode, himport, hfinal⟩ :=
      at?_replaceImports_of_reaches hreached h
    refine ⟨scan, node, name, specifier, hnode, himport, fun _ => ⟨_, hfinal⟩, ?_⟩
    intro out hout
    exact ⟨_, Option.some.inj (hout.symm.trans hfinal), .inl ⟨hreached, rfl⟩⟩
  · obtain ⟨scan, node, name, specifier, hnode, himport, hfinal⟩ :=
      at?_replaceImports_of_not_reaches hreached h
    refine ⟨scan, node, name, specifier, hnode, himport, fun h => absurd h hreached, ?_⟩
    intro out hout
    exact ⟨node, hfinal out hout, .inr ⟨hreached, rfl⟩⟩

/-! ## Positions of constants -/

/-- Of what a scan makes of a statement the constant keeps the positions without statements. -/
theorem member?_constant_substitute {edit : Json → Option Json} {name value key : String}
    {node : Json} (hkey : key ∈ positionKeys)
    (hplain : ∀ child, node.member? key = some child → sites false child = []) :
    (constant name value (substitute edit false node)).member? key = node.member? key := by
  rw [member?_constant, if_pos hkey, member?_substitute,
    beq_false_of_ne (ne_bodyKey_of_mem key hkey)]
  cases hmember : node.member? key with
  | none => rfl
  | some child => rw [Option.map_some, substitute_of_sites_eq_nil (hplain child hmember)]

/-! ## Top theorems -/

theorem replaceImports_standing (h : config.Replaces tree position) :
    ∃ (scan : Scan) (node : Json) (name specifier url : String), tree.at? position = some node ∧
      scan.import? node = some (name, specifier) ∧
      url = (Resolve.resolvePath specifier config.mountPrefix config.baseUrl).1 ∧
      (config.Reaches tree position → (config.replaceImports tree).1.at? position =
        some (constant name url (substitute (config.replacementFor scan.other) false node))) ∧
      ∀ out, (config.replaceImports tree).1.at? position = some out →
        (¬ config.Reaches tree position ∨ PlainPositions node → out = constant name url node) ∧
        ∀ key ∈ ["start", "end", "loc", "range"],
          (∀ value, node.member? key = some value → sites false value = []) →
            out.member? key = node.member? key := by
  obtain ⟨scan, node, name, specifier, hnode, himport, hstands, hsource⟩ :=
    exists_source_of_replaces h
  refine ⟨scan, node, name, specifier, _, hnode, himport, rfl, ?_, ?_⟩
  · intro hreached
    obtain ⟨out, hout⟩ := hstands hreached
    obtain ⟨source, rfl, ⟨-, rfl⟩ | ⟨hinside, -⟩⟩ := hsource out hout
    · exact hout
    · exact absurd hreached hinside
  · intro out hout
    obtain ⟨source, rfl, ⟨hreached, rfl⟩ | ⟨-, rfl⟩⟩ := hsource out hout
    · refine ⟨?_, fun key hkey hplain => member?_constant_substitute hkey hplain⟩
      rintro (hinside | hplain)
      · exact absurd hreached hinside
      · exact constant_of_plainPositions hplain _ name _
    · refine ⟨fun _ => rfl, fun key hkey _ => ?_⟩
      exact (member?_constant name _ key source).trans (if_pos hkey)

/-- The places of a page's imports are kept, whatever was found below the first of them. -/
theorem replaceImports_standing_placed :
    Config.empty.Replaces placedPage [.key "body", .item 0] ∧
      ∃ name url, (Config.empty.replaceImports placedPage).1.at? [.key "body", .item 0] =
        some (constant name url (placed 1 80 photoImport)) := by
  have hreached : Config.empty.Reaches placedPage [.key "body", .item 0] :=
    reaches_of_length_le (by decide)
  have himport : Scan.staticImport.import? (placed 1 80 photoImport) =
      some ("photo", "../a.png") := by rfl
  have hreplaces := replaces_of_import? hreached ⟨[], 0, rfl⟩ rfl himport
  obtain ⟨_, node, name, _, url, hnode, -, -, hstands, hout⟩ := replaceImports_standing hreplaces
  obtain rfl := Option.some.inj hnode
  have hplain : PlainPositions (placed 1 80 photoImport) := by
    unfold PlainPositions
    decide
  have hsame := (hout _ (hstands hreached)).1 (.inr hplain)
  exact ⟨hreplaces, name, url, (hstands hreached).trans (congrArg some hsame)⟩

/-- A statement with another one in its place. -/
def around (inside : Json) : Json → Json
  | .object members => .object (members ++ [("loc", .object [("body", .array [inside])])])
  | value => value

def crowdedPage : Json :=
  .object [("type", .string "Program"), ("body", .array [around photoImport filmImport])]

/-- The second scan enters the constant for the film and replaces the photo in its place, so no
constant of the film as it was stands in the result. -/
theorem replaceImports_ne_constant_crowded :
    Config.empty.Replaces crowdedPage [.key "body", .item 0] ∧
      ¬ ∃ name url node, crowdedPage.at? [.key "body", .item 0] = some node ∧
        (Config.empty.replaceImports crowdedPage).1.at? [.key "body", .item 0] =
          some (constant name url node) := by
  have himport : Scan.dynamicImport.import? (around photoImport filmImport) =
      some ("film", "./b.mp4") := by rfl
  refine ⟨replaces_of_import? (reaches_of_length_le (by decide)) ⟨[], 0, rfl⟩ rfl himport, ?_⟩
  rintro ⟨name, url, node, hnode, hfinal⟩
  obtain rfl := Option.some.inj hnode
  have hphoto : (Config.empty.replaceImports crowdedPage).1.at? (inPlace ++ [.key "kind"]) =
      some (.string "const") := by rfl
  have hcut : inPlace ++ [.key "kind"] =
      [.key "body", .item 0] ++ [.key "loc", .key "body", .item 0, .key "kind"] := rfl
  rw [hcut, at?_append, hfinal] at hphoto
  cases hphoto

end

end Config

end ServedMedia
