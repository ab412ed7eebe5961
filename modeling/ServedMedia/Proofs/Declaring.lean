import ServedMedia.Proofs.Recognition
import ServedMedia.Proofs.Standing

/-!
# The names that are declared

The constant in the place of an import declares one name, the first one that the import
declares:

    Declares node names → ∃ first others, names = first :: others ∧
      ∀ introduced, Declares out introduced ↔ introduced = [first]
                                                                (replaceImports_declares)

The pattern of a declaration that is replaced has one name only, so nothing is lost.  The
names behind the first one of an import declaration are not declared any more.
-/

namespace ServedMedia

open Json Syntax

namespace Syntax

/-! ## Declared names -/

/-- The patterns right inside one that is no name; a hole in an array has none. -/
inductive Inner : Json → List Json → Prop
  | hole : Inner .null []
  | properties {node : Json} {items : List Json} : Tagged "ObjectPattern" node →
      node.member? "properties" = some (.array items) → Inner node items
  | elements {node : Json} {items : List Json} : Tagged "ArrayPattern" node →
      node.member? "elements" = some (.array items) → Inner node items
  | value {node child : Json} : Tagged "Property" node → node.member? "value" = some child →
      Inner node [child]
  | left {node child : Json} : Tagged "AssignmentPattern" node →
      node.member? "left" = some child → Inner node [child]
  | argument {node child : Json} : Tagged "RestElement" node →
      node.member? "argument" = some child → Inner node [child]

/-- The names that patterns bind, in the order in which they are written. -/
inductive Binds : List Json → List String → Prop
  | nil : Binds [] []
  | name {node : Json} {rest : List Json} {name : String} {names : List String} :
      IsIdentifier name node → Binds rest names → Binds (node :: rest) (name :: names)
  | inner {node : Json} {parts rest : List Json} {names : List String} : Inner node parts →
      Binds (parts ++ rest) names → Binds (node :: rest) names

/-- The names that a statement introduces: the local names of all specifiers of an import,
or what the patterns of all declarators bind. -/
inductive Declares : Json → List String → Prop
  | importDeclaration {node : Json} {specifiers : List Json} {names : List String} :
      Tagged "ImportDeclaration" node → node.member? "specifiers" = some (.array specifiers) →
      List.Forall₂ (fun specifier name => IsSpecifier name specifier) specifiers names →
      Declares node names
  | variableDeclaration {node : Json} {declarators ids : List Json} {names : List String} :
      Tagged "VariableDeclaration" node →
      node.member? "declarations" = some (.array declarators) →
      List.Forall₂ (fun declarator id => declarator.member? "id" = some id) declarators ids →
      Binds ids names → Declares node names

section
variable {node : Json} {name : String} {names : List String}

/-! ## Tags -/

theorem Has.text_unique {key first second : String} (h : Has key (Text first) node)
    (hother : Has key (Text second) node) : first = second := by
  have heq := h.text.symm.trans hother.text
  cases heq
  rfl

/-- An object is of the shape that its tag says. -/
theorem Variant.of_tagged {nested : Bool} {tags : List String} {tag other key : String}
    {Shape : Json → Prop} (h : Variant nested tags other (Marked.Holds key Shape) node)
    (htag : Tagged tag node) : other = tag ∧ Has key Shape node := by
  obtain ⟨given, hmarked, hmark, child, hchild, hshape⟩ := h
  obtain ⟨members, rfl⟩ := htag.exists_object
  have hmember : Members.get? "type" members = some (.string tag) := htag.member?
  rw [marked?, hmember] at hmarked
  cases hmarked
  refine ⟨?_, child, hchild, hshape⟩
  rcases hmark with hmark | ⟨-, hmark⟩
  · cases hmark
    rfl
  · cases hmark

theorem Variant.ne_null {nested : Bool} {tags : List String} {tag : String}
    {Fits : Marked → Prop} : ¬ Variant nested tags tag Fits .null := by
  rintro ⟨_, ⟨⟩, -⟩

/-! ## Names of patterns -/

theorem Inner.not_isIdentifier {parts : List Json} (h : Inner node parts) :
    ¬ IsIdentifier name node := by
  rintro ⟨hidentifier, -⟩
  cases h with
  | hole =>
    obtain ⟨_, hmember, -⟩ := hidentifier
    cases hmember
  | properties htag _ | elements htag _ | value htag _ | left htag _ | argument htag _ =>
    exact absurd (hidentifier.text_unique htag) (by decide)

theorem binds_isIdentifier_iff (h : IsIdentifier name node) :
    Binds [node] names ↔ names = [name] := by
  constructor
  · intro hbinds
    cases hbinds with
    | name hname hrest =>
      cases hrest with
      | nil => rw [hname.2.text_unique h.2]
    | inner hinner _ => exact absurd h hinner.not_isIdentifier
  · rintro rfl
    exact .name h .nil

/-- A pattern whose encoding is that of one name binds that name. -/
theorem Binds.eq_of_encodesIdentifier (h : Binds [node] names)
    (hencodes : EncodesIdentifier name node) : names = [name] := by
  cases h with
  | name hname hrest =>
    obtain ⟨-, htext⟩ := Variant.of_tagged hencodes hname.1
    cases hrest with
    | nil => rw [hname.2.text_unique htext]
  | inner hinner _ =>
    cases hinner with
    | hole => exact absurd hencodes Variant.ne_null
    | properties htag _ | elements htag _ | value htag _ | left htag _ | argument htag _ =>
      exact absurd (Variant.of_tagged hencodes htag).1 (by decide)

/-- A property whose encoding is that of one name binds that name. -/
theorem Binds.eq_of_encodesProperty (h : Binds [node] names)
    (hencodes : Variant true propertyTags "Property" (Marked.Holds "value"
      (EncodesIdentifier name)) node) : names = [name] := by
  cases h with
  | name hname _ => exact absurd (Variant.of_tagged hencodes hname.1).1 (by decide)
  | inner hinner hbinds =>
    cases hinner with
    | hole => exact absurd hencodes Variant.ne_null
    | value htag hmember =>
      obtain ⟨-, child, hchild, hname⟩ := Variant.of_tagged hencodes htag
      obtain rfl := Option.some.inj (hmember.symm.trans hchild)
      exact Binds.eq_of_encodesIdentifier hbinds hname
    | properties htag _ | elements htag _ | left htag _ | argument htag _ =>
      exact absurd (Variant.of_tagged hencodes htag).1 (by decide)

theorem Binds.eq_of_encodesBindingPattern (h : Binds [node] names)
    (hencodes : EncodesBindingPattern name node) : names = [name] := by
  cases h with
  | name hname _ => exact absurd (Variant.of_tagged hencodes hname.1).1 (by decide)
  | inner hinner hbinds =>
    cases hinner with
    | hole => exact absurd hencodes Variant.ne_null
    | properties htag hmember =>
      obtain ⟨-, child, hchild, property, rfl, hproperty⟩ := Variant.of_tagged hencodes htag
      obtain rfl := array.inj (Option.some.inj (hmember.symm.trans hchild))
      exact Binds.eq_of_encodesProperty hbinds hproperty
    | elements htag _ | value htag _ | left htag _ | argument htag _ =>
      exact absurd (Variant.of_tagged hencodes htag).1 (by decide)

/-! ## Names of statements -/

/-- A declaration of one declarator declares what the pattern of that one binds. -/
theorem Declares.exists_binds {declarator : Json} (h : Declares node names)
    (htag : Tagged "VariableDeclaration" node)
    (hmember : node.member? "declarations" = some (.array [declarator])) :
    ∃ id, declarator.member? "id" = some id ∧ Binds [id] names := by
  cases h with
  | importDeclaration himport _ _ => exact absurd (himport.text_unique htag) (by decide)
  | variableDeclaration _ hdeclarations hids hbinds =>
    obtain rfl := array.inj (Option.some.inj (hmember.symm.trans hdeclarations))
    cases hids with
    | cons hid hrest =>
      cases hrest with
      | nil => exact ⟨_, hid, hbinds⟩

theorem declares_isConstant_iff {value : String} (h : IsConstant name value node) :
    Declares node names ↔ names = [name] := by
  obtain ⟨htag, -, _, hmember, declarator, rfl, -, ⟨id, hid, hname⟩, -⟩ := h
  constructor
  · intro hnames
    obtain ⟨other, hother, hbinds⟩ := hnames.exists_binds htag hmember
    obtain rfl := Option.some.inj (hid.symm.trans hother)
    exact (binds_isIdentifier_iff hname).1 hbinds
  · intro hnames
    have hbinds := (binds_isIdentifier_iff hname).2 hnames
    exact .variableDeclaration htag hmember (.cons hid .nil) hbinds

theorem Declares.eq_of_encodesDynamicImport {specifier : String} (h : Declares node names)
    (hencodes : EncodesDynamicImport name specifier node) : names = [name] := by
  obtain ⟨htag, _, hmember, declarator, rfl, hfields⟩ := hencodes
  obtain ⟨id, hid, hbinds⟩ := h.exists_binds htag hmember
  rcases hfields with ⟨⟨other, hother, hpattern⟩, -⟩ | ⟨_, _, rfl, -⟩
  · obtain rfl := Option.some.inj (hid.symm.trans hother)
    exact hbinds.eq_of_encodesBindingPattern hpattern
  · cases hid

/-- The local name of a specifier is the one that is read. -/
theorem IsSpecifier.eq_of_encodesLocal {first : String} (h : IsSpecifier first node)
    (hencodes : EncodesLocal name node) : first = name := by
  obtain ⟨child, hchild, hidentifier⟩ := h
  rcases hencodes with ⟨other, hother, hfield⟩ | ⟨_, rfl, -⟩
  · obtain rfl := Option.some.inj (hchild.symm.trans hother)
    rcases hfield with hname | ⟨_, rfl, -⟩
    · exact hidentifier.2.text_unique hname
    · obtain ⟨_, ⟨⟩, -⟩ := hidentifier.1
  · cases hchild

theorem Declares.eq_cons_of_encodesStaticImport {specifier : String} (h : Declares node names)
    (hencodes : EncodesStaticImport name specifier node) : ∃ others, names = name :: others := by
  obtain ⟨htag, ⟨_, hmember, first, others, rfl, hfirst, -⟩, -⟩ := hencodes
  cases h with
  | importDeclaration _ hspecifiers hnames =>
    obtain rfl := array.inj (Option.some.inj (hmember.symm.trans hspecifiers))
    cases hnames with
    | cons hname _ => exact ⟨_, by rw [hname.eq_of_encodesLocal hfirst]⟩
  | variableDeclaration hvariable _ _ _ => exact absurd (hvariable.text_unique htag) (by decide)

end

end Syntax

namespace Config

/-! ## Top theorems -/

theorem replaceImports_declares {config : Config} {tree node : Json} {position : Position}
    {names : List String} (h : config.Replaces tree position)
    (hnode : tree.at? position = some node) (hnames : Declares node names) :
    ∃ first others, names = first :: others ∧
      (Tagged "VariableDeclaration" node → others = []) ∧
      (config.Reaches tree position →
        ∃ out, (config.replaceImports tree).1.at? position = some out) ∧
      ∀ out, (config.replaceImports tree).1.at? position = some out →
        ∀ introduced, Declares out introduced ↔ introduced = [first] := by
  obtain ⟨scan, other, name, specifier, hother, himport, hstands, hout⟩ :=
    exists_source_of_replaces h
  obtain rfl := Option.some.inj (hnode.symm.trans hother)
  obtain ⟨-, -, hencodes⟩ := Scan.import?_eq_some_iff.1 himport
  have hintroduced : ∀ out, (config.replaceImports tree).1.at? position = some out →
      ∀ introduced, Declares out introduced ↔ introduced = [name] := by
    intro out hat introduced
    obtain ⟨source, rfl, -⟩ := hout out hat
    exact declares_isConstant_iff (isConstant_constant name _ source)
  cases scan with
  | dynamicImport =>
    obtain rfl := hnames.eq_of_encodesDynamicImport hencodes
    exact ⟨name, [], rfl, fun _ => rfl, hstands, hintroduced⟩
  | staticImport =>
    obtain ⟨others, rfl⟩ := hnames.eq_cons_of_encodesStaticImport hencodes
    refine ⟨name, others, rfl, ?_, hstands, hintroduced⟩
    intro htag
    exact absurd (htag.text_unique hencodes.1) (by decide)

/-- The film of a page is declared before and after. -/
theorem replaceImports_declares_film : Config.empty.Replaces page [.key "body", .item 1] ∧
    Declares filmImport ["film"] ∧
    ∃ out, (Config.empty.replaceImports page).1.at? [.key "body", .item 1] = some out ∧
      ∀ introduced, Declares out introduced ↔ introduced = ["film"] := by
  have hreached : Config.empty.Reaches page [.key "body", .item 1] :=
    reaches_of_length_le (by decide)
  have himport : Scan.dynamicImport.import? filmImport = some ("film", "./b.mp4") := by rfl
  have hreplaces := replaces_of_import? hreached ⟨[], 1, rfl⟩ rfl himport
  have hname : Binds [.object [("type", .string "Identifier"), ("name", .string "film")]]
      ["film"] := .name ⟨⟨_, rfl, rfl⟩, ⟨_, rfl, rfl⟩⟩ .nil
  have hnames : Declares filmImport ["film"] :=
    .variableDeclaration ⟨_, rfl, rfl⟩ rfl (.cons rfl .nil)
      (.inner (.properties ⟨_, rfl, rfl⟩ rfl) (.inner (.value ⟨_, rfl, rfl⟩ rfl) hname))
  obtain ⟨first, others, heq, -, hstands, hout⟩ := replaceImports_declares hreplaces rfl hnames
  obtain ⟨rfl, -⟩ := List.cons.inj heq
  obtain ⟨out, hat⟩ := hstands hreached
  exact ⟨hreplaces, hnames, out, hat, hout out hat⟩

/-- `import photo, {caption} from "./a.png"` -/
def captionedImport : Json :=
  .object [("type", .string "ImportDeclaration"),
    ("specifiers", .array [
      .object [("type", .string "ImportDefaultSpecifier"),
        ("local", .object [("type", .string "Identifier"), ("name", .string "photo")])],
      .object [("type", .string "ImportSpecifier"),
        ("imported", .object [("type", .string "Identifier"), ("name", .string "caption")]),
        ("local", .object [("type", .string "Identifier"), ("name", .string "caption")])]]),
    ("source", .object [("type", .string "Literal"), ("value", .string "./a.png")])]

def captionedPage : Json :=
  .object [("type", .string "Program"), ("body", .array [captionedImport])]

/-- The caption is not declared any more. -/
theorem not_declares_caption : Config.empty.Replaces captionedPage [.key "body", .item 0] ∧
    Declares captionedImport ["photo", "caption"] ∧
    ∃ out, (Config.empty.replaceImports captionedPage).1.at? [.key "body", .item 0] = some out ∧
      Declares out ["photo"] ∧ ∀ introduced, Declares out introduced → "caption" ∉ introduced := by
  have hreached : Config.empty.Reaches captionedPage [.key "body", .item 0] :=
    reaches_of_length_le (by decide)
  have himport : Scan.staticImport.import? captionedImport = some ("photo", "./a.png") := by rfl
  have hreplaces := replaces_of_import? hreached ⟨[], 0, rfl⟩ rfl himport
  have hphoto : IsIdentifier "photo"
      (.object [("type", .string "Identifier"), ("name", .string "photo")]) :=
    ⟨⟨_, rfl, rfl⟩, ⟨_, rfl, rfl⟩⟩
  have hcaption : IsIdentifier "caption"
      (.object [("type", .string "Identifier"), ("name", .string "caption")]) :=
    ⟨⟨_, rfl, rfl⟩, ⟨_, rfl, rfl⟩⟩
  have hnames : Declares captionedImport ["photo", "caption"] :=
    .importDeclaration ⟨_, rfl, rfl⟩ rfl
      (.cons ⟨_, rfl, hphoto⟩ (.cons ⟨_, rfl, hcaption⟩ .nil))
  have hout : (Config.empty.replaceImports captionedPage).1.at? [.key "body", .item 0] =
      some (constant "photo" "/a.png" captionedImport) := by rfl
  have hdeclares : ∀ introduced, Declares (constant "photo" "/a.png" captionedImport) introduced ↔
      introduced = ["photo"] :=
    fun _ => declares_isConstant_iff (isConstant_constant "photo" "/a.png" captionedImport)
  refine ⟨hreplaces, hnames, _, hout, (hdeclares _).2 rfl, ?_⟩
  intro introduced hintroduced
  rw [(hdeclares introduced).1 hintroduced]
  decide

end Config

end ServedMedia
