import ServedMedia.Proofs.Encoding
import ServedMedia.Proofs.Reporting

/-!
# Which statements are replaced

An import is looked for by its shape, and each part of the shape may be encoded in
another way than the nodes of a tree are:

    what is told by its tag     an object, or an array of tag and field; a number may
                                stand for the tag, but for the outermost of a declarator
    declarator, specifier,      an object of any tag or none, or an array of the fields
    local name, source
    the statement itself        an object with its tag

A statement is replaced exactly if it encodes an import with a name and with a
specifier that qualifies:

    (config.replaceStatement scan report node).1.isSome = true ↔
      ∃ name specifier, name ≠ "" ∧ qualify (.string specifier) = .ok specifier ∧
        scan.Encodes name specifier node                     (isSome_replaceStatement_iff)
-/

namespace ServedMedia

open Json Syntax

namespace Syntax

/-! ## Encoded imports -/

def EncodesIdentifier (name : String) : Json → Prop :=
  Variant true patternTags "Identifier" (Marked.Holds "name" (Text name))

def EncodesLiteral (text : String) : Json → Prop :=
  Variant true expressionTags "Literal" (Marked.Holds "value" (Text text))

/-- `{key: name}` -/
def EncodesBindingPattern (name : String) : Json → Prop :=
  Variant false patternTags "ObjectPattern" (Marked.Holds "properties" (Only
    (Variant true propertyTags "Property" (Marked.Holds "value" (EncodesIdentifier name)))))

/-- `resolve("specifier", …)` -/
def EncodesSpecifierCall (specifier : String) : Json → Prop :=
  Variant true expressionTags "CallExpression"
    (Marked.Holds "arguments" (Leading (EncodesLiteral specifier) IsReadable))

/-- `await import(resolve("specifier", …))` -/
def EncodesAwaitedImport (specifier : String) : Json → Prop :=
  Variant false expressionTags "AwaitExpression" (Marked.Holds "argument"
    (Variant true expressionTags "ImportExpression"
      (Marked.Holds "source" (EncodesSpecifierCall specifier))))

/-- `const {key: name} = await import(resolve("specifier", …))` -/
def EncodesDynamicImport (name specifier : String) (node : Json) : Prop :=
  Tagged "VariableDeclaration" node ∧
    Has "declarations" (Only (Fields "id" "init" (EncodesBindingPattern name)
      (EncodesAwaitedImport specifier))) node

/-- A specifier of an import; no tag is looked at. -/
def EncodesLocal (name : String) : Json → Prop := Field "local" (Field "name" (Text name))

/-- `import name from "specifier"`, perhaps with more names; no tag of a part is looked at. -/
def EncodesStaticImport (name specifier : String) (node : Json) : Prop :=
  Tagged "ImportDeclaration" node ∧
    Has "specifiers" (Leading (EncodesLocal name) fun other => ∃ name, EncodesLocal name other)
      node ∧
    Has "source" (Field "value" (Text specifier)) node

end Syntax

/-- A statement that a scan looks for. -/
def Scan.Encodes (scan : Scan) (name specifier : String) (node : Json) : Prop :=
  match scan with
  | .dynamicImport => EncodesDynamicImport name specifier node
  | .staticImport => EncodesStaticImport name specifier node

namespace Syntax

variable {node : Json} {name specifier : String}

/-! ## Lists -/

theorem exists_leading_iff {β : Type} {read? : Json → Option β} {view : β} :
    (∃ others items, node = .array items ∧ items.mapM read? = some (view :: others)) ↔
      Leading (fun item => read? item = some view) (fun item => ∃ other, read? item = some other)
        node := by
  unfold Leading
  simp only [mapM_eq_cons_iff, ← exists_mapM_iff]
  constructor
  · rintro ⟨views, _, rfl, first, others, rfl, hfirst, hothers⟩
    exact ⟨first, others, rfl, hfirst, views, hothers⟩
  · rintro ⟨first, others, rfl, hfirst, views, hothers⟩
    exact ⟨views, _, rfl, first, others, rfl, hfirst, hothers⟩

theorem only_iff {β : Type} {read? : Json → Option β} {view : β} :
    (∃ items, node = .array items ∧ items.mapM read? = some [view]) ↔
      Only (fun item => read? item = some view) node := by
  unfold Only
  simp only [mapM_eq_cons_iff, mapM_eq_nil_iff]
  constructor
  · rintro ⟨_, rfl, item, _, rfl, hitem, rfl⟩
    exact ⟨item, rfl, hitem⟩
  · rintro ⟨item, rfl, hitem⟩
    exact ⟨_, rfl, item, [], rfl, hitem, rfl⟩

/-! ## Patterns -/

theorem Pattern.readEntries?_eq_mapM (entries : List Json) :
    Pattern.readEntries? entries = entries.mapM Pattern.readEntry? := by
  induction entries with
  | nil => rfl
  | cons entry entries ih =>
    rw [Pattern.readEntries?, ih, List.mapM_cons]
    cases Pattern.readEntry? entry with
    | none => rfl
    | some first => cases entries.mapM Pattern.readEntry? <;> rfl

theorem Pattern.readItems?_eq_single_iff {entry : Option Pattern} :
    Pattern.readItems? node = some [entry] ↔
      Only (fun item => Pattern.readEntry? item = some entry) node := by
  rw [← only_iff]
  cases node with
  | array entries => simp [Pattern.readItems?, Pattern.readEntries?_eq_mapM]
  | null | bool _ | number _ | string _ | object _ => simp [Pattern.readItems?]

theorem read?_eq_pattern_iff :
    Pattern.read? false node = some (.object [some (.identifier name)]) ↔
      EncodesBindingPattern name node := by
  simp only [Pattern.read?_eq_object_iff, Pattern.readItems?_eq_single_iff,
    Pattern.readEntry?_eq_some_iff, Pattern.read?_eq_identifier_iff]
  rfl

/-! ## Expressions -/

theorem read?_eq_specifier_iff :
    Expression.read? true node = some (.literal (.string specifier)) ↔
      EncodesLiteral specifier node := by
  have hvalue (given : Marked) : (given.field? "value").getD .null = .string specifier ↔
      given.Holds "value" (Text specifier) := by
    unfold Marked.Holds Text
    cases given.field? "value" <;> simp
  simp only [Expression.read?_eq_literal_iff, hvalue]
  rfl

theorem read?_eq_call_cons_iff {nested : Bool} {first : Expression} {others : List Expression} :
    Expression.read? nested node = some (.call (first :: others)) ↔
      Variant nested expressionTags "CallExpression" (Marked.Holds "arguments" fun child =>
        Expression.readItems? child = some (first :: others)) node := by
  have harguments (given : Marked) :
      (given.field? "arguments").elim (some []) Expression.readItems? = some (first :: others) ↔
        given.Holds "arguments" fun child =>
          Expression.readItems? child = some (first :: others) := by
    unfold Marked.Holds
    cases given.field? "arguments" <;> simp
  simp only [Expression.read?_eq_call_iff, harguments]

theorem exists_call_iff :
    (∃ others, Expression.read? true node = some (.call (.literal (.string specifier) :: others))) ↔
      EncodesSpecifierCall specifier node := by
  simp only [read?_eq_call_cons_iff, exists_variant_iff, Expression.readItems?_eq_some_iff,
    exists_leading_iff, read?_eq_specifier_iff, exists_read?_iff_isReadable]
  rfl

theorem exists_await_iff :
    (∃ others, Expression.read? false node =
        some (.await (.importOf (.call (.literal (.string specifier) :: others))))) ↔
      EncodesAwaitedImport specifier node := by
  simp only [Expression.read?_eq_await_iff, exists_variant_iff, Expression.read?_eq_importOf_iff,
    exists_call_iff]
  rfl

/-! ## Statements -/

theorem declarator?_eq_some_iff {id : Pattern} {init : Expression} :
    declarator? node = some ⟨id, some init⟩ ↔
      Fields "id" "init" (fun child => Pattern.read? false child = some id)
        (fun child => Expression.read? false child = some init) node := by
  rw [← exists_fields?_pair_iff]
  unfold declarator?
  split
  · next pattern value hfields =>
    cases hpattern : Pattern.read? false pattern with
    | none => simp [hfields, hpattern]
    | some view =>
      rcases value with _ | value
      · simp [hfields]
      · cases value with
        | null =>
          have hnull : Expression.read? false .null = none := rfl
          simp [hfields, hnull]
        | bool _ | number _ | string _ | array _ | object _ =>
          simp [hfields, hpattern, and_comm]
  · next hother =>
    refine iff_of_false (by simp) ?_
    rintro ⟨a, b, hfields, -⟩
    exact hother _ _ hfields

theorem dynamicBinding?_eq_some_iff {declarators : List Declarator} {value : Json} :
    dynamicBinding? declarators = some ⟨name, value⟩ ↔
      ∃ others, declarators = [⟨.object [some (.identifier name)],
        some (.await (.importOf (.call (.literal value :: others))))⟩] := by
  fun_cases dynamicBinding? declarators with
  | case1 other specifier others =>
    simp
  | case2 _ hother =>
    refine iff_of_false (by simp) ?_
    rintro ⟨others, rfl⟩
    exact hother name value others rfl

theorem exists_declarator?_iff :
    (∃ others, declarator? node = some ⟨.object [some (.identifier name)],
        some (.await (.importOf (.call (.literal (.string specifier) :: others))))⟩) ↔
      Fields "id" "init" (EncodesBindingPattern name) (EncodesAwaitedImport specifier) node := by
  simp only [declarator?_eq_some_iff, read?_eq_pattern_iff]
  unfold Fields Has
  simp only [← exists_await_iff]
  constructor
  · rintro ⟨others, ⟨hid, init, hinit, hread⟩ | ⟨a, b, rfl, hid, hread⟩⟩
    · exact .inl ⟨hid, init, hinit, others, hread⟩
    · exact .inr ⟨a, b, rfl, hid, others, hread⟩
  · rintro (⟨hid, init, hinit, others, hread⟩ | ⟨a, b, rfl, hid, others, hread⟩)
    · exact ⟨others, .inl ⟨hid, init, hinit, hread⟩⟩
    · exact ⟨others, .inr ⟨a, b, rfl, hid, hread⟩⟩

theorem importDeclaration?_eq_some_iff {members : Members} {statement : Statement} :
    importDeclaration? members = some statement ↔
      ∃ locals source value, localNames? members = some locals ∧
        Members.get? "source" members = some source ∧ literalValue? source = some value ∧
        statement = .importDeclaration locals value := by
  unfold importDeclaration?
  simp only [Option.bind_eq_bind, Option.bind_eq_some_iff, Option.pure_def, Option.some.injEq,
    exists_and_left, @eq_comm _ _ statement]

theorem variableDeclaration?_eq_some_iff {members : Members} {statement : Statement} :
    variableDeclaration? members = some statement ↔
      ∃ items declarators, Members.get? "declarations" members = some (.array items) ∧
        items.mapM declarator? = some declarators ∧
        statement = .variableDeclaration declarators := by
  unfold variableDeclaration?
  split
  · next items hitems => simp [hitems, eq_comm]
  · next hother =>
    refine iff_of_false (by simp) ?_
    rintro ⟨items, declarators, hitems, -⟩
    exact hother items hitems

/-- Only by its own tag is a statement read as a declaration. -/
theorem classify_eq_variableDeclaration_iff {declarators : List Declarator} :
    Statement.classify node = .variableDeclaration declarators ↔
      ∃ members, node = .object members ∧
        Members.get? "type" members = some (.string "VariableDeclaration") ∧
        variableDeclaration? members = some (.variableDeclaration declarators) := by
  unfold Statement.classify
  split
  · next members =>
    split
    · next htag =>
      cases hview : importDeclaration? members with
      | none => simp [htag]
      | some statement =>
        obtain ⟨_, _, _, -, -, -, rfl⟩ := importDeclaration?_eq_some_iff.1 hview
        simp [htag]
    · next htag =>
      cases hview : variableDeclaration? members <;> simp [htag, hview]
    · next hvariable =>
      refine iff_of_false (by simp) ?_
      rintro ⟨_, ⟨⟩, htag, -⟩
      exact hvariable htag
  · next hother =>
    refine iff_of_false (by simp) ?_
    rintro ⟨members, rfl, -⟩
    exact hother members rfl

theorem classify_eq_importDeclaration_iff {locals : List String} {value : Json} :
    Statement.classify node = .importDeclaration locals value ↔
      ∃ members, node = .object members ∧
        Members.get? "type" members = some (.string "ImportDeclaration") ∧
        importDeclaration? members = some (.importDeclaration locals value) := by
  unfold Statement.classify
  split
  · next members =>
    split
    · next htag => cases hview : importDeclaration? members <;> simp [htag, hview]
    · next htag =>
      cases hview : variableDeclaration? members with
      | none => simp [htag]
      | some statement =>
        obtain ⟨_, _, -, -, rfl⟩ := variableDeclaration?_eq_some_iff.1 hview
        simp [htag]
    · next himport _ =>
      refine iff_of_false (by simp) ?_
      rintro ⟨_, ⟨⟩, htag, -⟩
      exact himport htag
  · next hother =>
    refine iff_of_false (by simp) ?_
    rintro ⟨members, rfl, -⟩
    exact hother members rfl

theorem only_declarator_iff :
    Only (Fields "id" "init" (EncodesBindingPattern name) (EncodesAwaitedImport specifier)) node ↔
      ∃ others items, node = .array items ∧ items.mapM declarator? =
        some [⟨.object [some (.identifier name)],
          some (.await (.importOf (.call (.literal (.string specifier) :: others))))⟩] := by
  simp only [only_iff]
  unfold Only
  simp only [← exists_declarator?_iff]
  constructor
  · rintro ⟨item, hitem, others, hread⟩
    exact ⟨others, item, hitem, hread⟩
  · rintro ⟨others, item, hitem, hread⟩
    exact ⟨item, hitem, others, hread⟩

theorem leading_local_iff :
    Leading (EncodesLocal name) (fun other => ∃ name, EncodesLocal name other) node ↔
      ∃ others items, node = .array items ∧
        items.mapM localName? = some (name :: others) := by
  simp only [exists_leading_iff, localName?_eq_some_iff]
  rfl

theorem exists_classify_dynamic_iff :
    (∃ others, Statement.classify node = .variableDeclaration
        [⟨.object [some (.identifier name)],
          some (.await (.importOf (.call (.literal (.string specifier) :: others))))⟩]) ↔
      EncodesDynamicImport name specifier node := by
  simp only [classify_eq_variableDeclaration_iff, variableDeclaration?_eq_some_iff]
  constructor
  · rintro ⟨others, members, rfl, htag, items, _, hitems, hread, ⟨⟩⟩
    exact ⟨⟨_, htag, rfl⟩, _, hitems, only_declarator_iff.2 ⟨others, items, rfl, hread⟩⟩
  · rintro ⟨htag, child, hchild, honly⟩
    obtain ⟨members, rfl⟩ := htag.exists_object
    obtain ⟨others, items, rfl, hread⟩ := only_declarator_iff.1 honly
    exact ⟨others, members, rfl, htag.member?, items, _, hchild, hread, rfl⟩

theorem exists_classify_static_iff :
    (∃ others, Statement.classify node =
        .importDeclaration (name :: others) (.string specifier)) ↔
      EncodesStaticImport name specifier node := by
  have hlocals {members : Members} {locals : List String} :
      localNames? members = some (name :: locals) ↔ ∃ items,
        Members.get? "specifiers" members = some (.array items) ∧
          items.mapM localName? = some (name :: locals) := by
    unfold localNames?
    split
    · next hspecifiers => simp [hspecifiers]
    · next items hspecifiers => simp [hspecifiers]
    · next value hother hspecifiers =>
      refine iff_of_false (by simp) ?_
      rintro ⟨items, hitems, -⟩
      rw [hspecifiers] at hitems
      exact hother items (Option.some.inj hitems)
  simp only [classify_eq_importDeclaration_iff, importDeclaration?_eq_some_iff]
  constructor
  · rintro ⟨others, members, rfl, htag, _, source, _, hnames, hsource, hvalue, ⟨⟩⟩
    obtain ⟨items, hitems, hread⟩ := hlocals.1 hnames
    exact ⟨⟨_, htag, rfl⟩, ⟨_, hitems, leading_local_iff.2 ⟨others, items, rfl, hread⟩⟩,
      source, hsource, literalValue?_eq_string_iff.1 hvalue⟩
  · rintro ⟨htag, ⟨child, hchild, hleading⟩, source, hsource, hvalue⟩
    obtain ⟨members, rfl⟩ := htag.exists_object
    obtain ⟨others, items, rfl, hread⟩ := leading_local_iff.1 hleading
    exact ⟨others, members, rfl, htag.member?, _, source, _, hlocals.2 ⟨items, hchild, hread⟩,
      hsource, literalValue?_eq_string_iff.2 hvalue, rfl⟩

end Syntax

/-! ## Top theorems -/

theorem Scan.binding?_eq_some_iff {scan : Scan} {name specifier : String} {node : Json} :
    scan.binding? node = some ⟨name, .string specifier⟩ ↔
      name ≠ "" ∧ scan.Encodes name specifier node := by
  unfold Scan.binding? Scan.Encodes
  rw [Option.filter_eq_some_iff]
  cases scan with
  | dynamicImport =>
    rw [← exists_classify_dynamic_iff]
    cases hview : Statement.classify node <;> simp [dynamicBinding?_eq_some_iff, and_comm]
  | staticImport =>
    rw [← exists_classify_static_iff]
    cases hview : Statement.classify node with
    | importDeclaration locals source => cases locals <;> simp [staticBinding?, and_comm]
    | variableDeclaration _ | other => simp

theorem Scan.import?_eq_some_iff {scan : Scan} {name specifier : String} {node : Json} :
    scan.import? node = some (name, specifier) ↔
      name ≠ "" ∧ qualify (.string specifier) = .ok specifier ∧
        scan.Encodes name specifier node := by
  rw [import?_eq_bind, Option.bind_eq_some_iff]
  constructor
  · rintro ⟨⟨other, value⟩, hbinding, hfound⟩
    cases hqualify : qualify value with
    | error reason => simp [hqualify, Except.toOption] at hfound
    | ok text =>
      obtain ⟨rfl, rfl⟩ : other = name ∧ text = specifier := by
        simpa [hqualify, Except.toOption] using hfound
      obtain rfl := eq_string_of_qualify hqualify
      obtain ⟨hname, hencodes⟩ := binding?_eq_some_iff.1 hbinding
      exact ⟨hname, hqualify, hencodes⟩
  · rintro ⟨hname, hqualify, hencodes⟩
    refine ⟨_, binding?_eq_some_iff.2 ⟨hname, hencodes⟩, ?_⟩
    simp [hqualify, Except.toOption]

theorem Config.isSome_replaceStatement_iff (config : Config) (scan : Scan) (report : Report)
    (node : Json) :
    (config.replaceStatement scan report node).1.isSome = true ↔
      ∃ name specifier, name ≠ "" ∧ qualify (.string specifier) = .ok specifier ∧
        scan.Encodes name specifier node := by
  simp only [replaceStatement_fst, replacementFor_eq_map, Option.isSome_map,
    Option.isSome_iff_exists, Prod.exists, Scan.import?_eq_some_iff]

/-- `import photo from "./photo.png"` with a list where its source should be a node. -/
def listedSource : Json :=
  .object [("source", .array [.string "./photo.png"]),
    ("specifiers", .array [.object [("local",
      .object [("name", .string "photo"), ("type", .string "Identifier")])]]),
    ("type", .string "ImportDeclaration")]

theorem isSome_replaceStatement_listedSource :
    (¬ Has "source" (fun source => ∃ members, source = .object members) listedSource) ∧
    (Config.replaceStatement ⟨none, none⟩ .staticImport .empty listedSource).1.isSome = true := by
  refine ⟨?_, by decide +kernel⟩
  rintro ⟨source, hsource, members, rfl⟩
  simp [listedSource, member?, Members.get?] at hsource

end ServedMedia
