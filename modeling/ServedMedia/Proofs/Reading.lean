import ServedMedia.ListReader
import ServedMedia.Proofs.Shape
import ServedMedia.Replacement

/-!
# Reading the shapes of imports

Every statement of the shape of an import is read as one, whatever else stands in it:

    IsStaticImport name specifier node →
      Scan.staticImport.binding? node = some ⟨name, .string specifier⟩
                                                            (binding?_of_isStaticImport)
    IsDynamicImport name specifier node →
      Scan.dynamicImport.binding? node = some ⟨name, .string specifier⟩
                                                            (binding?_of_isDynamicImport)

A constant is nothing to either scan                        (binding?_of_isConstant).

A part that cannot be read makes the whole statement unreadable, so a call is read
only with all its arguments:

    IsExpression node → ∃ expression, Expression.read? true node = some expression
                                                            (IsExpression.exists_read?)
-/

namespace ServedMedia.Syntax

open Json

/-! ## Records -/

theorem Has.exists_object {key : String} {Shape : Json → Prop} {node : Json}
    (h : Has key Shape node) :
    ∃ members, node = .object members := by
  obtain ⟨child, hchild, -⟩ := h
  cases node with
  | object members => exact ⟨members, rfl⟩
  | null | bool _ | number _ | string _ | array _ => simp [member?] at hchild

theorem Tagged.member? {tag : String} {node : Json} (h : Tagged tag node) :
    node.member? "type" = some (.string tag) := by
  obtain ⟨_, htag, rfl⟩ := h
  exact htag

theorem Has.text {key text : String} {node : Json} (h : Has key (Text text) node) :
    node.member? key = some (.string text) := by
  obtain ⟨_, htext, rfl⟩ := h
  exact htext

theorem identifierName?_of_shape {name : String} {node : Json} (h : IsIdentifier name node) :
    identifierName? node = some name := by
  obtain ⟨members, rfl⟩ := h.2.exists_object
  have hname : Members.get? "name" members = some (.string name) := h.2.text
  simp [identifierName?, fields?, hname]

theorem literalValue?_of_shape {text : String} {node : Json} (h : IsLiteral text node) :
    literalValue? node = some (.string text) := by
  obtain ⟨members, rfl⟩ := h.2.exists_object
  have hvalue : Members.get? "value" members = some (.string text) := h.2.text
  simp [literalValue?, fields?, hvalue]

theorem localName?_of_shape {name : String} {node : Json} (h : IsSpecifier name node) :
    localName? node = some name := by
  obtain ⟨members, rfl⟩ := h.exists_object
  obtain ⟨identifier, hlocal, hidentifier⟩ := h
  have hlocal : Members.get? "local" members = some identifier := hlocal
  simp [localName?, fields?, hlocal, identifierName?_of_shape hidentifier]

/-! ## Patterns -/

theorem Pattern.readOf?_eq_bind (key : String) (members : Members) :
    Pattern.readOf? key members = (Members.get? key members).bind (Pattern.read? true) := by
  induction members with
  | nil => rfl
  | cons member members ih =>
    obtain ⟨k, value⟩ := member
    rw [Pattern.readOf?, Members.get?]
    by_cases hk : k = key
    · simp [hk]
    · simp [hk, ih]

theorem Pattern.readEntriesOf?_of_get? {key : String} {members : Members} {entries : List Json}
    (h : Members.get? key members = some (.array entries)) :
    Pattern.readEntriesOf? key members = Pattern.readEntries? entries := by
  induction members with
  | nil => simp [Members.get?] at h
  | cons member members ih =>
    obtain ⟨k, value⟩ := member
    rw [Members.get?] at h
    by_cases hk : k = key
    · obtain rfl : value = .array entries := by simpa [hk] using h
      simp [Pattern.readEntriesOf?, hk]
    · have hrest := ih (by simpa [hk] using h)
      cases value <;> simp [Pattern.readEntriesOf?, hk, hrest]

/-- A pattern node is read by its tag. -/
theorem Pattern.read?_of_tag {members : Members} {tag : String} (nested : Bool)
    (htag : Members.get? "type" members = some (.string tag)) :
    Pattern.read? nested (.object members) =
      match patternTags.findIdx? (· == tag) with
      | some 0 => (identifierName? (.object members)).map .identifier
      | some _ => (Pattern.readEntriesOf? "properties" members).map .object
      | none => some .other := by
  have hshape : shape? nested patternTags (.string tag) =
      some (patternTags.findIdx? (· == tag)) := rfl
  rw [Pattern.read?, htag, Option.bind_eq_bind, Option.bind_some, hshape]
  rcases patternTags.findIdx? (· == tag) with _ | _ | index <;> rfl

theorem Pattern.read?_of_isIdentifier {name : String} {node : Json} (nested : Bool)
    (h : IsIdentifier name node) : Pattern.read? nested node = some (.identifier name) := by
  obtain ⟨members, rfl⟩ := h.1.exists_object
  have htag : Members.get? "type" members = some (.string "Identifier") := h.1.text
  rw [Pattern.read?_of_tag nested htag]
  show (identifierName? (.object members)).map Pattern.identifier = _
  rw [identifierName?_of_shape h, Option.map_some]

theorem Pattern.readEntry?_of_property {name : String} {node : Json} (htag : Tagged "Property" node)
    (hvalue : Has "value" (IsIdentifier name) node) :
    Pattern.readEntry? node = some (some (.identifier name)) := by
  obtain ⟨members, rfl⟩ := htag.exists_object
  obtain ⟨identifier, hget, hidentifier⟩ := hvalue
  have htag : Members.get? "type" members = some (.string "Property") := htag.text
  have hget : Members.get? "value" members = some identifier := hget
  have hshape : shape? true propertyTags (.string "Property") = some (some 0) := rfl
  simp [Pattern.readEntry?, htag, hshape, Pattern.readOf?_eq_bind, hget,
    Pattern.read?_of_isIdentifier true hidentifier]

theorem Pattern.read?_of_isBindingPattern {name : String} {node : Json} (nested : Bool)
    (h : IsBindingPattern name node) :
    Pattern.read? nested node = some (.object [some (.identifier name)]) := by
  obtain ⟨htag, hentries⟩ := h
  obtain ⟨members, rfl⟩ := htag.exists_object
  obtain ⟨_, hget, entry, rfl, hproperty, hvalue⟩ := hentries
  have htag : Members.get? "type" members = some (.string "ObjectPattern") := htag.text
  have hget : Members.get? "properties" members = some (.array [entry]) := hget
  have hentry : Pattern.readEntries? [entry] = some [some (.identifier name)] := by
    simp [Pattern.readEntries?, Pattern.readEntry?_of_property hproperty hvalue]
  rw [Pattern.read?_of_tag nested htag]
  show (Pattern.readEntriesOf? "properties" members).map Pattern.object = _
  rw [Pattern.readEntriesOf?_of_get? hget, hentry, Option.map_some]

/-! ## Expressions -/

theorem Expression.readOf?_eq_bind (key : String) (members : Members) :
    Expression.readOf? key members = (Members.get? key members).bind (Expression.read? true) := by
  induction members with
  | nil => rfl
  | cons member members ih =>
    obtain ⟨k, value⟩ := member
    rw [Expression.readOf?, Members.get?]
    by_cases hk : k = key
    · simp [hk]
    · simp [hk, ih]

theorem Expression.readAllOf?_of_get? {key : String} {members : Members} {items : List Json}
    (h : Members.get? key members = some (.array items)) :
    Expression.readAllOf? key members = Expression.readAll? items := by
  induction members with
  | nil => simp [Members.get?] at h
  | cons member members ih =>
    obtain ⟨k, value⟩ := member
    rw [Members.get?] at h
    by_cases hk : k = key
    · obtain rfl : value = .array items := by simpa [hk] using h
      simp [Expression.readAllOf?, hk]
    · have hrest := ih (by simpa [hk] using h)
      cases value <;> simp [Expression.readAllOf?, hk, hrest]

theorem Expression.readAllOf?_of_get?_none {key : String} {members : Members}
    (h : Members.get? key members = none) : Expression.readAllOf? key members = some [] := by
  induction members with
  | nil => rfl
  | cons member members ih =>
    obtain ⟨k, value⟩ := member
    rw [Members.get?] at h
    by_cases hk : k = key
    · simp [hk] at h
    · have hrest := ih (by simpa [hk] using h)
      cases value <;> simp [Expression.readAllOf?, hk, hrest]

theorem Expression.readAll?_eq_mapM (items : List Json) :
    Expression.readAll? items = items.mapM (Expression.read? true) := by
  induction items with
  | nil => rfl
  | cons item items ih =>
    rw [Expression.readAll?, ih, List.mapM_cons]
    cases Expression.read? true item with
    | none => rfl
    | some first => cases items.mapM (Expression.read? true) <;> rfl

/-- An expression node is read by its tag. -/
theorem Expression.read?_of_tag {members : Members} {tag : String} (nested : Bool)
    (htag : Members.get? "type" members = some (.string tag)) :
    Expression.read? nested (.object members) =
      match expressionTags.findIdx? (· == tag) with
      | some 0 => (Expression.readOf? "argument" members).map .await
      | some 1 => (Expression.readOf? "source" members).map .importOf
      | some 2 => (Expression.readAllOf? "arguments" members).map .call
      | some _ => (literalValue? (.object members)).map .literal
      | none => some .other := by
  have hshape : shape? nested expressionTags (.string tag) =
      some (expressionTags.findIdx? (· == tag)) := rfl
  rw [Expression.read?, htag, Option.bind_eq_bind, Option.bind_some, hshape]
  rcases expressionTags.findIdx? (· == tag) with _ | _ | _ | _ | index <;> rfl

theorem Expression.read?_of_isLiteral {text : String} {node : Json} (nested : Bool)
    (h : IsLiteral text node) : Expression.read? nested node = some (.literal (.string text)) := by
  obtain ⟨members, rfl⟩ := h.1.exists_object
  have htag : Members.get? "type" members = some (.string "Literal") := h.1.text
  rw [Expression.read?_of_tag nested htag]
  show (literalValue? (.object members)).map Expression.literal = _
  rw [literalValue?_of_shape h, Option.map_some]

theorem Expression.read?_of_await {node argument : Json} {expression : Expression} (nested : Bool)
    (htag : Tagged "AwaitExpression" node) (hget : node.member? "argument" = some argument)
    (hread : Expression.read? true argument = some expression) :
    Expression.read? nested node = some (.await expression) := by
  obtain ⟨members, rfl⟩ := htag.exists_object
  have htag : Members.get? "type" members = some (.string "AwaitExpression") := htag.text
  have hget : Members.get? "argument" members = some argument := hget
  rw [Expression.read?_of_tag nested htag]
  show (Expression.readOf? "argument" members).map Expression.await = _
  rw [Expression.readOf?_eq_bind, hget, Option.bind_some, hread, Option.map_some]

theorem Expression.read?_of_importOf {node source : Json} {expression : Expression} (nested : Bool)
    (htag : Tagged "ImportExpression" node) (hget : node.member? "source" = some source)
    (hread : Expression.read? true source = some expression) :
    Expression.read? nested node = some (.importOf expression) := by
  obtain ⟨members, rfl⟩ := htag.exists_object
  have htag : Members.get? "type" members = some (.string "ImportExpression") := htag.text
  have hget : Members.get? "source" members = some source := hget
  rw [Expression.read?_of_tag nested htag]
  show (Expression.readOf? "source" members).map Expression.importOf = _
  rw [Expression.readOf?_eq_bind, hget, Option.bind_some, hread, Option.map_some]

theorem Expression.read?_of_call {node : Json} {items : List Json} {expressions : List Expression}
    (nested : Bool) (htag : Tagged "CallExpression" node)
    (hget : node.member? "arguments" = some (.array items))
    (hread : Expression.readAll? items = some expressions) :
    Expression.read? nested node = some (.call expressions) := by
  obtain ⟨members, rfl⟩ := htag.exists_object
  have htag : Members.get? "type" members = some (.string "CallExpression") := htag.text
  have hget : Members.get? "arguments" members = some (.array items) := hget
  rw [Expression.read?_of_tag nested htag]
  show (Expression.readAllOf? "arguments" members).map Expression.call = _
  rw [Expression.readAllOf?_of_get? hget, hread, Option.map_some]

theorem Expression.read?_of_emptyCall {node : Json} (nested : Bool)
    (htag : Tagged "CallExpression" node) (hget : node.member? "arguments" = none) :
    Expression.read? nested node = some (.call []) := by
  obtain ⟨members, rfl⟩ := htag.exists_object
  have htag : Members.get? "type" members = some (.string "CallExpression") := htag.text
  have hget : Members.get? "arguments" members = none := hget
  rw [Expression.read?_of_tag nested htag]
  show (Expression.readAllOf? "arguments" members).map Expression.call = _
  rw [Expression.readAllOf?_of_get?_none hget, Option.map_some]

/-- The kinds with no part that matters. -/
theorem Expression.exists_read?_of_other {node : Json} {tag : String} (nested : Bool)
    (htag : Tagged tag node)
    (hother : tag ∉ ["AwaitExpression", "ImportExpression", "CallExpression"]) :
    ∃ expression, Expression.read? nested node = some expression := by
  obtain ⟨members, rfl⟩ := htag.exists_object
  have htag : Members.get? "type" members = some (.string tag) := htag.text
  rw [Expression.read?_of_tag nested htag]
  by_cases hliteral : tag = "Literal"
  · subst hliteral
    exact ⟨.literal ((Members.get? "value" members).getD .null), rfl⟩
  · have hnone : expressionTags.findIdx? (· == tag) = none := by
      rw [List.findIdx?_eq_none_iff]
      intro known hknown
      have hne : known ≠ tag := by
        rintro rfl
        simp_all [expressionTags]
      exact beq_false_of_ne hne
    rw [hnone]
    exact ⟨.other, rfl⟩

theorem IsExpression.exists_read? {node : Json} (h : IsExpression node) :
    ∃ expression, Expression.read? true node = some expression := by
  induction h with
  | await htag hget _ ih =>
    obtain ⟨argument, hargument⟩ := ih
    exact ⟨_, Expression.read?_of_await true htag hget hargument⟩
  | importOf htag hget _ ih =>
    obtain ⟨source, hsource⟩ := ih
    exact ⟨_, Expression.read?_of_importOf true htag hget hsource⟩
  | call htag hget _ ih =>
    obtain ⟨arguments, harguments⟩ := exists_mapM_iff.2 ih
    rw [← Expression.readAll?_eq_mapM] at harguments
    exact ⟨_, Expression.read?_of_call true htag hget harguments⟩
  | emptyCall htag hget => exact ⟨_, Expression.read?_of_emptyCall true htag hget⟩
  | other htag hother => exact Expression.exists_read?_of_other true htag hother

theorem IsSpecifierCall.exists_read? {specifier : String} {node : Json} (nested : Bool)
    (h : IsSpecifierCall specifier node) : ∃ others,
      Expression.read? nested node = some (.call (.literal (.string specifier) :: others)) := by
  obtain ⟨htag, _, hget, first, others, rfl, hfirst, hothers⟩ := h
  obtain ⟨expressions, hexpressions⟩ :=
    exists_mapM_iff.2 fun other hother => (hothers other hother).exists_read?
  refine ⟨expressions, Expression.read?_of_call nested htag hget ?_⟩
  simp [Expression.readAll?_eq_mapM, List.mapM_cons, Expression.read?_of_isLiteral true hfirst,
    hexpressions]

theorem IsAwaitedImport.exists_read? {specifier : String} {node : Json} (nested : Bool)
    (h : IsAwaitedImport specifier node) : ∃ others, Expression.read? nested node =
      some (.await (.importOf (.call (.literal (.string specifier) :: others)))) := by
  obtain ⟨htag, argument, hargument, himport, source, hsource, hcall⟩ := h
  obtain ⟨others, hread⟩ := hcall.exists_read? true
  exact ⟨others, Expression.read?_of_await nested htag hargument
    (Expression.read?_of_importOf true himport hsource hread)⟩

/-! ## Statements -/

theorem declarator?_of_shape {name specifier : String} {node : Json}
    (hid : Has "id" (IsBindingPattern name) node)
    (hinit : Has "init" (IsAwaitedImport specifier) node) :
    ∃ others, declarator? node = some ⟨.object [some (.identifier name)],
      some (.await (.importOf (.call (.literal (.string specifier) :: others))))⟩ := by
  obtain ⟨members, rfl⟩ := hid.exists_object
  obtain ⟨pattern, hpattern, hbinding⟩ := hid
  obtain ⟨value, hvalue, himport⟩ := hinit
  have hpattern : Members.get? "id" members = some pattern := hpattern
  have hvalue : Members.get? "init" members = some value := hvalue
  obtain ⟨others, hread⟩ := himport.exists_read? false
  obtain ⟨inner, rfl⟩ := himport.1.exists_object
  refine ⟨others, ?_⟩
  simp [declarator?, fields?, hpattern, hvalue,
    Pattern.read?_of_isBindingPattern false hbinding, hread]

theorem localNames?_of_shape {name : String} {members : Members}
    (h : Has "specifiers" (Leading (IsSpecifier name) fun other => ∃ name, IsSpecifier name other)
      (.object members)) : ∃ others, localNames? members = some (name :: others) := by
  obtain ⟨_, hget, first, others, rfl, hfirst, hothers⟩ := h
  have hget : Members.get? "specifiers" members = some (.array (first :: others)) := hget
  have hread : ∀ other ∈ others, ∃ name, localName? other = some name := by
    intro other hother
    obtain ⟨name, hspecifier⟩ := hothers other hother
    exact ⟨name, localName?_of_shape hspecifier⟩
  obtain ⟨names, hnames⟩ := exists_mapM_iff.2 hread
  exact ⟨names, by simp [localNames?, hget, List.mapM_cons, localName?_of_shape hfirst, hnames]⟩

theorem classify_of_isStaticImport {name specifier : String} {node : Json}
    (h : IsStaticImport name specifier node) :
    ∃ others, Statement.classify node =
      .importDeclaration (name :: others) (.string specifier) := by
  obtain ⟨htag, hspecifiers, hsource⟩ := h
  obtain ⟨members, rfl⟩ := htag.exists_object
  obtain ⟨others, hlocals⟩ := localNames?_of_shape hspecifiers
  obtain ⟨literal, hget, hliteral⟩ := hsource
  have htag : Members.get? "type" members = some (.string "ImportDeclaration") := htag.text
  have hget : Members.get? "source" members = some literal := hget
  refine ⟨others, ?_⟩
  simp [Statement.classify, htag, importDeclaration?, hlocals, hget,
    literalValue?_of_shape hliteral]

theorem classify_of_isDynamicImport {name specifier : String} {node : Json}
    (h : IsDynamicImport name specifier node) :
    ∃ others, Statement.classify node = .variableDeclaration [⟨.object [some (.identifier name)],
      some (.await (.importOf (.call (.literal (.string specifier) :: others))))⟩] := by
  obtain ⟨htag, hdeclarators⟩ := h
  obtain ⟨members, rfl⟩ := htag.exists_object
  obtain ⟨_, hget, declarator, rfl, hid, hinit⟩ := hdeclarators
  have htag : Members.get? "type" members = some (.string "VariableDeclaration") := htag.text
  have hget : Members.get? "declarations" members = some (.array [declarator]) := hget
  obtain ⟨others, hread⟩ := declarator?_of_shape hid hinit
  refine ⟨others, ?_⟩
  simp [Statement.classify, htag, variableDeclaration?, hget, hread]

theorem classify_of_isConstant {name value : String} {node : Json}
    (h : IsConstant name value node) :
    Statement.classify node =
      .variableDeclaration [⟨.identifier name, some (.literal (.string value))⟩] := by
  obtain ⟨htag, -, _, hget, declarator, rfl, -, ⟨id, hid, hname⟩, ⟨init, hinit, hvalue⟩⟩ := h
  obtain ⟨members, rfl⟩ := htag.exists_object
  obtain ⟨fields, rfl⟩ : ∃ fields, declarator = .object fields :=
    Has.exists_object ⟨id, hid, hname⟩
  obtain ⟨literal, rfl⟩ := hvalue.1.exists_object
  have htag : Members.get? "type" members = some (.string "VariableDeclaration") := htag.text
  have hget : Members.get? "declarations" members = some (.array [.object fields]) := hget
  have hid : Members.get? "id" fields = some id := hid
  have hinit : Members.get? "init" fields = some (.object literal) := hinit
  have hread : declarator? (.object fields) =
      some ⟨.identifier name, some (.literal (.string value))⟩ := by
    simp [declarator?, fields?, hid, hinit, Pattern.read?_of_isIdentifier false hname,
      Expression.read?_of_isLiteral false hvalue]
  simp [Statement.classify, htag, variableDeclaration?, hget, hread]

/-! ## Top theorems -/

theorem binding?_of_isStaticImport {name specifier : String} {node : Json} (hname : name ≠ "")
    (h : IsStaticImport name specifier node) :
    Scan.staticImport.binding? node = some ⟨name, .string specifier⟩ := by
  obtain ⟨others, hclassify⟩ := classify_of_isStaticImport h
  simp [Scan.binding?, hclassify, staticBinding?, hname]

theorem binding?_of_isDynamicImport {name specifier : String} {node : Json} (hname : name ≠ "")
    (h : IsDynamicImport name specifier node) :
    Scan.dynamicImport.binding? node = some ⟨name, .string specifier⟩ := by
  obtain ⟨others, hclassify⟩ := classify_of_isDynamicImport h
  simp [Scan.binding?, hclassify, dynamicBinding?, hname]

/-- A static import is nothing to the scan for dynamic ones. -/
theorem dynamic_binding?_of_isStaticImport {name specifier : String} {node : Json}
    (h : IsStaticImport name specifier node) : Scan.dynamicImport.binding? node = none := by
  obtain ⟨others, hclassify⟩ := classify_of_isStaticImport h
  simp [Scan.binding?, hclassify]

/-- A constant is nothing to either scan. -/
theorem binding?_of_isConstant {name value : String} {node : Json} (scan : Scan)
    (h : IsConstant name value node) : scan.binding? node = none := by
  unfold Scan.binding?
  rw [classify_of_isConstant h]
  cases scan <;> rfl

end ServedMedia.Syntax
