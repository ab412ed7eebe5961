import ServedMedia.Json.Basic

/-!
# Views of statements

The two statements that can import media are read into views of what matters;
every other statement, and one whose parts cannot be read, is `other`.

A record is read from an object by its keys or from an array by position.  A
node with several shapes tells them apart by its tag: the member "type" of an
object or the first item of an array, whose other items are then the fields.
Inside another such node the tag may also be the number of the shape.
-/

namespace ServedMedia.Syntax

/-- What a declarator binds.  An entry of an object pattern is `none` if it is no
plain property. -/
inductive Pattern where
  | identifier (name : String)
  | object (properties : List (Option Pattern))
  | other
  deriving Repr, Inhabited

/-- What a declarator is initialized with. -/
inductive Expression where
  | await (argument : Expression)
  | importOf (source : Expression)
  | call (arguments : List Expression)
  | literal (value : Json)
  | other
  deriving Repr, Inhabited

structure Declarator where
  id : Pattern
  init : Option Expression
  deriving Repr

inductive Statement where
  | importDeclaration (locals : List String) (source : Json)
  | variableDeclaration (declarators : List Declarator)
  | other
  deriving Repr

/-! ## Records -/

/-- The fields of a record: from an object each may be missing, from an array the last ones may. -/
def fields? (names : List String) : Json → Option (List (Option Json))
  | .object members => some (names.map fun name => Json.Members.get? name members)
  | .array items =>
    if items.length ≤ names.length then
      some (items.map some ++ List.replicate (names.length - items.length) none)
    else none
  | _ => none

/-- The name of an identifier record. -/
def identifierName? (node : Json) : Option String :=
  match fields? ["name"] node with
  | some [some (.string name)] => some name
  | _ => none

/-- The value of a literal record; without one it is null. -/
def literalValue? (node : Json) : Option Json :=
  match fields? ["value"] node with
  | some [value] => some (value.getD .null)
  | _ => none

/-- The shape among `names` that a tag stands for; `none` inside is any other shape. -/
def shape? (nested : Bool) (names : List String) : Json → Option (Option Nat)
  | .string tag => some (names.findIdx? (· == tag))
  | .number (.whole index) =>
    if nested ∧ 0 ≤ index then
      some (if index < names.length then some index.toNat else none)
    else none
  | _ => none

/-! ## Patterns -/

/-- The tags of patterns, in the order of their numbers. -/
def patternTags : List String := ["Identifier", "ObjectPattern"]

/-- The tags of entries of an object pattern. -/
def propertyTags : List String := ["Property"]

mutual

/-- A pattern node. -/
def Pattern.read? (nested : Bool) : Json → Option Pattern
  | .object members =>
    match Json.Members.get? "type" members >>= shape? nested patternTags with
    | none => none
    | some (some 0) => (identifierName? (.object members)).map .identifier
    | some (some _) => (Pattern.readEntriesOf? "properties" members).map .object
    | some none => some .other
  | .array (tag :: rest) =>
    match shape? nested patternTags tag with
    | none => none
    | some (some 0) => (identifierName? (.array rest)).map .identifier
    | some (some _) =>
      match rest with
      | [.array entries] => (Pattern.readEntries? entries).map .object
      | _ => none
    | some none => if rest.isEmpty then some .other else none
  | _ => none

/-- The entries under a key of an object. -/
def Pattern.readEntriesOf? (key : String) : List (String × Json) → Option (List (Option Pattern))
  | [] => none
  | (k, .array entries) :: rest =>
    if k = key then Pattern.readEntries? entries else Pattern.readEntriesOf? key rest
  | (k, _) :: rest => if k = key then none else Pattern.readEntriesOf? key rest

/-- The entries of an object pattern. -/
def Pattern.readEntries? : List Json → Option (List (Option Pattern))
  | [] => some []
  | entry :: rest =>
    match Pattern.readEntry? entry, Pattern.readEntries? rest with
    | some first, some others => some (first :: others)
    | _, _ => none

/-- An entry of an object pattern: the pattern of a property, or nothing of interest. -/
def Pattern.readEntry? : Json → Option (Option Pattern)
  | .object members =>
    match Json.Members.get? "type" members >>= shape? true propertyTags with
    | none => none
    | some (some _) => (Pattern.readOf? "value" members).map some
    | some none => some none
  | .array (tag :: rest) =>
    match shape? true propertyTags tag with
    | none => none
    | some (some _) =>
      match rest with
      | [value] => (Pattern.read? true value).map some
      | _ => none
    | some none => if rest.isEmpty then some none else none
  | _ => none

/-- The pattern under a key of an object. -/
def Pattern.readOf? (key : String) : List (String × Json) → Option Pattern
  | [] => none
  | (k, value) :: rest => if k = key then Pattern.read? true value else Pattern.readOf? key rest

end

/-! ## Expressions -/

/-- The tags of expressions, in the order of their numbers. -/
def expressionTags : List String :=
  ["AwaitExpression", "ImportExpression", "CallExpression", "Literal"]

mutual

/-- An expression node. -/
def Expression.read? (nested : Bool) : Json → Option Expression
  | .object members =>
    match Json.Members.get? "type" members >>= shape? nested expressionTags with
    | none => none
    | some (some 0) => (Expression.readOf? "argument" members).map .await
    | some (some 1) => (Expression.readOf? "source" members).map .importOf
    | some (some 2) => (Expression.readAllOf? "arguments" members).map .call
    | some (some _) => (literalValue? (.object members)).map .literal
    | some none => some .other
  | .array (tag :: rest) =>
    match shape? nested expressionTags tag with
    | none => none
    | some (some 0) =>
      match rest with
      | [argument] => (Expression.read? true argument).map .await
      | _ => none
    | some (some 1) =>
      match rest with
      | [source] => (Expression.read? true source).map .importOf
      | _ => none
    | some (some 2) =>
      match rest with
      | [] => some (.call [])
      | [.array items] => (Expression.readAll? items).map .call
      | _ => none
    | some (some _) => (literalValue? (.array rest)).map .literal
    | some none => if rest.isEmpty then some .other else none
  | _ => none

/-- The expression under a key of an object. -/
def Expression.readOf? (key : String) : List (String × Json) → Option Expression
  | [] => none
  | (k, value) :: rest =>
    if k = key then Expression.read? true value else Expression.readOf? key rest

/-- The expressions under a key of an object; without the key there are none. -/
def Expression.readAllOf? (key : String) : List (String × Json) → Option (List Expression)
  | [] => some []
  | (k, .array items) :: rest =>
    if k = key then Expression.readAll? items else Expression.readAllOf? key rest
  | (k, _) :: rest => if k = key then none else Expression.readAllOf? key rest

/-- All expressions of an array. -/
def Expression.readAll? : List Json → Option (List Expression)
  | [] => some []
  | item :: rest =>
    match Expression.read? true item, Expression.readAll? rest with
    | some first, some others => some (first :: others)
    | _, _ => none

end

/-! ## Statements -/

/-- The local name of an import specifier. -/
def localName? (node : Json) : Option String :=
  match fields? ["local"] node with
  | some [some name] => identifierName? name
  | _ => none

/-- The local names under "specifiers"; without the key there are none. -/
def localNames? (members : Json.Members) : Option (List String) :=
  match Json.Members.get? "specifiers" members with
  | none => some []
  | some (.array specifiers) => specifiers.mapM localName?
  | some _ => none

/-- A declarator; its initial value may be missing or null. -/
def declarator? (node : Json) : Option Declarator :=
  match fields? ["id", "init"] node with
  | some [some id, init] =>
    match Pattern.read? false id, init with
    | some id, none => some ⟨id, none⟩
    | some id, some .null => some ⟨id, none⟩
    | some id, some value => (Expression.read? false value).map fun init => ⟨id, some init⟩
    | none, _ => none
  | _ => none

def importDeclaration? (members : Json.Members) : Option Statement := do
  let locals ← localNames? members
  let source ← Json.Members.get? "source" members
  pure (.importDeclaration locals (← literalValue? source))

def variableDeclaration? (members : Json.Members) : Option Statement :=
  match Json.Members.get? "declarations" members with
  | some (.array declarators) => (declarators.mapM declarator?).map .variableDeclaration
  | _ => none

/-- The view of a statement node. -/
def Statement.classify : Json → Statement
  | .object members =>
    match Json.Members.get? "type" members with
    | some (.string "ImportDeclaration") => (importDeclaration? members).getD .other
    | some (.string "VariableDeclaration") => (variableDeclaration? members).getD .other
    | _ => .other
  | _ => .other

end ServedMedia.Syntax
