import ServedMedia.Proofs.Walk
import ServedMedia.Syntax.Constant

/-!
# The shapes of imports and constants

A shape says which members a node has and of which shape they are; keys come in any
order, and other members do not matter.

Statements stand below the key "body", which no shape looks at.  So the shape of a
node is still there when the statements inside it have been replaced:

    IsStaticImport name specifier node →
      IsStaticImport name specifier (substitute edit false node)      (stays_isStaticImport)
    IsConstant name value node →
      IsConstant name value (substitute edit false node)              (stays_isConstant)
-/

namespace ServedMedia.Syntax

open Json

/-! ## Shapes -/

/-- An object whose member of a key is of a shape. -/
def Has (key : String) (Shape : Json → Prop) (node : Json) : Prop :=
  ∃ child, node.member? key = some child ∧ Shape child

/-- An array of one item, which is of a shape. -/
def Only (Shape : Json → Prop) (node : Json) : Prop := ∃ item, node = .array [item] ∧ Shape item

/-- An array whose first item is of one shape and all others are of another. -/
def Leading (First Other : Json → Prop) (node : Json) : Prop :=
  ∃ first others, node = .array (first :: others) ∧ First first ∧ ∀ other ∈ others, Other other

/-- A text. -/
def Text (text : String) (node : Json) : Prop := node = .string text

/-- An object with a tag. -/
def Tagged (tag : String) : Json → Prop := Has "type" (Text tag)

def IsIdentifier (name : String) (node : Json) : Prop :=
  Tagged "Identifier" node ∧ Has "name" (Text name) node

def IsLiteral (text : String) (node : Json) : Prop :=
  Tagged "Literal" node ∧ Has "value" (Text text) node

/-- A specifier of an import, whatever its kind. -/
def IsSpecifier (name : String) : Json → Prop := Has "local" (IsIdentifier name)

/-- `import name from "specifier"`, perhaps with more names. -/
def IsStaticImport (name specifier : String) (node : Json) : Prop :=
  Tagged "ImportDeclaration" node ∧
    Has "specifiers" (Leading (IsSpecifier name) fun other => ∃ name, IsSpecifier name other) node ∧
    Has "source" (IsLiteral specifier) node

/-- An expression of which the kinds that matter have the parts that matter. -/
inductive IsExpression : Json → Prop
  | await {node argument : Json} : Tagged "AwaitExpression" node →
      node.member? "argument" = some argument → IsExpression argument → IsExpression node
  | importOf {node source : Json} : Tagged "ImportExpression" node →
      node.member? "source" = some source → IsExpression source → IsExpression node
  | call {node : Json} {items : List Json} : Tagged "CallExpression" node →
      node.member? "arguments" = some (.array items) → (∀ item ∈ items, IsExpression item) →
      IsExpression node
  | emptyCall {node : Json} : Tagged "CallExpression" node → node.member? "arguments" = none →
      IsExpression node
  | other {node : Json} {tag : String} : Tagged tag node →
      tag ∉ ["AwaitExpression", "ImportExpression", "CallExpression"] → IsExpression node

/-- `{key: name}` -/
def IsBindingPattern (name : String) (node : Json) : Prop :=
  Tagged "ObjectPattern" node ∧
    Has "properties" (Only fun property =>
      Tagged "Property" property ∧ Has "value" (IsIdentifier name) property) node

/-- `resolve("specifier", …)` -/
def IsSpecifierCall (specifier : String) (node : Json) : Prop :=
  Tagged "CallExpression" node ∧ Has "arguments" (Leading (IsLiteral specifier) IsExpression) node

/-- `await import(resolve("specifier", …))` -/
def IsAwaitedImport (specifier : String) (node : Json) : Prop :=
  Tagged "AwaitExpression" node ∧
    Has "argument" (fun argument => Tagged "ImportExpression" argument ∧
      Has "source" (IsSpecifierCall specifier) argument) node

/-- `const {key: name} = await import(resolve("specifier", …))` -/
def IsDynamicImport (name specifier : String) (node : Json) : Prop :=
  Tagged "VariableDeclaration" node ∧
    Has "declarations" (Only fun declarator =>
      Has "id" (IsBindingPattern name) declarator ∧
        Has "init" (IsAwaitedImport specifier) declarator) node

/-- `const name = "value"` -/
def IsConstant (name value : String) (node : Json) : Prop :=
  Tagged "VariableDeclaration" node ∧ Has "kind" (Text "const") node ∧
    Has "declarations" (Only fun declarator => Tagged "VariableDeclarator" declarator ∧
      Has "id" (IsIdentifier name) declarator ∧ Has "init" (IsLiteral value) declarator) node

/-! ## Shapes stay -/

section
variable {edit : Json → Option Json}

/-- A shape that a node keeps while its statements are replaced. -/
def Stays (edit : Json → Option Json) (Shape : Json → Prop) : Prop :=
  ∀ node, Shape node → Shape (substitute edit false node)

theorem stays_text (text : String) : Stays edit (Text text) := by
  rintro _ rfl
  rfl

theorem stays_has {key : String} {Shape : Json → Prop} (hkey : (key == bodyKey) = false)
    (h : Stays edit Shape) : Stays edit (Has key Shape) := by
  rintro node ⟨child, hchild, hshape⟩
  refine ⟨substitute edit false child, ?_, h child hshape⟩
  rw [member?_substitute, hchild, hkey]
  rfl

theorem stays_and {First Second : Json → Prop} (hfirst : Stays edit First)
    (hsecond : Stays edit Second) : Stays edit fun node => First node ∧ Second node :=
  fun node h => ⟨hfirst node h.1, hsecond node h.2⟩

theorem stays_only {Shape : Json → Prop} (h : Stays edit Shape) : Stays edit (Only Shape) := by
  rintro _ ⟨item, rfl, hshape⟩
  exact ⟨substitute edit false item, rfl, h item hshape⟩

theorem stays_leading {First Other : Json → Prop} (hfirst : Stays edit First)
    (hother : Stays edit Other) : Stays edit (Leading First Other) := by
  rintro _ ⟨first, others, rfl, hf, ho⟩
  refine ⟨substitute edit false first, others.map (substitute edit false), ?_, hfirst first hf, ?_⟩
  · simp [substitute, substituteItems_eq_map]
  · intro other hmem
    obtain ⟨item, hitem, rfl⟩ := List.mem_map.1 hmem
    exact hother item (ho item hitem)

theorem stays_tagged (tag : String) : Stays edit (Tagged tag) := stays_has rfl (stays_text tag)

theorem stays_isIdentifier (name : String) : Stays edit (IsIdentifier name) :=
  stays_and (stays_tagged _) (stays_has rfl (stays_text name))

theorem stays_isLiteral (text : String) : Stays edit (IsLiteral text) :=
  stays_and (stays_tagged _) (stays_has rfl (stays_text text))

theorem stays_isSpecifier (name : String) : Stays edit (IsSpecifier name) :=
  stays_has rfl (stays_isIdentifier name)

theorem stays_isStaticImport (name specifier : String) :
    Stays edit (IsStaticImport name specifier) := by
  refine stays_and (stays_tagged _) (stays_and (stays_has rfl ?_) ?_)
  · refine stays_leading (stays_isSpecifier name) ?_
    rintro node ⟨other, hother⟩
    exact ⟨other, stays_isSpecifier other node hother⟩
  · exact stays_has rfl (stays_isLiteral specifier)

theorem stays_isConstant (name value : String) : Stays edit (IsConstant name value) := by
  refine stays_and (stays_tagged _) (stays_and (stays_has rfl (stays_text _)) (stays_has rfl ?_))
  exact stays_only (stays_and (stays_tagged _) (stays_and (stays_has rfl (stays_isIdentifier name))
    (stays_has rfl (stays_isLiteral value))))

end

end ServedMedia.Syntax
