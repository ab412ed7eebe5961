import ServedMedia.Json.Printer

/-!
# Constant declarations

`constant name value source` is the node of `const name = "value";` with the
positions that the node `source` had.
-/

namespace ServedMedia.Syntax

/-! ## Algorithm -/

/-- The keys of positions, in the order in which they are written. -/
def positionKeys : List String := ["start", "end", "loc", "range"]

/-- The positions that a node has. -/
def positions (node : Json) : Json.Members :=
  positionKeys.filterMap fun key => (node.member? key).map fun position => (key, position)

/-- The literal of a string, with its text in the source. -/
def stringLiteral (value : String) : Json :=
  .object [("type", .string "Literal"), ("value", .string value),
    ("raw", .string (Json.compact (.string value)))]

def constant (name value : String) (source : Json) : Json :=
  .object ([("type", .string "VariableDeclaration"), ("kind", .string "const"),
    ("declarations", .array [.object [("type", .string "VariableDeclarator"),
      ("id", .object [("type", .string "Identifier"), ("name", .string name)]),
      ("init", stringLiteral value)]])] ++ positions source)

end ServedMedia.Syntax
