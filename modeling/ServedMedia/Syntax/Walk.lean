import ServedMedia.Json.Basic

/-!
# Walking the statements of a tree

The statements are the items of the arrays under the key "body", anywhere in
the tree.  `visitStatements` offers each of them in document order to a
function that carries a state:

    some node    takes the statement's place and is not entered
    none         keeps the statement, and the walk goes on inside it
-/

namespace ServedMedia.Syntax

/-! ## Algorithm -/

/-- The key of statement lists. -/
def bodyKey : String := "body"

/-- Decides about one statement and updates the state. -/
abbrev Offer (σ : Type) := σ → Json → Option Json × σ

mutual

/-- Walks a value; `isBody` says whether it stands under the key of statement lists. -/
def visit {σ : Type} (offer : Offer σ) (isBody : Bool) : Json → σ → Json × σ
  | .array items, s =>
    let r := visitItems offer isBody items s
    (.array r.1, r.2)
  | .object members, s =>
    let r := visitMembers offer members s
    (.object r.1, r.2)
  | value, s => (value, s)

/-- Walks the items of an array; the items of a statement list are offered first. -/
def visitItems {σ : Type} (offer : Offer σ) (isBody : Bool) :
    List Json → σ → List Json × σ
  | [], s => ([], s)
  | item :: items, s =>
    let first :=
      if isBody then
        match offer s item with
        | (some node, s) => (node, s)
        | (none, s) => visit offer false item s
      else visit offer false item s
    let r := visitItems offer isBody items first.2
    (first.1 :: r.1, r.2)

/-- Walks the members of an object. -/
def visitMembers {σ : Type} (offer : Offer σ) :
    List (String × Json) → σ → List (String × Json) × σ
  | [], s => ([], s)
  | (key, value) :: members, s =>
    let first := visit offer (key == bodyKey) value s
    let r := visitMembers offer members first.2
    ((key, first.1) :: r.1, r.2)

end

/-- Offers every statement of a tree. -/
def visitStatements {σ : Type} (offer : Offer σ) (tree : Json) (s : σ) : Json × σ :=
  visit offer false tree s

end ServedMedia.Syntax
