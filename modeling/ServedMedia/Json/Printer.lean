import ServedMedia.Json.Number
import ServedMedia.Text.Hex

/-!
# Writing JSON

Members are written in their order.  In a string only the quote, the backslash
and U+0000 to U+001F are escaped.  The compact form has no blanks; the indented
form gives every item and member a line of its own, two spaces per level, and
keeps empty arrays and objects on one line.
-/

namespace ServedMedia.Json

/-! ## Algorithm -/

/-- A character inside a string. -/
def escapeChar (c : Char) : List Char :=
  if c = '"' then ['\\', '"']
  else if c = '\\' then ['\\', '\\']
  else if c.toNat < 0x20 then
    match c with
    | '\x08' => ['\\', 'b']
    | '\x0c' => ['\\', 'f']
    | '\n' => ['\\', 'n']
    | '\r' => ['\\', 'r']
    | '\t' => ['\\', 't']
    | c => ['\\', 'u', '0', '0', lowerHex (c.toNat / 16), lowerHex (c.toNat % 16)]
  else [c]

/-- The string literal of a text. -/
def quote (text : List Char) : List Char := '"' :: (text.flatMap escapeChar ++ ['"'])

/-- The line break before an item at a nesting level; compact texts have none. -/
def lineBreak : Option Nat → List Char
  | none => []
  | some level => '\n' :: List.replicate (2 * level) ' '

/-- The colon between a key and its value. -/
def keyMark : Option Nat → List Char
  | none => [':']
  | some _ => [':', ' ']

mutual

/-- The text of a value at a nesting level. -/
def write (level : Option Nat) : Json → List Char
  | null => "null".toList
  | bool true => "true".toList
  | bool false => "false".toList
  | number n => n.render
  | string text => quote text.toList
  | array [] => ['[', ']']
  | array (item :: items) =>
    let inner := level.map (· + 1)
    '[' :: (lineBreak inner ++ write inner item ++ writeItems inner items ++
      lineBreak level ++ [']'])
  | object [] => ['\x7b', '\x7d']
  | object ((key, value) :: members) =>
    let inner := level.map (· + 1)
    '\x7b' :: (lineBreak inner ++ quote key.toList ++ keyMark inner ++ write inner value ++
      writeMembers inner members ++ lineBreak level ++ ['\x7d'])

/-- The items after the first, each with the comma before it. -/
def writeItems (level : Option Nat) : List Json → List Char
  | [] => []
  | item :: items => ',' :: (lineBreak level ++ write level item ++ writeItems level items)

/-- The members after the first, each with the comma before it. -/
def writeMembers (level : Option Nat) : List (String × Json) → List Char
  | [] => []
  | (key, value) :: members =>
    ',' :: (lineBreak level ++ quote key.toList ++ keyMark level ++ write level value ++
      writeMembers level members)

end

/-- The text without blanks. -/
def compact (value : Json) : String := String.ofList (write none value)

/-- The text with a line for every item and member. -/
def indented (value : Json) : String := String.ofList (write (some 0) value)

end ServedMedia.Json
