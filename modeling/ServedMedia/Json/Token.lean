import ServedMedia.Json.Number
import ServedMedia.Text.Hex

/-!
# Tokens of a JSON text

`Token.ofText?` reads a text one character at a time.  A mode says what the
reader is inside of; `step` gives the tokens that a character completes and the
next mode.  Escapes in strings are decoded on the way: a high surrogate must be
followed by an escaped low one, and neither may stand alone.
-/

namespace ServedMedia.Json

/-- A scalar is `null`, a boolean, a number or a string. -/
inductive Token where
  | beginObject
  | endObject
  | beginArray
  | endArray
  | colon
  | comma
  | scalar (value : Json)
  deriving Repr

namespace Token

/-- Where the reader stands inside a string. -/
inductive Escape where
  | plain
  | backslash
  | unit (missing value : Nat)
  | surrogate (high : Nat)
  | surrogateBackslash (high : Nat)
  | surrogateUnit (high missing value : Nat)
  deriving Repr, DecidableEq

/-- What the reader is inside of; characters read so far are held last one first. -/
inductive Mode where
  | between
  | string (escape : Escape) (chars : List Char)
  | number (chars : List Char)
  | word (chars : List Char)
  deriving Repr, DecidableEq

/-! ## Algorithm -/

def isBlank (c : Char) : Bool := c == ' ' || c == '\t' || c == '\n' || c == '\r'

def isNumberChar (c : Char) : Bool :=
  c.isDigit || c == '-' || c == '+' || c == '.' || c == 'e' || c == 'E'

/-- The character of a one-letter escape. -/
def unescape? : Char → Option Char
  | '"' => some '"'
  | '\\' => some '\\'
  | '/' => some '/'
  | 'b' => some '\x08'
  | 'f' => some '\x0c'
  | 'n' => some '\n'
  | 'r' => some '\r'
  | 't' => some '\t'
  | _ => none

/-- Ends an escaped UTF-16 unit: a scalar value is appended, a high surrogate is
kept until its partner is read. -/
def finishUnit? (chars : List Char) (value : Nat) : Option (Escape × List Char) :=
  if 0xD800 ≤ value ∧ value < 0xDC00 then some (.surrogate value, chars)
  else if 0xDC00 ≤ value ∧ value < 0xE000 then none
  else some (.plain, Char.ofNat value :: chars)

/-- Ends a surrogate pair. -/
def finishPair? (chars : List Char) (high low : Nat) : Option (Escape × List Char) :=
  if 0xDC00 ≤ low ∧ low < 0xE000 then
    some (.plain, Char.ofNat (0x10000 + (high - 0xD800) * 0x400 + (low - 0xDC00)) :: chars)
  else none

/-- One character inside a string, the closing quote apart. -/
def stepString? (chars : List Char) (c : Char) : Escape → Option (Escape × List Char)
  | .plain =>
    if c = '\\' then some (.backslash, chars)
    else if c.toNat < 0x20 then none
    else some (.plain, c :: chars)
  | .backslash =>
    if c = 'u' then some (.unit 4 0, chars)
    else (unescape? c).map fun d => (.plain, d :: chars)
  | .unit missing value => do
    let value := value * 16 + (← hexValue? c)
    if missing ≤ 1 then finishUnit? chars value else pure (.unit (missing - 1) value, chars)
  | .surrogate high => if c = '\\' then some (.surrogateBackslash high, chars) else none
  | .surrogateBackslash high => if c = 'u' then some (.surrogateUnit high 4 0, chars) else none
  | .surrogateUnit high missing value => do
    let value := value * 16 + (← hexValue? c)
    if missing ≤ 1 then finishPair? chars high value
    else pure (.surrogateUnit high (missing - 1) value, chars)

/-- A character that does not continue a token. -/
def start? (c : Char) : Option (List Token × Mode) :=
  if isBlank c then some ([], .between)
  else if c = '"' then some ([], .string .plain [])
  else if c = '-' ∨ c.isDigit then some ([], .number [c])
  else if c.isLower then some ([], .word [c])
  else match c with
    | '{' => some ([beginObject], .between)
    | '}' => some ([endObject], .between)
    | '[' => some ([beginArray], .between)
    | ']' => some ([endArray], .between)
    | ':' => some ([colon], .between)
    | ',' => some ([comma], .between)
    | _ => none

/-- The three literal names. -/
def word? (chars : List Char) : Option Token :=
  if chars = "null".toList then some (scalar null)
  else if chars = "true".toList then some (scalar (bool true))
  else if chars = "false".toList then some (scalar (bool false))
  else none

/-- The token that is complete when nothing more continues the mode. -/
def finish? : Mode → Option (List Token)
  | .between => some []
  | .string _ _ => none
  | .number chars => (Number.ofText? chars.reverse).map fun n => [scalar (number n)]
  | .word chars => (word? chars.reverse).map fun t => [t]

/-- Whether a character belongs to the token under way. -/
def continues : Mode → Char → Bool
  | .number _, c => isNumberChar c
  | .word _, c => c.isLower
  | _, _ => false

/-- The tokens that a character completes, and the next mode. -/
def step? (mode : Mode) (c : Char) : Option (List Token × Mode) :=
  match mode with
  | .string escape chars =>
    if escape = .plain ∧ c = '"' then
      some ([scalar (string (String.ofList chars.reverse))], .between)
    else (stepString? chars c escape).map fun r => ([], .string r.1 r.2)
  | .number chars => if continues mode c then some ([], .number (c :: chars)) else leave? mode c
  | .word chars => if continues mode c then some ([], .word (c :: chars)) else leave? mode c
  | .between => start? c
where
  leave? (mode : Mode) (c : Char) : Option (List Token × Mode) := do
    let done ← finish? mode
    let (tokens, next) ← start? c
    pure (done ++ tokens, next)

/-- The tokens of the rest of a text after those already read, which are held
last one first. -/
def read? (tokens : List Token) : Mode → List Char → Option (List Token)
  | mode, [] => (finish? mode).map fun last => tokens.reverse ++ last
  | mode, c :: rest =>
    match step? mode c with
    | none => none
    | some (done, next) => read? (done.reverse ++ tokens) next rest

def ofText? (text : List Char) : Option (List Token) := read? [] .between text

end Token

end ServedMedia.Json
