import ServedMedia.Json.Token

/-!
# Reading JSON

The tokens drive a stack of the arrays and objects that are still open.  A
repeated key keeps its first place and its last value.  No more than `limit`
arrays and objects may be open at once.
-/

namespace ServedMedia.Json

/-- An open array, its items last one first, or an open object with the key
whose value is being read. -/
inductive Frame where
  | array (items : List Json)
  | object (members : Members) (key : String)
  deriving Repr

/-- What may come next. -/
inductive Reading where
  /-- A value, or the end of the array just opened. -/
  | value (stack : List Frame) (mayEnd : Bool)
  /-- A key of an object, or the end of the object just opened. -/
  | key (stack : List Frame) (members : Members) (mayEnd : Bool)
  /-- The colon after a key. -/
  | colon (stack : List Frame) (members : Members) (key : String)
  /-- A comma or an end after a value. -/
  | after (stack : List Frame) (value : Json)
  deriving Repr

namespace Reading

/-! ## Algorithm -/

def step? (limit : Nat) : Reading → Token → Option Reading
  | .value stack _, .scalar v => some (.after stack v)
  | .value stack _, .beginArray =>
    if stack.length < limit then some (.value (.array [] :: stack) true) else none
  | .value stack _, .beginObject =>
    if stack.length < limit then some (.key stack [] true) else none
  | .value (.array _ :: stack) true, .endArray => some (.after stack (.array []))
  | .key stack members _, .scalar (.string k) => some (.colon stack members k)
  | .key stack _ true, .endObject => some (.after stack (.object []))
  | .colon stack members k, .colon => some (.value (.object members k :: stack) false)
  | .after (.array items :: stack) v, .comma => some (.value (.array (v :: items) :: stack) false)
  | .after (.array items :: stack) v, .endArray =>
    some (.after stack (.array (v :: items).reverse))
  | .after (.object members k :: stack) v, .comma => some (.key stack (members.insert k v) false)
  | .after (.object members k :: stack) v, .endObject =>
    some (.after stack (.object (members.insert k v)))
  | _, _ => none

def run? (limit : Nat) : Reading → List Token → Option Json
  | .after [] v, [] => some v
  | _, [] => none
  | state, token :: rest =>
    match step? limit state token with
    | none => none
    | some next => run? limit next rest

end Reading

/-- The value written by the tokens. -/
def ofTokens? (limit : Nat) (tokens : List Token) : Option Json :=
  Reading.run? limit (.value [] false) tokens

/-- The value that a text denotes, with at most `limit` nested arrays and objects. -/
def parseWithin? (limit : Nat) (text : List Char) : Option Json :=
  Token.ofText? text >>= ofTokens? limit

/-- Documents nest at most 127 deep. -/
def nestingLimit : Nat := 127

/-- The value that a document denotes. -/
def parse? (text : String) : Option Json := parseWithin? nestingLimit text.toList

end ServedMedia.Json
