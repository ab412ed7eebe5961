import ServedMedia.Text.Canonical
import ServedMedia.Text.Percent
import ServedMedia.Text.Segments

/-!
# File URLs

A file URL is a host, a path of percent-encoded segments that starts at the
root, and a query and a fragment.  The path always has a last segment; it is
empty if the URL ends in a slash.
-/

namespace ServedMedia

structure FileUrl where
  host : Option (List Char)
  path : List (List Char)
  query : Option (List Char)
  fragment : Option (List Char)
  deriving DecidableEq, Repr, Inhabited

namespace FileUrl

/-! ## Algorithm -/

/-- What every component encodes: control characters and all beyond ASCII. -/
def isControl (c : Char) : Bool := c.toNat < 0x20 || 0x7F ≤ c.toNat

def encodedInFragment (c : Char) : Bool :=
  isControl c || c == ' ' || c == '"' || c == '<' || c == '>' || c == '`'

def encodedInQuery (c : Char) : Bool :=
  isControl c || c == ' ' || c == '"' || c == '#' || c == '<' || c == '>' || c == '\''

def encodedInPath (c : Char) : Bool :=
  encodedInFragment c || c == '#' || c == '?' || c == '\x7b' || c == '\x7d'

/-- What the name of a file has encoded when it becomes a segment. -/
def encodedInName (c : Char) : Bool :=
  encodedInPath c || c == '%' || c == '/' || c == '\\'

/-- A letter with a colon or a bar. -/
def isDrive : List Char → Bool
  | [letter, mark] => letter.isAlpha && (mark == ':' || mark == '|')
  | _ => false

/-- The text of the URL. -/
def render (url : FileUrl) : List Char :=
  "file://".toList ++ url.host.getD [] ++ '/' :: joinSlash url.path ++
    (url.query.elim [] ('?' :: ·)) ++ (url.fragment.elim [] ('#' :: ·))

/-- The names along the path: its segments that are not empty, decoded and canonically composed. -/
def names (url : FileUrl) : List (List Char) :=
  (url.path.filter (· ≠ [])).map fun segment => Canonical.composed (Percent.decode segment)

end FileUrl

end ServedMedia
