import ServedMedia.FileUrl.Parser
import ServedMedia.Path

/-!
# File URLs of paths

An absolute path becomes a URL name by name.  Empty and "." components vanish,
".." stays, and every character that a URL would read otherwise is encoded.
An option may hold a URL or a path; what begins like a URL is one.
-/

namespace ServedMedia.FileUrl

/-! ## Algorithm -/

/-- The URL of an absolute path. -/
def ofPath? (path : List Char) : Option FileUrl :=
  if Path.isAbsolute path then
    let segments := (Path.components path).map (Percent.encode encodedInName)
    some ⟨none, if segments.isEmpty then [[]] else segments, none, none⟩
  else none

/-- Whether a text begins with at least two scheme characters and a colon. -/
def looksLikeUrl (text : List Char) : Bool :=
  let scheme := text.takeWhile (· != ':')
  text.contains ':' && scheme.length > 1 && scheme.all isSchemeChar

/-- The file URL that a text denotes: a URL, or a path seen from a directory. -/
def ofUrlOrPath? (text directory : List Char) : Option FileUrl :=
  if looksLikeUrl text then parse? text else ofPath? (Path.join directory text)

end ServedMedia.FileUrl
