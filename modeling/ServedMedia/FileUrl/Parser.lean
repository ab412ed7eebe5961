import ServedMedia.FileUrl.Basic
import ServedMedia.FileUrl.Host

/-!
# Reading file URLs

Blanks around the text do not count, and neither do tabs and line breaks in it.
After "file:" two slashes begin a host, and the path starts at the root in any
case.  Slashes and backslashes both end a segment.  The segments are read onto
a stack:

    "." and "%2e"          are skipped
    ".." and its escapes   pop a segment, but no drive
    a drive at the start   is pushed with a colon, and takes the place of the host
    any other              is pushed, the empty one too

A dot segment at the end leaves a final slash.  Empty segments at the start are
dropped once all is read.  Where there is no host the slash behind "//" counts
as such a segment, so that no drive stands at the start.

One break counts: behind a letter and a colon at the start it ends the segment.
The drive is pushed and the host stays, and what follows up to the next slash is
pushed as it is.

    no break is in text → unbroken text = text                  (unbroken_eq_self)
    the last segment is a drive → reading.pop = reading         (Reading.pop_of_isDrive)
    a drive is in reading.stack → it is in reading.pop.stack    (Reading.drive_mem_pop)
-/

namespace ServedMedia.FileUrl

/-! ## Algorithm -/

def isBlank (c : Char) : Bool := c.toNat ≤ 0x20

/-- The text without the blanks around it. -/
def trim (text : List Char) : List Char :=
  ((text.dropWhile isBlank).reverse.dropWhile isBlank).reverse

/-- A tab or a line break. -/
def isBreak (c : Char) : Bool := c == '\t' || c == '\n' || c == '\r'

/-- The text without tabs and line breaks. -/
def unbroken (text : List Char) : List Char := text.filter (!isBreak ·)

def isSchemeChar (c : Char) : Bool := c.isAlphanum || c == '+' || c == '-' || c == '.'

/-- The lower-cased scheme of a text and what follows its colon. -/
def scheme? (text : List Char) : Option (List Char × List Char) :=
  let belongs (c : Char) : Bool := isSchemeChar c || isBreak c
  match text, text.dropWhile belongs with
  | first :: _, ':' :: rest =>
    if first.isAlpha then some ((unbroken (text.takeWhile belongs)).map Char.toLower, rest)
    else none
  | _, _ => none

def isSlash (c : Char) : Bool := c == '/' || c == '\\'

/-- Whether a character ends the path. -/
def endsPath (c : Char) : Bool := c == '?' || c == '#'

def dot : List (List Char) := [".".toList, "%2e".toList]

/-- Whether a segment stands for the one it follows. -/
def isHere (segment : List Char) : Bool := dot.contains (segment.map Char.toLower)

/-- Whether a segment ascends. -/
def isUp (segment : List Char) : Bool :=
  (dot.flatMap fun a => dot.map fun b => a ++ b).contains (segment.map Char.toLower)

/-- A path while it is read: its host, and its segments, the last one first. -/
structure Reading where
  host : Option (List Char)
  stack : List (List Char)

namespace Reading

/-- Pops a segment, but no drive. -/
def pop (reading : Reading) : Reading :=
  match reading.stack with
  | [] => reading
  | top :: rest => if isDrive top then reading else { reading with stack := rest }

/-- Pushes a segment; a drive at the start has a colon and takes the place of the host. -/
def push (reading : Reading) (segment : List Char) : Reading :=
  if reading.stack.isEmpty && isDrive segment then ⟨none, [segment.take 1 ++ [':']]⟩
  else { reading with stack := segment :: reading.stack }

/-- Reads a segment without breaks; `isLast` tells whether it ends the path. -/
def step (reading : Reading) (segment : List Char) (isLast : Bool) : Reading :=
  if isHere segment then if isLast then reading.push [] else reading
  else if isUp segment then if isLast then reading.pop.push [] else reading.pop
  else reading.push segment

end Reading

/-- A drive with its colon in front of a break, and what follows the break without breaks. -/
def brokenDrive? (segment : List Char) : Option (List Char × List Char) :=
  match unbroken segment, (segment.dropWhile (· != ':')).drop 1 with
  | letter :: ':' :: next :: rest, behind :: _ =>
    if letter.isAlpha && isBreak behind then some ([letter, ':'], next :: rest) else none
  | _, _ => none

/-- Reads the segments of a path. -/
def read (reading : Reading) : List (List Char) → Reading
  | [] => reading
  | segment :: rest =>
    match reading.stack, brokenDrive? segment with
    | [], some (drive, name) => read { reading with stack := [name, drive] } rest
    | _, _ => read (reading.step (unbroken segment) rest.isEmpty) rest

/-- The segments without the empty ones at the start; the last one stays in any case. -/
def dropEmpty : List (List Char) → List (List Char)
  | [] :: next :: rest => dropEmpty (next :: rest)
  | segments => segments

/-- The segments of a path text. -/
def cutPath (text : List Char) : List (List Char) :=
  cutSlash (text.map fun c => if isSlash c then '/' else c)

/-- The text behind its first slash, if it begins with one. -/
def afterSlash? (text : List Char) : Option (List Char) :=
  match text.dropWhile isBreak with
  | [] => none
  | c :: rest => if isSlash c then some rest else none

/-- Query and fragment of the text behind the path. -/
def trailer (text : List Char) : Option (List Char) × Option (List Char) :=
  let fragment : List Char → Option (List Char)
    | '#' :: rest => some (Percent.encode encodedInFragment rest)
    | _ => none
  match text with
  | '?' :: rest =>
    (some (Percent.encode encodedInQuery (rest.takeWhile (· != '#'))),
      fragment (rest.dropWhile (· != '#')))
  | text => (none, fragment text)

/-- The URL with a host and the path, query and fragment of a text. -/
def ofPathText (host : Option (List Char)) (text : List Char) : FileUrl :=
  let reading := read ⟨host, []⟩ (cutPath (text.takeWhile (!endsPath ·)))
  let (query, fragment) := trailer (unbroken (text.dropWhile (!endsPath ·)))
  ⟨reading.host, (dropEmpty reading.stack.reverse).map (Percent.encode encodedInPath),
    query, fragment⟩

/-- What follows the two slashes. -/
def ofAuthority? (text : List Char) : Option FileUrl :=
  let ends (c : Char) : Bool := isSlash c || endsPath c
  let host := unbroken (text.takeWhile (!ends ·))
  let rest := text.dropWhile (!ends ·)
  if isDrive host then some (ofPathText none text)
  else if host.isEmpty then some (ofPathText none rest)
  else (Host.parse? host).map fun host =>
    if host = "localhost".toList then ofPathText none rest
    else ofPathText (some host) ((afterSlash? rest).getD rest)

/-- What follows the colon of the scheme. -/
def ofLocation? (text : List Char) : Option FileUrl :=
  match afterSlash? text with
  | none => some (ofPathText none text)
  | some rest =>
    match afterSlash? rest with
    | none => some (ofPathText none rest)
    | some authority => ofAuthority? authority

/-- The file URL that a text denotes. -/
def parse? (text : List Char) : Option FileUrl :=
  match scheme? (trim text) with
  | some (scheme, rest) => if scheme = "file".toList then ofLocation? rest else none
  | none => none

/-! ## Lemmas -/

theorem unbroken_eq_self {text : List Char} (h : ∀ c ∈ text, isBreak c = false) :
    unbroken text = text := by
  rw [unbroken, List.filter_eq_self]
  intro c hc
  simp [h c hc]

namespace Reading

theorem pop_of_isDrive {reading : Reading} {top : List Char} {rest : List (List Char)}
    (hstack : reading.stack = top :: rest) (hdrive : isDrive top = true) :
    reading.pop = reading := by
  rw [pop, hstack]
  simp [hdrive]

theorem drive_mem_pop {reading : Reading} {drive : List Char} (hdrive : isDrive drive = true)
    (hmem : drive ∈ reading.stack) : drive ∈ reading.pop.stack := by
  rw [pop]
  split
  · exact hmem
  · rename_i top rest hstack
    split
    · exact hmem
    · rename_i htop
      rw [hstack] at hmem
      rcases List.mem_cons.1 hmem with rfl | hmem
      · exact absurd hdrive htop
      · exact hmem

end Reading

end ServedMedia.FileUrl
