import ServedMedia.Text.Segments

/-!
# Lexical paths

Paths are slash-separated texts, taken apart without looking at any file
system.  `normalize` reads the segments from left to right onto a stack:

    "" and "."   are skipped
    ".."         pops a name; with no name to pop it is kept, or dropped if the path is absolute
    any name     is pushed

An absolute path stays absolute, a trailing slash is kept, and a relative path
with nothing left is ".".  `stripAscent` removes what a relative path holds in
front of its first name.  `ancestors` are the directories that a path lies in,
by its text alone.
-/

namespace ServedMedia.Path

/-! ## Algorithm -/

/-- The segment that stays in place. -/
def here : List Char := ['.']

/-- The segment that ascends by one. -/
def up : List Char := ['.', '.']

def isAbsolute (path : List Char) : Bool := path.head? == some '/'

/-- Whether a segment says nothing. -/
def isIdle (segment : List Char) : Bool := segment == [] || segment == here

/-- Reads one segment onto the stack, whose head is the segment read last. -/
def push (absolute : Bool) (stack : List (List Char)) (segment : List Char) : List (List Char) :=
  if isIdle segment then stack
  else if segment = up then
    match stack with
    | top :: rest => if top ≠ up then rest else if absolute then stack else up :: stack
    | [] => if absolute then [] else [up]
  else segment :: stack

/-- The segments that remain of a path, first one first. -/
def reduce (absolute : Bool) (segments : List (List Char)) : List (List Char) :=
  (segments.foldl (push absolute) []).reverse

/-- The path with its dot segments and repeated slashes resolved. -/
def normalize (path : List Char) : List Char :=
  let absolute := isAbsolute path
  let segments := reduce absolute (cutSlash path)
  let body := (if absolute then ['/'] else []) ++ joinSlash segments
  let body := if segments.isEmpty && !absolute then here else body
  if path.getLast? = some '/' ∧ body.getLast? ≠ some '/' then body ++ ['/'] else body

/-- Without the ascents "../" at the start. -/
def dropAscents : List Char → List Char
  | '.' :: '.' :: '/' :: rest => dropAscents rest
  | path => path

/-- Without one "./", or else without all "../", at the start. -/
def stripAscent : List Char → List Char
  | '.' :: '/' :: rest => rest
  | path => dropAscents path

/-- The path seen from a directory. -/
def join (directory path : List Char) : List Char :=
  if isAbsolute path then path
  else if directory = [] ∨ directory.getLast? = some '/' then directory ++ path
  else directory ++ '/' :: path

/-- The segments of a path that say something. -/
def components (path : List Char) : List (List Char) :=
  (cutSlash path).filter fun segment => !isIdle segment

/-- The last component of a path, unless that ascends. -/
def fileName? (path : List Char) : Option (List Char) :=
  (components path).getLast?.filter (· ≠ up)

/-- The directories around the place that segments lead to, all of them last segment first. -/
def climb : List (List Char) → List (List (List Char))
  | [] => []
  | segment :: rest =>
    if isIdle segment then climb rest else rest.dropWhile isIdle :: climb rest

/-- The directories that a path lies in, from the innermost to the outermost. -/
def parents (path : List Char) : List (List Char) :=
  match cutSlash path with
  | [] => []
  | first :: rest =>
    let around := (climb rest.reverse).map List.reverse
    if isAbsolute path then around.map fun segments => '/' :: joinSlash segments
    else if first = here then (around.map fun segments => joinSlash (here :: segments)) ++ [[]]
    else (climb (first :: rest).reverse).map fun segments => joinSlash segments.reverse

/-- A path and the directories that it lies in. -/
def ancestors (path : List Char) : List (List Char) := path :: parents path

end ServedMedia.Path
