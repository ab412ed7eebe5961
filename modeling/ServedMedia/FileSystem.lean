import ServedMedia.Path

/-!
# File trees

A file system is a list of files and directories by their place, which is the
list of names from the root.  A path leads to a place step by step, and every
step starts from a directory that exists; only the last name may be missing.
Names and paths have a greatest length.

    place ≠ [] → (fs.put place node).get? place = some node             (get?_put_self)
    other ≠ place → (fs.put place node).get? other = fs.get? other      (get?_put_of_ne)
-/

namespace ServedMedia

/-- Why an operation on a file failed. -/
inductive FileError where
  | notFound
  | notADirectory
  | isADirectory
  | notUtf8
  | nameTooLong
  /-- Any other reason, in the words of the system. -/
  | other (reason : String)
  deriving DecidableEq, Repr

def FileError.message : FileError → String
  | .notFound => "No such file or directory (os error 2)"
  | .notADirectory => "Not a directory (os error 20)"
  | .isADirectory => "Is a directory (os error 21)"
  | .notUtf8 => "stream did not contain valid UTF-8"
  | .nameTooLong => "File name too long (os error 36)"
  | .other reason => reason

/-- How octets are compared, whatever else is imported. -/
local instance (priority := 2000) octetsDecidableEq : DecidableEq ByteArray :=
  ByteArray.instDecidableEq

inductive FileSystem.Node where
  | file (content : ByteArray)
  | directory
  /-- A device that holds nothing and keeps nothing. -/
  | sink
  deriving DecidableEq

/-- The names from the root to a file or directory. -/
abbrev Place := List (List Char)

/-- The files and directories below the root. -/
structure FileSystem where
  nodes : List (Place × FileSystem.Node)

namespace FileSystem

/-! ## Algorithm -/

def empty : FileSystem := ⟨[]⟩

/-- What is at a place; the root is a directory. -/
def get? (fs : FileSystem) (place : Place) : Option Node :=
  if place = [] then some .directory
  else (fs.nodes.find? (·.1 == place)).map (·.2)

/-- Puts a file or directory at a place. -/
def put (fs : FileSystem) (place : Place) (node : Node) : FileSystem :=
  ⟨(place, node) :: fs.nodes.filter (·.1 != place)⟩

/-- The octets that a text takes in a path. -/
def octetCount (text : List Char) : Nat := (String.ofList text).utf8ByteSize

/-- Follows one segment of a path from a directory; a name has at most 255 octets. -/
def follow (fs : FileSystem) (place : Place) (segment : List Char) : Except FileError Place :=
  match fs.get? place with
  | none => .error .notFound
  | some (.file _) | some .sink => .error .notADirectory
  | some .directory =>
    if Path.isIdle segment then .ok place
    else if segment = Path.up then .ok place.dropLast
    else if 255 < octetCount segment then .error .nameTooLong
    else .ok (place ++ [segment])

/-- The place that a path of less than 4096 octets leads to, seen from a directory. -/
def locate (fs : FileSystem) (directory : Place) (path : List Char) : Except FileError Place :=
  if path = [] then .error .notFound
  else if 4096 ≤ octetCount path then .error .nameTooLong
  else (cutSlash path).foldlM fs.follow (if Path.isAbsolute path then [] else directory)

/-- The content of the file at a place. -/
def readAt (fs : FileSystem) (place : Place) : Except FileError ByteArray :=
  match fs.get? place with
  | none => .error .notFound
  | some .directory => .error .isADirectory
  | some (.file content) => .ok content
  | some .sink => .ok .empty

/-- Replaces or makes the file at a place, whose directory exists. -/
def writeAt (fs : FileSystem) (place : Place) (content : ByteArray) :
    Except FileError FileSystem :=
  match fs.get? place with
  | some .directory => .error .isADirectory
  | some .sink => .ok fs
  | _ => .ok (fs.put place (.file content))

/-- The text of a file. -/
def readText (fs : FileSystem) (directory : Place) (path : List Char) :
    Except FileError String := do
  let content ← fs.readAt (← fs.locate directory path)
  match String.fromUTF8? content with
  | some text => pure text
  | none => throw .notUtf8

def writeText (fs : FileSystem) (directory : Place) (path : List Char) (text : String) :
    Except FileError FileSystem := do
  fs.writeAt (← fs.locate directory path) text.toUTF8

/-- Whether a path leads to a file. -/
def isFile (fs : FileSystem) (directory : Place) (path : List Char) : Bool :=
  match fs.locate directory path with
  | .ok place => match fs.get? place with
    | some (.file _) => true
    | _ => false
  | .error _ => false

/-- Makes a directory and those around it, where nothing is yet. -/
def makeDirectories (fs : FileSystem) (place : Place) : FileSystem :=
  (List.range (place.length + 1)).foldl (fun fs depth =>
    if (fs.get? (place.take depth)).isNone then fs.put (place.take depth) .directory else fs) fs

/-! ## Lemmas -/

theorem get?_put_self (fs : FileSystem) {place : Place} (h : place ≠ []) (node : Node) :
    (fs.put place node).get? place = some node := by
  simp [get?, put, h]

theorem get?_put_of_ne (fs : FileSystem) {place other : Place} (h : other ≠ place) (node : Node) :
    (fs.put place node).get? other = fs.get? other := by
  have hfind : (fs.put place node).nodes.find? (·.1 == other) =
      fs.nodes.find? (·.1 == other) := by
    rw [put, List.find?_cons_of_neg (by simpa using Ne.symm h), List.find?_filter]
    congr 1
    funext entry
    by_cases he : entry.1 = other
    · simp [he, h]
    · simp [he]
  rw [get?, get?, hfind]

end FileSystem

end ServedMedia
