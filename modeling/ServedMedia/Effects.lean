import ServedMedia.FileSystem

/-!
# What a command can do

A command runs in any monad that can read and write text files, read the
standard input, and write to the standard output and the log.  `Session` is
such a monad without effects: it keeps all of that in a `World`.
-/

namespace ServedMedia

/-- The operations that a command is made of. -/
class Effects (m : Type → Type) where
  /-- The absolute path of the directory that relative paths start from. -/
  directory : m String
  /-- Whether a path leads to a file, which no directory and no device is. -/
  isFile (path : String) : m Bool
  readText (path : String) : m (Except FileError String)
  writeText (path content : String) : m (Except FileError Unit)
  /-- All of the standard input. -/
  readInput : m (Except FileError String)
  print (text : String) : m Unit
  log (line : String) : m Unit

/-- Everything that a command can see or change. -/
structure World where
  files : FileSystem
  directory : Place
  input : ByteArray
  output : String
  /-- The lines of the log. -/
  lines : List String

abbrev Session := StateM World

instance : Effects Session where
  directory := do pure (String.ofList ('/' :: joinSlash (← get).directory))
  isFile path := do
    let world ← get
    pure (world.files.isFile world.directory path.toList)
  readText path := do
    let world ← get
    pure (world.files.readText world.directory path.toList)
  writeText path content := do
    let world ← get
    match world.files.writeText world.directory path.toList content with
    | .error reason => pure (.error reason)
    | .ok files =>
      set { world with files }
      pure (.ok ())
  readInput := do
    match String.fromUTF8? (← get).input with
    | some text => pure (.ok text)
    | none => pure (.error .notUtf8)
  print text := modify fun world => { world with output := world.output ++ text }
  log line := modify fun world => { world with lines := world.lines ++ [line] }

end ServedMedia
