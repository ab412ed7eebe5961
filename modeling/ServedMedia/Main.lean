import ServedMedia.Command.Run

/-!
# The program

Gives the commands the real files, the standard input and output, and the
standard error for the log.
-/

namespace ServedMedia

/-- The number of an error of the system, which is reported with either sign. -/
def errorNumber (code : UInt32) : UInt32 := min code (-code)

/-- The reason behind an error of the system. -/
def fileError : IO.Error → FileError
  | .noFileOrDirectory .. => .notFound
  | .noSuchThing .. => .notFound
  | .inappropriateType _ code _ =>
    if errorNumber code = 21 then .isADirectory else .notADirectory
  | error@(.invalidArgument _ code _) =>
    if errorNumber code = 36 then .nameTooLong else .other (toString error)
  | error => .other (toString error)

/-- Runs a file operation and keeps its error as a value. -/
def attempt {α : Type} (act : IO α) : IO (Except FileError α) := do
  try
    pure (.ok (← act))
  catch error => pure (.error (fileError error))

/-- The text of octets. -/
def decodeText (octets : ByteArray) : Except FileError String :=
  match String.fromUTF8? octets with
  | some text => .ok text
  | none => .error .notUtf8

instance : Effects IO where
  directory := do pure (← IO.currentDir).toString
  isFile path := do
    match ← attempt (do (← IO.FS.realPath path).metadata) with
    | .ok metadata => pure (metadata.type == .file)
    | .error _ => pure false
  readText path := do
    match ← attempt (IO.FS.readBinFile path) with
    | .error reason => pure (.error reason)
    | .ok octets => pure (decodeText octets)
  writeText path content := attempt (IO.FS.writeBinFile path content.toUTF8)
  readInput := do
    match ← attempt ((← IO.getStdin).readToEnd) with
    | .error (.other _) => pure (.error .notUtf8)
    | .error reason => pure (.error reason)
    | .ok text => pure (.ok text)
  print text := do
    let out ← IO.getStdout
    out.putStr text
    out.flush
  log line := IO.eprintln line

end ServedMedia

def main (arguments : List String) : IO UInt32 := ServedMedia.Command.run arguments
