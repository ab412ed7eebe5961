import ServedMedia.Command.Arguments
import ServedMedia.Config.Fields
import ServedMedia.Json.Parser
import ServedMedia.Replacement
import ServedMedia.Effects

/-!
# Running a command

The options come from the file named on the command line, or else from the
nearest file of the usual name at or above the working directory; the command
line goes before the file.  Documents are replaced one after the other, each on
its own: in place, a document that cannot be read or parsed is reported at the
end and stays as it is.
-/

namespace ServedMedia.Command

/-- The file that options are looked for in. -/
def configFileName : String := "media-imports.toml"

def versionText : String := "media-imports 0.1.0\n"

def helpText : String := "Usage: media-imports [OPTIONS] <COMMAND>\n\nCommands:\n" ++
  "  rewrite  Replace the media imports of documents\n" ++
  "  resolve  Print the URL of each specifier\n"

/-- Where a document comes from. -/
inductive Input where
  | standard
  | file (path : String)
  deriving DecidableEq, Repr

def Input.name : Input → String
  | .standard => "<stdin>"
  | .file path => path

/-- Whether a path is "-"; slashes and dot segments behind it make no difference. -/
def isDash (path : String) : Bool :=
  match cutSlash path.toList with
  | first :: rest => first == ['-'] && rest.all Path.isIdle
  | [] => false

def Input.ofPath (path : String) : Input := if isDash path then .standard else .file path

/-- Without paths the standard input is read, and "-" stands for it. -/
def Input.ofPaths (paths : List String) : List Input :=
  if paths.isEmpty then [.standard] else paths.map Input.ofPath

/-- Why a command did not succeed. -/
inductive Failure where
  | config (error : ConfigError)
  | severalInputs
  | inPlaceOfStandard
  | unreadable (input : Input) (reason : FileError)
  | malformed (input : Input)
  | unwritable (path : String) (reason : FileError)
  | documents (count : Nat)
  deriving DecidableEq, Repr

/-- A count with its noun. -/
def plural (count : Nat) (noun : String) : String :=
  toString count ++ " " ++ noun ++ (if count = 1 then "" else "s")

def Failure.message : Failure → String
  | .config error => error.message
  | .severalInputs => "rewriting several inputs requires --write"
  | .inPlaceOfStandard => "--write cannot rewrite stdin in place"
  | .unreadable .standard _ => "failed to read stdin"
  | .unreadable (.file path) _ => "failed to read " ++ path
  | .malformed input => "failed to parse " ++ input.name ++ " as ESTree JSON"
  | .unwritable path _ => "failed to write " ++ path
  | .documents count => plural count "document" ++ " could not be rewritten"

/-- The message with the reason behind it. -/
def Failure.details (failure : Failure) : String :=
  match failure with
  | .unreadable _ reason | .unwritable _ reason => failure.message ++ ": " ++ reason.message
  | failure => failure.message

/-! ## Log -/

/-- How lines are written to the log. -/
structure Logger where
  color : Bool
  verbose : Bool

/-- The topic of a line in brackets, in its color. -/
def Logger.heading (logger : Logger) (topic : String) : String :=
  let plain := "[" ++ topic ++ "]"
  if logger.color then
    let code :=
      if topic = "error" then "1" else if topic = "warning" then "3"
      else if topic = "rewrite" then "2" else "4"
    "\x1b[1m\x1b[9" ++ code ++ "m" ++ plain ++ "\x1b[39m\x1b[0m"
  else plain

section

variable {m : Type → Type} [Monad m] [Effects m]

def Logger.say (logger : Logger) (topic message : String) : m Unit :=
  Effects.log (logger.heading topic ++ " " ++ message)

/-- Says what is said only on demand. -/
def Logger.detail (logger : Logger) (topic message : String) : m Unit :=
  if logger.verbose then logger.say topic message else pure ()

/-- Does something for every item, one after the other. -/
def forEach {α : Type} (act : α → m Unit) : List α → m Unit
  | [] => pure ()
  | item :: items => do
    act item
    forEach act items

def Logger.diagnostics (logger : Logger) (source : String) (diagnostics : List Diagnostic) :
    m Unit :=
  forEach (fun (diagnostic : Diagnostic) =>
    logger.say "warning" (source ++ ": " ++ diagnostic.message)) diagnostics

/-! ## Options -/

/-- The first of the paths that is a file. -/
def firstFile? : List String → m (Option String)
  | [] => pure none
  | path :: paths => do
    if ← Effects.isFile path then pure (some path) else firstFile? paths

/-- The paths of a file in a directory and in those around it. -/
def candidates (name directory : String) : List String :=
  (Path.ancestors directory.toList).map fun ancestor =>
    String.ofList (Path.join ancestor name.toList)

/-- The nearest file of a name at or above a directory. -/
def findConfigFile? (name directory : String) : m (Option String) :=
  firstFile? (candidates name directory)

/-- The options in a file; a warning names the unknown ones. -/
def readConfig (logger : Logger) (path : String) : m (Except ConfigError Config) := do
  match ← Effects.readText path with
  | .error reason => pure (.error (.unreadable path reason))
  | .ok text =>
    match Config.ofToml? text with
    | none => pure (.error .malformed)
    | some (config, unknown) => do
      let shown := ((Path.fileName? path.toList).map String.ofList).getD path
      if unknown.isEmpty then pure (.ok config)
      else do
        logger.say "warning" ("unknown fields in " ++ shown ++ ", ignoring: " ++
          ", ".intercalate unknown)
        pure (.ok config)

/-- The options of the file named, or of the nearest one; without any there are none. -/
def loadConfig (logger : Logger) (named : Option String) (directory : String) :
    m (Except ConfigError Config) :=
  match named with
  | some path => readConfig logger path
  | none => do
    match ← findConfigFile? configFileName directory with
    | some path => do
      logger.detail "config" ("using " ++ path)
      readConfig logger path
    | none => pure (.ok .empty)

/-! ## Documents -/

def Input.read : Input → m (Except FileError String)
  | .standard => Effects.readInput
  | .file path => Effects.readText path

/-- Reads a document and replaces its media imports; the text of the result ends in a line break. -/
def replaceDocument (logger : Logger) (config : Config) (pretty : Bool) (input : Input) :
    m (Except Failure (String × Report)) := do
  match ← input.read with
  | .error reason => pure (.error (.unreadable input reason))
  | .ok text =>
    match Json.parse? text with
    | none => pure (.error (.malformed input))
    | some tree => do
      let (tree, report) := config.replaceImports tree
      forEach (fun event => logger.detail "rewrite" event.message) report.events
      logger.diagnostics input.name report.diagnostics
      pure (.ok ((if pretty then tree.indented else tree.compact) ++ "\n", report))

/-- One document to a file or to the standard output. -/
def replaceOne (logger : Logger) (config : Config) (task : DocumentTask) (input : Input) :
    m (Except Failure Unit) := do
  match ← replaceDocument logger config task.pretty input with
  | .error failure => pure (.error failure)
  | .ok (text, report) =>
    let count := plural report.replacements.length "import"
    match task.output with
    | some path =>
      match ← Effects.writeText path text with
      | .error reason => pure (.error (.unwritable path reason))
      | .ok () => do
        logger.say "rewrite" (count ++ " -> " ++ path)
        pure (.ok ())
    | none => do
      Effects.print text
      logger.detail "rewrite" (count ++ " in " ++ input.name)
      pure (.ok ())

/-- One document in its own place, with the number of imports replaced; without
any nothing is written. -/
def replaceInPlace (logger : Logger) (config : Config) (pretty : Bool) (path : String) :
    m (Except Failure Nat) := do
  match ← replaceDocument logger config pretty (.file path) with
  | .error failure => pure (.error failure)
  | .ok (text, report) =>
    if report.isUnchanged then do
      logger.detail "rewrite" (path ++ ": unchanged")
      pure (.ok 0)
    else
      match ← Effects.writeText path text with
      | .error reason => pure (.error (.unwritable path reason))
      | .ok () => pure (.ok report.replacements.length)

/-- Every document in its own place, with the outcome of each. -/
def replaceEach (logger : Logger) (config : Config) (pretty : Bool) :
    List String → m (List (Except Failure Nat))
  | [] => pure []
  | path :: paths => do
    let outcome ← replaceInPlace logger config pretty path
    let outcomes ← replaceEach logger config pretty paths
    pure (outcome :: outcomes)

def failures (outcomes : List (Except Failure Nat)) : List Failure :=
  outcomes.filterMap fun
    | .error failure => some failure
    | .ok _ => none

def total (outcomes : List (Except Failure Nat)) : Nat :=
  outcomes.foldl (fun sum outcome =>
    match outcome with
    | .error _ => sum
    | .ok count => sum + count) 0

/-- All documents in their own places; the failures are reported at the end. -/
def replaceAll (logger : Logger) (config : Config) (pretty : Bool) (paths : List String) :
    m (Except Failure Unit) := do
  let outcomes ← replaceEach logger config pretty paths
  let failed := failures outcomes
  forEach (fun (failure : Failure) => logger.say "error" failure.details) failed
  logger.say "rewrite" (plural (total outcomes) "import" ++ " in " ++
    plural (paths.length - failed.length) "document")
  if failed.isEmpty then pure (.ok ()) else pure (.error (.documents failed.length))

/-- The paths of inputs that are all files. -/
def filePaths? : List Input → Option (List String)
  | [] => some []
  | .file path :: inputs => (filePaths? inputs).map (path :: ·)
  | .standard :: _ => none

def runDocuments (logger : Logger) (config : Config) (task : DocumentTask) :
    m (Except Failure Unit) :=
  let inputs := Input.ofPaths task.inputs
  if task.write then
    match filePaths? inputs with
    | none => pure (.error .inPlaceOfStandard)
    | some paths => replaceAll logger config task.pretty paths
  else
    match inputs with
    | [input] => replaceOne logger config task input
    | _ => pure (.error .severalInputs)

/-! ## Specifiers -/

/-- The line for a specifier, with the diagnostics of its resolution, and what is
said about it: on demand for a URL, always for a specifier left as it is. -/
def resolveSpecifier (config : Config) (specifier : String) :
    String × List Diagnostic × (Bool × String) :=
  match qualify (.string specifier) with
  | .error reason =>
    (specifier, [], (true, "`" ++ specifier ++ "` left unchanged: " ++ reason.reason))
  | .ok specifier =>
    let (url, diagnostics) := config.resolve specifier
    let kind := ((MediaKind.ofPath? specifier.toList).map MediaKind.name).getD "media"
    (url, diagnostics, (false, "`" ++ specifier ++ "` (" ++ kind ++ ") -> " ++ url))

/-- The lines and the diagnostics for all specifiers. -/
def resolveAll (config : Config) (specifiers : List String) : List String × List Diagnostic :=
  (specifiers.map fun specifier => (resolveSpecifier config specifier).1,
    specifiers.flatMap fun specifier => (resolveSpecifier config specifier).2.1)

def runSpecifiers (logger : Logger) (config : Config) (specifiers : List String) : m Unit := do
  forEach (fun specifier =>
    match (resolveSpecifier config specifier).2.2 with
    | (true, warning) => logger.say "warning" warning
    | (false, message) => logger.detail "resolve" message) specifiers
  let (lines, diagnostics) := resolveAll config specifiers
  forEach (fun line => Effects.print (line ++ "\n")) lines
  logger.diagnostics "resolve" diagnostics

/-! ## Program -/

/-- Runs a command with its options. -/
def runInvocation (invocation : Invocation) : m (Except Failure Unit) := do
  let logger : Logger := ⟨invocation.color = .always, invocation.verbose⟩
  let directory ← Effects.directory
  match ← loadConfig logger invocation.config directory with
  | .error error => pure (.error (.config error))
  | .ok config =>
    match (config.override invocation.mountPrefix invocation.baseUrl).finalize directory with
    | (_, .error error) => pure (.error (.config error))
    | (config, .ok ()) =>
      match invocation.task with
      | .documents task => runDocuments logger config task
      | .specifiers specifiers => do
        runSpecifiers logger config specifiers
        pure (.ok ())

/-- Runs the program; the result is its exit status. -/
def run (arguments : List String) : m UInt32 :=
  match readArguments arguments with
  | .version => do
    Effects.print versionText
    pure 0
  | .help => do
    Effects.print helpText
    pure 0
  | .misuse => do
    Effects.log "error: the arguments make no sense; try '--help'"
    pure 2
  | .run invocation => do
    match ← runInvocation invocation with
    | .ok () => pure 0
    | .error failure => do
      Effects.log ("Error: " ++ failure.message)
      pure 1

end

end ServedMedia.Command
