/-!
# Arguments of the command line

Arguments are read from left to right at two levels: options of the program,
then a command with its own options.  An option is written `--name value`,
`--name=value`, `-n value`, `-n=value` or `-nvalue`, flags of one letter may be
grouped, and `--` ends the options.  Within one level each option may be given
once, and a value on its own does not begin with a dash.  Options that both
levels have count at either one, the inner one first.
-/

namespace ServedMedia.Command

inductive Color where
  | auto
  | always
  | never
  deriving DecidableEq, Repr

/-- Every option of the program or of a command. -/
inductive OptionName where
  | color
  | config
  | verbose
  | version
  | help
  | output
  | write
  | pretty
  | mountPrefix
  | baseUrl
  deriving DecidableEq, Repr

/-- What an option is followed by. -/
inductive Takes where
  | nothing
  | color
  /-- A path, which is not empty. -/
  | path
  | text
  deriving DecidableEq, Repr

/-- What the words between the options of a level are. -/
inductive Words where
  /-- One word, which is a command and ends the level. -/
  | command
  /-- Any number of paths, none of them empty. -/
  | paths
  | texts
  deriving DecidableEq, Repr

/-- What is to be done with the media imports of documents. -/
structure DocumentTask where
  inputs : List String
  output : Option String
  write : Bool
  pretty : Bool
  deriving DecidableEq, Repr

inductive Task where
  | documents (task : DocumentTask)
  | specifiers (specifiers : List String)
  deriving DecidableEq, Repr

/-- A complete command line. -/
structure Invocation where
  color : Color
  config : Option String
  verbose : Bool
  mountPrefix : Option String
  baseUrl : Option String
  task : Task
  deriving DecidableEq, Repr

inductive Request where
  | run (invocation : Invocation)
  | version
  | help
  /-- The arguments make no sense. -/
  | misuse
  deriving DecidableEq, Repr

namespace OptionName

/-! ## Options -/

def takes : OptionName → Takes
  | .color => .color
  | .config | .output => .path
  | .mountPrefix | .baseUrl => .text
  | .verbose | .version | .help | .write | .pretty => .nothing

def letter? : OptionName → Option Char
  | .color => none
  | .config => some 'C'
  | .verbose => some 'v'
  | .version => some 'V'
  | .help => some 'h'
  | .output => some 'o'
  | .write => some 'w'
  | .pretty => some 'p'
  | .mountPrefix => some 'm'
  | .baseUrl => some 'b'

def names : OptionName → List String
  | .color => ["color"]
  | .config => ["config"]
  | .verbose => ["verbose"]
  | .version => ["version"]
  | .help => ["help"]
  | .output => ["output"]
  | .write => ["write"]
  | .pretty => ["pretty"]
  | .mountPrefix => ["mount-prefix", "pathname"]
  | .baseUrl => ["base-url"]

end OptionName

def programOptions : List OptionName := [.color, .config, .verbose, .version, .help]

def documentOptions : List OptionName :=
  [.output, .write, .pretty, .mountPrefix, .baseUrl, .color, .config, .verbose, .help]

def specifierOptions : List OptionName :=
  [.mountPrefix, .baseUrl, .color, .config, .verbose, .help]

def Color.ofName? (name : String) : Option Color :=
  if name = "auto" then some .auto
  else if name = "always" then some .always
  else if name = "never" then some .never
  else none

/-! ## One level -/

/-- What was given at one level: options with their values, and words. -/
structure Level where
  given : List (OptionName × String)
  words : List String
  deriving Repr

namespace Level

def start : Level := ⟨[], []⟩

def has (level : Level) (option : OptionName) : Bool := level.given.any (·.1 == option)

def value? (level : Level) (option : OptionName) : Option String :=
  (level.given.find? (·.1 == option)).map (·.2)

/-- Adds an option with its value; the options that answer at once end the reading. -/
def give (level : Level) (option : OptionName) (value : String) : Except Request Level :=
  if option = .version then .error .version
  else if option = .help then .error .help
  else if level.has option then .error .misuse
  else if option.takes = .color ∧ (Color.ofName? value).isNone then .error .misuse
  else if option.takes = .path ∧ value = "" then .error .misuse
  else .ok { level with given := level.given ++ [(option, value)] }

/-- Adds a word that is no command. -/
def addWord (level : Level) (words : Words) (word : String) : Except Request Level :=
  if words = .paths ∧ word = "" then .error .misuse
  else .ok { level with words := level.words ++ [word] }

/-- Reads an argument that begins with two dashes; the option returned awaits its value. -/
def long (options : List OptionName) (level : Level) (text : List Char) :
    Except Request (Level × Option OptionName) :=
  let name := String.ofList (text.takeWhile (· != '='))
  let attached? := match text.dropWhile (· != '=') with
    | _ :: value => some (String.ofList value)
    | [] => none
  match options.find? (·.names.contains name) with
  | none => .error .misuse
  | some option =>
    match option.takes, attached? with
    | .nothing, none => (level.give option "").map fun level => (level, none)
    | .nothing, some _ => .error .misuse
    | _, some value => (level.give option value).map fun level => (level, none)
    | _, none => .ok (level, some option)

/-- Reads the letters behind one dash; the option returned awaits its value. -/
def letters (options : List OptionName) : Level → List Char →
    Except Request (Level × Option OptionName)
  | level, [] => .ok (level, none)
  | level, letter :: rest =>
    match options.find? (·.letter? == some letter) with
    | none => .error .misuse
    | some option =>
      if option.takes = .nothing then
        match level.give option "" with
        | .error request => .error request
        | .ok level => letters options level rest
      else
        match rest with
        | [] => .ok (level, some option)
        | '=' :: value => (level.give option (String.ofList value)).map fun level => (level, none)
        | value => (level.give option (String.ofList value)).map fun level => (level, none)

/-- Reads arguments up to the end, or up to the word that is a command; what is
left begins with that word.  `awaiting` is an option whose value comes next. -/
def read (options : List OptionName) (words : Words) :
    (awaiting : Option OptionName) → List String → Level → Except Request (Level × List String)
  | none, [], level => .ok (level, [])
  | some _, [], _ => .error .misuse
  | awaiting, argument :: rest, level =>
    match awaiting, argument.toList with
    | none, ['-', '-'] =>
      if words = .command then .error .misuse
      else (rest.foldlM (addWord · words ·) level).map fun level => (level, [])
    | some _, ['-', '-'] => .error .misuse
    | none, '-' :: '-' :: text =>
      match long options level text with
      | .error request => .error request
      | .ok (level, awaiting) => read options words awaiting rest level
    | some _, '-' :: _ :: _ => .error .misuse
    | none, '-' :: letter :: text =>
      match letters options level (letter :: text) with
      | .error request => .error request
      | .ok (level, awaiting) => read options words awaiting rest level
    | some option, _ =>
      match level.give option argument with
      | .error request => .error request
      | .ok level => read options words none rest level
    | none, _ =>
      if words = .command then .ok (level, argument :: rest)
      else
        match level.addWord words argument with
        | .error request => .error request
        | .ok level => read options words none rest level

end Level

/-! ## Both levels -/

/-- The invocation of a command with the options of both levels. -/
def invocation (program command : Level) (task : Task) : Invocation where
  color := ((command.value? .color).or (program.value? .color)).bind Color.ofName? |>.getD .auto
  config := (command.value? .config).or (program.value? .config)
  verbose := command.has .verbose || program.has .verbose
  mountPrefix := command.value? .mountPrefix
  baseUrl := command.value? .baseUrl
  task

/-- The command that replaces the media imports of documents. -/
def readDocuments (program : Level) (arguments : List String) : Request :=
  match Level.read documentOptions .paths none arguments .start with
  | .error request => request
  | .ok (level, _) =>
    if level.has .output && level.has .write then .misuse
    else .run (invocation program level (.documents
      ⟨level.words, level.value? .output, level.has .write, level.has .pretty⟩))

/-- The command that prints the URLs of specifiers, of which there is at least one. -/
def readSpecifiers (program : Level) (arguments : List String) : Request :=
  match Level.read specifierOptions .texts none arguments .start with
  | .error request => request
  | .ok (level, _) =>
    if level.words.isEmpty then .misuse
    else .run (invocation program level (.specifiers level.words))

/-- The command that explains the others. -/
def readHelp : List String → Request
  | [] => .help
  | [command] => if command ∈ ["rewrite", "r", "resolve", "help"] then .help else .misuse
  | _ => .misuse

/-- What the arguments of the program ask for. -/
def readArguments (arguments : List String) : Request :=
  match Level.read programOptions .command none arguments .start with
  | .error request => request
  | .ok (_, []) => .misuse
  | .ok (program, command :: rest) =>
    if command = "rewrite" ∨ command = "r" then readDocuments program rest
    else if command = "resolve" then readSpecifiers program rest
    else if command = "help" then readHelp rest
    else .misuse

end ServedMedia.Command
