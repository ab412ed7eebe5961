import ServedMedia.Config.Basic
import ServedMedia.Resolve
import ServedMedia.Syntax.Constant
import ServedMedia.Syntax.Statement
import ServedMedia.Syntax.Walk

/-!
# Media imports become constants

Two scans walk the tree one after the other:

    dynamic imports    const {default: name} = await import(resolve("specifier"))
    static imports     import name from "specifier"

A statement of the shape whose specifier qualifies is replaced by the constant
`name` with the URL that the specifier is served under.
-/

namespace ServedMedia

/-- Which shape of import is looked for. -/
inductive Scan where
  | dynamicImport
  | staticImport
  deriving DecidableEq, Repr

def Scan.name : Scan → String
  | .dynamicImport => "dynamic import"
  | .staticImport => "import"

/-- A name and the value it is imported from. -/
structure Binding where
  name : String
  specifier : Json
  deriving Repr

/-- A statement that was replaced. -/
structure Replacement where
  scan : Scan
  name : String
  specifier : String
  url : String
  deriving DecidableEq, Repr

/-- What a scan did with an import that it recognised. -/
inductive Event where
  | skipped (scan : Scan) (name : String) (reason : Skip)
  | replaced (replacement : Replacement)
  deriving DecidableEq, Repr

def Event.message : Event → String
  | .skipped scan name reason =>
    "skipped " ++ scan.name ++ " `" ++ name ++ "`: " ++ reason.reason
  | .replaced r => r.scan.name ++ " `" ++ r.name ++ "`: " ++ r.specifier ++ " -> " ++ r.url

/-- What the scans did, in the order in which they did it. -/
structure Report where
  events : List Event
  diagnostics : List Diagnostic
  deriving DecidableEq, Repr

namespace Report

/-- Nothing was done. -/
def empty : Report := ⟨[], []⟩

def replacements (report : Report) : List Replacement :=
  report.events.filterMap fun
    | .replaced replacement => some replacement
    | .skipped .. => none

def isUnchanged (report : Report) : Bool := report.replacements.isEmpty

def log (report : Report) (event : Event) (diagnostics : List Diagnostic) : Report :=
  ⟨report.events ++ [event], report.diagnostics ++ diagnostics⟩

end Report

open Syntax

/-! ## Algorithm -/

/-- The binding of a dynamic import: one declarator, one property, and a literal
as first argument of the call. -/
def dynamicBinding? : List Declarator → Option Binding
  | [⟨.object [some (.identifier name)],
      some (.await (.importOf (.call (.literal specifier :: _))))⟩] => some ⟨name, specifier⟩
  | _ => none

/-- The binding of a static import: its first local name. -/
def staticBinding? : (locals : List String) → (source : Json) → Option Binding
  | name :: _, source => some ⟨name, source⟩
  | [], _ => none

/-- The binding that a scan sees in a statement; an empty name is none. -/
def Scan.binding? (scan : Scan) (node : Json) : Option Binding :=
  let binding := match scan, Statement.classify node with
    | .dynamicImport, .variableDeclaration declarators => dynamicBinding? declarators
    | .staticImport, .importDeclaration locals source => staticBinding? locals source
    | _, _ => none
  binding.filter fun binding => binding.name ≠ ""

namespace Config

def resolve (config : Config) (specifier : String) : String × List Diagnostic :=
  Resolve.resolvePath specifier config.mountPrefix config.baseUrl

/-- Offers one statement to a scan. -/
def replaceStatement (config : Config) (scan : Scan) (report : Report) (node : Json) :
    Option Json × Report :=
  match scan.binding? node with
  | none => (none, report)
  | some binding =>
    match qualify binding.specifier with
    | .error reason => (none, report.log (.skipped scan binding.name reason) [])
    | .ok specifier =>
      let (url, diagnostics) := config.resolve specifier
      (some (constant binding.name url node),
        report.log (.replaced ⟨scan, binding.name, specifier, url⟩) diagnostics)

/-- Runs one scan over a tree. -/
def runScan (config : Config) (scan : Scan) (tree : Json) (report : Report) : Json × Report :=
  visitStatements (config.replaceStatement scan) tree report

/-- Replaces the media imports of a tree. -/
def replaceImports (config : Config) (tree : Json) : Json × Report :=
  let (tree, report) := config.runScan .dynamicImport tree .empty
  config.runScan .staticImport tree report

end Config

end ServedMedia
