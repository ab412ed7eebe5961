import ServedMedia.Config.Basic
import ServedMedia.Json.Basic
import ServedMedia.Toml.Document

/-!
# Options from documents

The options are the members "mount_prefix", also called "pathname", and
"base_url".  Each is given at most once and is a text.  Other members are
ignored, and their names are returned.
-/

namespace ServedMedia.Config

/-- An option by its place in a record. -/
inductive Field where
  | mountPrefix
  | baseUrl
  deriving DecidableEq, Repr

/-! ## Algorithm -/

def Field.ofKey? (key : String) : Option Field :=
  if key = "mount_prefix" ∨ key = "pathname" then some .mountPrefix
  else if key = "base_url" then some .baseUrl
  else none

/-- The members read so far: the fields given, the options, and the unknown names. -/
structure Gathered where
  given : List Field
  config : Config
  unknown : List String
  deriving Repr

namespace Gathered

def none : Gathered := ⟨[], .empty, []⟩

/-- Adds an option, which must be the first one for its field. -/
def give? (gathered : Gathered) (field : Field) (value : Option String) : Option Gathered :=
  if field ∈ gathered.given then Option.none
  else
    let config := match field with
      | .mountPrefix => { gathered.config with mountPrefix := value }
      | .baseUrl => { gathered.config with baseUrl := value }
    some ⟨field :: gathered.given, config, gathered.unknown⟩

/-- Adds a member whose value is read by `text?`. -/
def addMember? {α : Type} (text? : α → Option (Option String)) (gathered : Gathered)
    (member : String × α) : Option Gathered :=
  match Field.ofKey? member.1 with
  | some field => (text? member.2).bind (gathered.give? field)
  | Option.none => some { gathered with unknown := gathered.unknown ++ [member.1] }

end Gathered

/-- A text or null. -/
def jsonText? : Json → Option (Option String)
  | .string text => some (some text)
  | .null => some none
  | _ => none

def tomlText? : Toml.Node → Option (Option String)
  | .string text => some (some text)
  | _ => none

/-- The options of an object, or of an array that holds them in order. -/
def ofJson? : Json → Option Config
  | .object members =>
    (members.foldlM (Gathered.addMember? jsonText?) .none).map (·.config)
  | .array [] => some .empty
  | .array [mountPrefix] => do pure ⟨← jsonText? mountPrefix, none⟩
  | .array [mountPrefix, baseUrl] => do pure ⟨← jsonText? mountPrefix, ← jsonText? baseUrl⟩
  | _ => none

/-- The options of a document and its unknown names. -/
def ofToml? (text : String) : Option (Config × List String) := do
  let entries ← Toml.parse? text
  let gathered ← entries.foldlM (Gathered.addMember? tomlText?) .none
  pure (gathered.config, gathered.unknown)

end ServedMedia.Config
