import ServedMedia.FileSystem
import ServedMedia.FileUrl.OfPath

/-!
# Options

What the mount and the base of resolutions are.  Options given on the command
line take the place of those from a file.  `finalize` checks them: an empty
option counts as none, the mount prefix must not look like a URL, and the base
becomes a file URL.
-/

namespace ServedMedia

structure Config where
  /-- The part of the URL that all media is served under; none serves it at the root. -/
  mountPrefix : Option String
  /-- The file URL of the document whose imports are resolved. -/
  baseUrl : Option String
  deriving DecidableEq, Repr

/-- Why there are no options. -/
inductive ConfigError where
  | unreadable (path : String) (reason : FileError)
  /-- The file is no document, or an option in it is no text or given twice. -/
  | malformed
  | mountPrefixIsUrl (mountPrefix : String)
  | baseIsNoFileUrl (baseUrl : String)
  deriving DecidableEq, Repr

def ConfigError.message : ConfigError → String
  | .unreadable path _ => "IO error when reading `" ++ path ++ "`"
  | .malformed => "Config file parsing error"
  | .mountPrefixIsUrl mountPrefix =>
    "Config validation error: mount_prefix `" ++ mountPrefix ++
      "` must be a path segment such as `blog-images`, not a URL"
  | .baseIsNoFileUrl baseUrl =>
    "Config validation error: base_url `" ++ baseUrl ++ "` must be a file URL or a local path"

namespace Config

/-! ## Algorithm -/

/-- Nothing is set. -/
def empty : Config := ⟨none, none⟩

/-- Sets the options that are given. -/
def override (config : Config) (mountPrefix baseUrl : Option String) : Config :=
  ⟨mountPrefix.or config.mountPrefix, baseUrl.or config.baseUrl⟩

/-- Sets an empty option to none. -/
def dropEmpty (option : Option String) : Option String := option.filter (· ≠ "")

/-- Checks the options one after the other; what follows an error is not done,
but the base is gone as soon as it is looked at. -/
def finalize (config : Config) (directory : String) : Config × Except ConfigError Unit :=
  let mountPrefix := dropEmpty config.mountPrefix
  match mountPrefix.filter fun text => FileUrl.looksLikeUrl text.toList with
  | some text => (⟨mountPrefix, config.baseUrl⟩, .error (.mountPrefixIsUrl text))
  | none =>
    match dropEmpty config.baseUrl with
    | none => (⟨mountPrefix, none⟩, .ok ())
    | some base =>
      match FileUrl.ofUrlOrPath? base.toList directory.toList with
      | none => (⟨mountPrefix, none⟩, .error (.baseIsNoFileUrl base))
      | some url => (⟨mountPrefix, some (String.ofList url.render)⟩, .ok ())

end Config

end ServedMedia
