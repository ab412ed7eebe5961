import ServedMedia.FileUrl.Parser
import ServedMedia.Media
import ServedMedia.Path

/-!
# From specifiers to served URLs

A relative specifier is joined to the mount and normalized; what ascends above
the mount's root is dropped.  A file URL is first made relative to the document
that imports it:

    base directory  a/b/c     target  a/d/e.png     relative  ../../d/e.png

Without a usable base the URL keeps its absolute path, and a diagnostic says why.
-/

namespace ServedMedia

/-- What went wrong without stopping a resolution. -/
inductive Diagnostic where
  | missingBaseUrl (specifier : String)
  | invalidFileUrl (url specifier : String)
  deriving DecidableEq, Repr

def Diagnostic.message : Diagnostic → String
  | .missingBaseUrl specifier =>
    "provide the `base_url` option to resolve `" ++ specifier ++
      "` against the compiled document"
  | .invalidFileUrl url specifier =>
    "`" ++ url ++ "` is not a valid file URL, leaving `" ++ specifier ++ "` unresolved"

namespace Resolve

/-! ## Algorithm -/

/-- Whether a file name has a dot after its first character. -/
def hasExtension (name : List Char) : Bool := (name.drop 1).contains '.'

/-- The length of the longest common beginning. -/
def commonLength : List (List Char) → List (List Char) → Nat
  | a :: as, b :: bs => if a = b then commonLength as bs + 1 else 0
  | _, _ => 0

/-- The segments that lead from one directory to another place: an ascent for
every name that is not shared, then the rest of the target. -/
def ascentAndDescent (directory target : List (List Char)) : List (List Char) :=
  let common := commonLength directory target
  List.replicate (directory.length - common) Path.up ++ target.drop common

/-- The directory of a document: its last name is dropped if that is a file's. -/
def directoryOf (names : List (List Char)) : List (List Char) :=
  match names.getLast? with
  | some last => if hasExtension last then names.dropLast else names
  | none => names

/-- The names along a file URL. -/
def fileUrlNames? (url : String) : Option (List (List Char)) :=
  (FileUrl.parse? url.toList).map FileUrl.names

/-- The relative path from the directory of `base` to `target`. -/
def relativeBetween (base target : List (List Char)) : List Char :=
  let path := joinSlash (ascentAndDescent (directoryOf base) target)
  if startsWith Path.up path then path else "./".toList ++ path

/-- A file URL as seen from the document at `base`.  If that cannot be told the
URL stays as it is. -/
def relativePath (url : String) (base : Option String) : String × List Diagnostic :=
  match base with
  | none => (url, [.missingBaseUrl url])
  | some base =>
    match fileUrlNames? url with
    | none => (url, [.invalidFileUrl url url])
    | some target =>
      match fileUrlNames? base with
      | none => (url, [.invalidFileUrl base url])
      | some base => (String.ofList (relativeBetween base target), [])

/-- A path below the mount as a URL: rooted, with no ascent left. -/
def served (mount path : List Char) : List Char :=
  let joined := Path.normalize (if mount.isEmpty then path else mount ++ '/' :: path)
  '/' :: dropSlashes (Path.stripAscent joined)

/-- The URL that a specifier is served under. -/
def resolvePath (specifier : String) (mount base : Option String) : String × List Diagnostic :=
  let mount := trimSlashes (mount.getD "").toList
  let specifier := Canonical.composed specifier.toList
  let (path, diagnostics) :=
    if startsWith fileUrlStart specifier then
      let (path, diagnostics) := relativePath (String.ofList specifier) base
      (path.toList, diagnostics)
    else (specifier, [])
  let path := (afterStart? fileUrlStart path).getD path
  (String.ofList (served mount path), diagnostics)

end Resolve

end ServedMedia
