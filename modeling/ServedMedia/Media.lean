import ServedMedia.Json.Basic
import ServedMedia.Text.Segments

/-!
# Which specifiers name served media

A specifier qualifies if it is a string, has no protocol other than "file:///",
is relative or a file URL, and has a media extension.  The checks run in this
order and the first one that fails gives the reason.

    qualify v = .ok s → v = .string s                           (eq_string_of_qualify)
-/

namespace ServedMedia

/-- The kind of media that a file extension stands for. -/
inductive MediaKind where
  | image
  | video
  | audio
  deriving DecidableEq, Repr

/-- Why a specifier is left alone. -/
inductive Skip where
  | notString
  | protocol
  | notRelative
  | notMedia
  deriving DecidableEq, Repr

/-- How a file URL without a host begins. -/
def fileUrlStart : List Char := "file:///".toList

/-! ## Algorithm -/

/-- The text after the last dot. -/
def extension? (path : List Char) : Option (List Char) :=
  if '.' ∈ path then some (path.reverse.takeWhile (· ≠ '.')).reverse else none

/-- The kind of media by the lower-cased extension. -/
def MediaKind.ofExtension? (extension : List Char) : Option MediaKind :=
  let name := String.ofList (extension.map Char.toLower)
  if name ∈ ["png", "jpg", "jpeg", "gif", "webp", "svg"] then some .image
  else if name ∈ ["mp4", "webm"] then some .video
  else if name ∈ ["mp3", "wav", "ogg"] then some .audio
  else none

def MediaKind.ofPath? (path : List Char) : Option MediaKind :=
  extension? path >>= MediaKind.ofExtension?

def MediaKind.name : MediaKind → String
  | .image => "image"
  | .video => "video"
  | .audio => "audio"

def Skip.reason : Skip → String
  | .notString => "not a string literal"
  | .protocol => "protocol-prefixed URL"
  | .notRelative => "not a relative path or file URL"
  | .notMedia => "not a media file"

/-- Letters, then "://", and then no third slash. -/
def isProtocolUrl (specifier : List Char) : Bool :=
  let rest := specifier.dropWhile Char.isAlpha
  !(specifier.takeWhile Char.isAlpha).isEmpty &&
    match afterStart? "://".toList rest with
    | some authority => authority.head? != some '/'
    | none => false

def isRelativeOrFile (specifier : List Char) : Bool :=
  startsWith "./".toList specifier || startsWith "../".toList specifier ||
    startsWith fileUrlStart specifier

/-- The specifier if it names served media, or else the first reason against it. -/
def qualify : Json → Except Skip String
  | .string specifier =>
    if isProtocolUrl specifier.toList then .error .protocol
    else if !isRelativeOrFile specifier.toList then .error .notRelative
    else if (MediaKind.ofPath? specifier.toList).isNone then .error .notMedia
    else .ok specifier
  | _ => .error .notString

/-! ## Lemmas -/

theorem fileUrlStart_eq : fileUrlStart = ['f', 'i', 'l', 'e', ':', '/', '/', '/'] := by decide

theorem eq_string_of_qualify {value : Json} {specifier : String}
    (h : qualify value = .ok specifier) : value = .string specifier := by
  unfold qualify at h
  split at h
  · split at h
    · cases h
    · split at h
      · cases h
      · split at h
        · cases h
        · cases h; rfl
  · cases h

end ServedMedia
