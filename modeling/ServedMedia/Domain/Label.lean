import ServedMedia.Domain.Direction
import ServedMedia.Domain.Joining
import ServedMedia.Domain.Mapping
import ServedMedia.Domain.Punycode
import ServedMedia.Text.Segments

/-!
# Labels of domains

A label is written in ASCII and stands for characters.  What begins with "xn--"
is the Punycode of its characters, and others are written in Punycode if they
are not ASCII.

    Label.ofText? text = some label → label is written in ASCII     (Label.written_ascii)
-/

namespace ServedMedia.Domain

/-! ## Algorithm -/

structure Label where
  /-- The label in ASCII. -/
  written : List Char
  /-- The characters it stands for. -/
  characters : List Char
  deriving DecidableEq, Repr

def isAscii (c : Char) : Bool := c.toNat < 0x80

/-- How a label in Punycode begins. -/
def codeMark : List Char := ['x', 'n', '-', '-']

/-- Whether a label may hold its characters where they are. -/
def isWellFormed (characters : List Char) : Bool :=
  !characters.head?.any isMark && joinersFit [] characters

/-- Whether characters stand for themselves. -/
def isNormal (characters : List Char) : Bool :=
  characters.all isPlain && Canonical.composed characters == characters

namespace Label

/-- The label of a text behind the mark of Punycode. -/
def ofCode? (code : List Char) : Option Label :=
  if code.all isAscii then
    match Punycode.decode? code with
    | none => none
    | some characters =>
      if isNormal characters && isWellFormed characters then some ⟨codeMark ++ code, characters⟩
      else none
  else none

/-- The label that a normalized text denotes. -/
def ofText? (text : List Char) : Option Label :=
  match afterStart? codeMark text with
  | some code => ofCode? code
  | none =>
    if text.all isAscii then some ⟨text, text⟩
    else if isWellFormed text then
      (Punycode.encode? text).map fun code => ⟨codeMark ++ code, text⟩
    else none

/-! ## Lemmas -/

theorem codeMark_ascii : ∀ c ∈ codeMark, c.toNat < 0x80 := by simp [codeMark]

theorem ofCode?_written {code : List Char} {label : Label} (h : ofCode? code = some label) :
    label.written = codeMark ++ code ∧ ∀ c ∈ code, c.toNat < 0x80 := by
  rw [ofCode?] at h
  split at h
  · rename_i hcode
    refine ⟨?_, by simpa [isAscii] using hcode⟩
    split at h
    · simp at h
    · split at h
      · rw [← Option.some.inj h]
      · simp at h
  · simp at h

theorem written_ascii {text : List Char} {label : Label} (h : ofText? text = some label) :
    ∀ c ∈ label.written, c.toNat < 0x80 := by
  have append_ascii {code : List Char} (hcode : ∀ c ∈ code, c.toNat < 0x80) :
      ∀ c ∈ codeMark ++ code, c.toNat < 0x80 := by
    intro c hc
    rcases List.mem_append.1 hc with hc | hc
    · exact codeMark_ascii c hc
    · exact hcode c hc
  rw [ofText?] at h
  split at h
  · obtain ⟨hwritten, hcode⟩ := ofCode?_written h
    rw [hwritten]
    exact append_ascii hcode
  · split at h
    · rename_i htext
      rw [← Option.some.inj h]
      simpa [isAscii] using htext
    · split at h
      · obtain ⟨code, hcode, rfl⟩ := Option.map_eq_some_iff.1 h
        exact append_ascii (Punycode.encode?_ascii hcode)
      · simp at h

end Label

end ServedMedia.Domain
