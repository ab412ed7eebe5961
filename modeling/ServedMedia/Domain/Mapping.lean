import ServedMedia.Domain.Folding
import ServedMedia.Domain.Restriction
import ServedMedia.Text.Canonical

/-!
# The text that a domain stands for

Domains that differ only in the case or the style of their characters are the
same.  Each character is mapped to those it stands for, and the whole is
composed canonically.  Only then does it show whether a forbidden character is
left, for one that composes with the next is none.

    normalized? text = some t → no forbidden character is in t     (normalized?_allowed)
-/

namespace ServedMedia.Domain

/-! ## Algorithm -/

/-- ASCII characters that no domain may hold. -/
def isForbidden (c : Char) : Bool :=
  c.toNat ≤ 0x20 || c.toNat == 0x7F || "#/:<>?@[\\]^|%".toList.contains c

/-- What a character stands for in a domain: itself, others, or nothing.  There
is no answer if it may not occur. -/
def mapped? (c : Char) : Option (List Char) :=
  if c.toNat < 0x80 then some [c.toLower]
  else
    match folded? c with
    | some text => some text
    | none => if isDropped c then some [] else if isRefused c then none else some [c]

/-- Whether a character may occur and stands for itself. -/
def isPlain (c : Char) : Bool := mapped? c == some [c]

/-- The text that a domain stands for. -/
def normalized? (text : List Char) : Option (List Char) := do
  let mapped ← text.mapM mapped?
  let composed := Canonical.composed mapped.flatten
  if composed.any isForbidden then none else some composed

/-! ## Lemmas -/

theorem normalized?_allowed {text result : List Char} (h : normalized? text = some result) :
    ∀ c ∈ result, isForbidden c = false := by
  rw [normalized?] at h
  obtain ⟨mapped, -, h⟩ := Option.bind_eq_some_iff.1 h
  simp only at h
  split at h
  · simp at h
  · rename_i hnone
    obtain rfl := Option.some.inj h
    simpa using hnone

end ServedMedia.Domain
