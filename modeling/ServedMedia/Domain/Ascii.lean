import ServedMedia.Domain.Label
import ServedMedia.ListReader

/-!
# Domains in ASCII

A domain is a text of labels between dots, and each of them is written in ASCII
on its own.

    toAscii? text = some domain → domain is ASCII                (toAscii?_ascii)
-/

namespace ServedMedia.Domain

/-! ## Algorithm -/

/-- Whether the directions of labels are unambiguous. -/
def directionsFit (labels : List Label) : Bool :=
  !labels.any (·.characters.any isFromRight) || labels.all (isUniform ·.characters)

/-- The domain of a text in ASCII, which is not empty. -/
def toAscii? (text : List Char) : Option (List Char) := do
  let labels ← (cutAt '.' (← normalized? text)).mapM Label.ofText?
  let domain := ['.'].intercalate (labels.map Label.written)
  if directionsFit labels && !domain.isEmpty then some domain else none

/-! ## Lemmas -/

theorem mem_intercalate {c : Char} {separator : List Char} {pieces : List (List Char)}
    (h : c ∈ separator.intercalate pieces) : c ∈ separator ∨ ∃ piece ∈ pieces, c ∈ piece := by
  induction pieces with
  | nil => simp at h
  | cons piece pieces ih =>
    cases pieces with
    | nil => exact .inr ⟨piece, by simp, by simpa using h⟩
    | cons next rest =>
      rw [List.intercalate_cons_cons] at h
      rcases List.mem_append.1 h with h | h
      · rcases List.mem_append.1 h with h | h
        · exact .inr ⟨piece, by simp, h⟩
        · exact .inl h
      · rcases ih h with h | ⟨p, hp, hc⟩
        · exact .inl h
        · exact .inr ⟨p, List.mem_cons_of_mem _ hp, hc⟩

theorem toAscii?_ascii {text domain : List Char} (h : toAscii? text = some domain) :
    ∀ c ∈ domain, c.toNat < 0x80 := by
  rw [toAscii?] at h
  obtain ⟨normal, -, h⟩ := Option.bind_eq_some_iff.1 h
  obtain ⟨labels, hlabels, h⟩ := Option.bind_eq_some_iff.1 h
  simp only at h
  split at h
  · rw [← Option.some.inj h]
    intro c hc
    rcases mem_intercalate hc with hc | ⟨piece, hpiece, hc⟩
    · simp_all
    · obtain ⟨label, hlabel, rfl⟩ := List.mem_map.1 hpiece
      obtain ⟨piece, -, hlabel⟩ := exists_of_mem_mapM hlabels hlabel
      exact Label.written_ascii hlabel c hc
  · simp at h

end ServedMedia.Domain
