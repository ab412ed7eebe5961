import ServedMedia.FileUrl.Parser
import ServedMedia.Media

/-!
# What is read behind "file:///"

A text that begins with "file:///" always denotes a file URL without a host of its own,
for the third slash ends an empty one.  The path starts at this slash:

    parse? (fileUrlStart ++ rest) = some (ofPathText none ('/' :: trimEnd rest))
                                                                  (parse?_fileUrlStart)
-/

namespace ServedMedia.FileUrl

/-- The text without the blanks at its end. -/
def trimEnd (text : List Char) : List Char := (text.reverse.dropWhile isBlank).reverse

/-! ## Lemmas -/

theorem trimEnd_append_singleton {c : Char} (hc : isBlank c = false) (text : List Char) :
    trimEnd (text ++ [c]) = text ++ [c] := by
  rw [trimEnd, List.reverse_append, List.reverse_singleton, List.singleton_append,
    List.dropWhile_cons_of_neg (by simp [hc]), List.reverse_cons, List.reverse_reverse]

/-- Blanks go at the end alone, and from what follows the start. -/
theorem trim_fileUrlStart (rest : List Char) :
    trim (fileUrlStart ++ rest) = fileUrlStart ++ trimEnd rest := by
  rw [fileUrlStart_eq]
  have hfront : (['f', 'i', 'l', 'e', ':', '/', '/', '/'] ++ rest).dropWhile isBlank =
      ['f', 'i', 'l', 'e', ':', '/', '/', '/'] ++ rest := rfl
  rw [trim, trimEnd, hfront, List.reverse_append, List.dropWhile_append]
  split
  · next hblank =>
    rw [List.isEmpty_iff.1 hblank]
    rfl
  · rw [List.reverse_append, List.reverse_reverse]

theorem scheme?_fileUrlStart (rest : List Char) :
    scheme? (fileUrlStart ++ rest) = some ("file".toList, '/' :: '/' :: '/' :: rest) := by
  have hcut : fileUrlStart ++ rest = "file".toList ++ ':' :: '/' :: '/' :: '/' :: rest := by
    rw [fileUrlStart_eq]
    rfl
  have hscheme : ∀ c ∈ "file".toList, (isSchemeChar c || isBreak c) = true :=
    List.all_eq_true.1 (by decide)
  have htake : (fileUrlStart ++ rest).takeWhile (fun c => isSchemeChar c || isBreak c) =
      "file".toList := by
    rw [hcut, List.takeWhile_append_of_pos hscheme]
    rfl
  have hdrop : (fileUrlStart ++ rest).dropWhile (fun c => isSchemeChar c || isBreak c) =
      ':' :: '/' :: '/' :: '/' :: rest := by
    rw [hcut, List.dropWhile_append_of_pos hscheme]
    rfl
  have hname : (unbroken "file".toList).map Char.toLower = "file".toList := by decide
  unfold scheme?
  simp only [htake, hdrop, hname]
  rw [hcut]
  rfl

theorem afterSlash?_slash (rest : List Char) : afterSlash? ('/' :: rest) = some rest := by
  rw [afterSlash?, List.dropWhile_cons_of_neg (by decide)]
  rfl

theorem ofAuthority?_slash (rest : List Char) :
    ofAuthority? ('/' :: rest) = some (ofPathText none ('/' :: rest)) := by
  have hends : (isSlash '/' || endsPath '/') = true := by decide
  unfold ofAuthority?
  simp only [List.takeWhile_cons, List.dropWhile_cons, hends]
  rfl

/-- The third slash ends the host, which is empty. -/
theorem ofLocation?_of_slashes (rest : List Char) :
    ofLocation? ('/' :: '/' :: '/' :: rest) = some (ofPathText none ('/' :: rest)) := by
  unfold ofLocation?
  simp only [afterSlash?_slash]
  exact ofAuthority?_slash rest

/-! ## Top theorems -/

theorem parse?_fileUrlStart (rest : List Char) :
    parse? (fileUrlStart ++ rest) = some (ofPathText none ('/' :: trimEnd rest)) := by
  unfold parse?
  simp only [trim_fileUrlStart, scheme?_fileUrlStart, if_true]
  exact ofLocation?_of_slashes (trimEnd rest)

end ServedMedia.FileUrl
