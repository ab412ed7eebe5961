import Mathlib.Data.List.Basic
import ServedMedia.Proofs.Serving

/-!
# Where file URLs are served

Seen from a document, a file URL is a path of ascents and names.  Below a mount each
ascent gives up a name of the mount, as long as there is one, and the names follow:

    clamped (segments ++ (replicate n up ++ names)) =
      (clamped segments).take ((clamped segments).length - n) ++ names
                                                        (clamped_append_ascents_names)

So a file URL is served under what is left of the mount and the names that the target
does not share with the directory of the document.

    resolvePath specifier mount (some document) =
      (targetUrl (clamped mount's segments) ascents (target.drop c), [])     (resolvePath_fileUrl)

Here `c` is where the two part, and there is an ascent for every name of the directory
behind it.
-/

namespace ServedMedia

namespace Path

/-! ## Ascents below a mount -/

theorem foldl_clampedPush_ascents (n : Nat) (stack : List (List Char)) :
    (List.replicate n up).foldl clampedPush stack = stack.drop n := by
  induction n generalizing stack with
  | zero => rfl
  | succ n ih =>
    have hpop : clampedPush stack up = stack.tail := rfl
    rw [List.replicate_succ, List.foldl_cons, hpop, ih, List.drop_tail]

theorem clamped_append_ascents_names (segments : List (List Char)) (n : Nat)
    {names : List (List Char)} (h : ∀ name ∈ names, IsName name) :
    clamped (segments ++ (List.replicate n up ++ names)) =
      (clamped segments).take ((clamped segments).length - n) ++ names := by
  unfold clamped
  rw [List.foldl_append, List.foldl_append, foldl_clampedPush_ascents, foldl_clampedPush_names h,
    List.reverse_append, List.reverse_reverse, List.reverse_drop, List.length_reverse]

theorem clamped_append_here (segments rest : List (List Char)) :
    clamped (segments ++ here :: rest) = clamped (segments ++ rest) := by
  unfold clamped
  rw [List.foldl_append, List.foldl_append, List.foldl_cons]
  rfl

end Path

namespace Resolve

open ServedMedia.Path

/-! ## Where two places part -/

/-- The first `c` names are the same and what comes next is not. -/
structure PartAt (c : Nat) (directory target : List (List Char)) : Prop where
  shared : directory.take c = target.take c
  parted : directory[c]? ≠ target[c]?

theorem PartAt.commonLength_eq {c : Nat} {directory target : List (List Char)}
    (h : PartAt c directory target) : commonLength directory target = c := by
  induction c generalizing directory target with
  | zero =>
    cases directory with
    | nil => rfl
    | cons a as =>
      cases target with
      | nil => rfl
      | cons b bs =>
        have hne : a ≠ b := by simpa using h.parted
        rw [commonLength, if_neg hne]
  | succ c ih =>
    cases directory with
    | nil =>
      have hnil : target = [] := by simpa using h.shared
      exact absurd (by rw [hnil]) h.parted
    | cons a as =>
      cases target with
      | nil => exact absurd h.shared (by simp)
      | cons b bs =>
        obtain ⟨rfl, hshared⟩ : a = b ∧ as.take c = bs.take c := by simpa using h.shared
        rw [commonLength, if_pos rfl, ih ⟨hshared, by simpa using h.parted⟩]

theorem PartAt.ascentAndDescent_eq {c : Nat} {directory target : List (List Char)}
    (h : PartAt c directory target) : ascentAndDescent directory target =
      List.replicate (directory.length - c) up ++ target.drop c := by
  unfold ascentAndDescent
  rw [h.commonLength_eq]

/-! ## Names of file URLs -/

theorem ne_nil_of_mem_fileUrlNames? {text : String} {names : List (List Char)}
    (h : fileUrlNames? text = some names) : ∀ name ∈ names, name ≠ [] := by
  obtain ⟨url, -, rfl⟩ := Option.map_eq_some_iff.1 h
  intro name hmem
  obtain ⟨segment, hsegment, rfl⟩ := List.mem_map.1 hmem
  have hne : segment ≠ [] := by simpa using (List.mem_filter.1 hsegment).2
  exact Canonical.composed_ne_nil (Percent.decode_ne_nil hne)

/-! ## Paths from documents -/

/-- The path from a document is its ascents and names, behind a dot segment if need be. -/
theorem relativeBetween_eq {names target : List (List Char)}
    (hne : ascentAndDescent (directoryOf names) target ≠ []) :
    ∃ front, (front = [] ∨ front = [here]) ∧ relativeBetween names target =
      joinSlash (front ++ ascentAndDescent (directoryOf names) target) := by
  unfold relativeBetween
  dsimp only
  split
  · exact ⟨[], .inl rfl, rfl⟩
  · exact ⟨[here], .inr rfl, (joinSlash_cons_of_ne_nil here hne).symm⟩

/-- Dots hold no slash, so the pieces of such a path are cut apart again. -/
theorem slash_not_mem_pieces {front rest : List (List Char)} (ascents : Nat)
    (hfront : front = [] ∨ front = [here]) (hrest : ∀ name ∈ rest, '/' ∉ name) :
    ∀ piece ∈ front ++ (List.replicate ascents up ++ rest), '/' ∉ piece := by
  intro piece hpiece
  rcases List.mem_append.1 hpiece with hmem | hmem
  · rcases hfront with rfl | rfl
    · cases hmem
    · rw [List.mem_singleton.1 hmem]
      decide
  · rcases List.mem_append.1 hmem with hup | hname
    · rw [List.eq_of_mem_replicate hup]
      decide
    · exact hrest piece hname

section
variable {names target : List (List Char)} {c : Nat} (hpart : PartAt c (directoryOf names) target)
  (hne : target.drop c ≠ []) (hnames : ∀ name ∈ target.drop c, '/' ∉ name ∧ IsName name)
include hpart hne hnames

/-- The text of the path has its segments for pieces, so it is cut at the same places again. -/
theorem exists_pieces_relativeBetween :
    ∃ front, (front = [] ∨ front = [here]) ∧
      (∀ piece ∈ front ++ (List.replicate ((directoryOf names).length - c) up ++ target.drop c),
        '/' ∉ piece) ∧
      relativeBetween names target = joinSlash
        (front ++ (List.replicate ((directoryOf names).length - c) up ++ target.drop c)) := by
  have hsegments : ascentAndDescent (directoryOf names) target ≠ [] := by
    rw [hpart.ascentAndDescent_eq]
    exact List.append_ne_nil_of_right_ne_nil _ hne
  obtain ⟨front, hfront, heq⟩ := relativeBetween_eq hsegments
  exact ⟨front, hfront, slash_not_mem_pieces _ hfront fun name hmem => (hnames name hmem).1,
    by rw [heq, hpart.ascentAndDescent_eq]⟩

theorem clamped_cutSlash_relativeBetween (segments : List (List Char)) :
    clamped (segments ++ cutSlash (relativeBetween names target)) =
      (clamped segments).take
        ((clamped segments).length - ((directoryOf names).length - c)) ++ target.drop c := by
  obtain ⟨front, hfront, hslash, heq⟩ := exists_pieces_relativeBetween hpart hne hnames
  rw [heq, cutSlash_joinSlash (by simp [hne]) hslash,
    ← clamped_append_ascents_names _ _ fun name hmem => (hnames name hmem).2]
  rcases hfront with rfl | rfl
  · rw [List.nil_append]
  · rw [List.singleton_append, clamped_append_here]

theorem getLast?_relativeBetween : (relativeBetween names target).getLast? ≠ some '/' := by
  obtain ⟨front, -, hslash, heq⟩ := exists_pieces_relativeBetween hpart hne hnames
  rw [heq]
  apply getLast?_joinSlash_ne hslash
  rw [← List.append_assoc, List.getLast?_append_of_ne_nil _ hne]
  exact fun hnil => (hnames [] (List.mem_of_getLast? hnil)).2.1 rfl

end

/-! ## Top theorems -/

/-- A place as served below a mount: each ascent gives up a name of the mount, as long as
there is one, and the rest of the target follows. -/
def targetUrl (mount : List (List Char)) (ascents : Nat) (rest : List (List Char)) : String :=
  String.ofList ('/' :: joinSlash (mount.take (mount.length - ascents) ++ rest))

theorem resolvePath_fileUrl {specifier document : String} {names target : List (List Char)}
    {c : Nat} (mount : Option String)
    (hfile : startsWith fileUrlStart specifier.toList = true)
    (htarget : fileUrlNames? (String.ofList (Canonical.composed specifier.toList)) = some target)
    (hbase : fileUrlNames? document = some names)
    (hpart : PartAt c (directoryOf names) target) (hrest : c < target.length)
    (hplain : ∀ name ∈ target.drop c, '/' ∉ name ∧ name ≠ here ∧ name ≠ up) :
    resolvePath specifier mount (some document) =
      (targetUrl (clamped (cutSlash (mount.getD "").toList)) ((directoryOf names).length - c)
        (target.drop c), []) := by
  have hdrop : target.drop c ≠ [] := by simpa using hrest
  have hnames : ∀ name ∈ target.drop c, '/' ∉ name ∧ IsName name := fun name hmem =>
    ⟨(hplain name hmem).1, ne_nil_of_mem_fileUrlNames? htarget name (List.mem_of_mem_drop hmem),
      (hplain name hmem).2⟩
  have hclamped := clamped_cutSlash_relativeBetween hpart hdrop hnames
    (cutSlash (mount.getD "").toList)
  obtain ⟨rest, hrest⟩ := (startsWith_iff _ _).1 hfile
  rcases resolvePath_cases hrest mount (some document) with
    ⟨document', names', target', hsome, hbase', htarget', hresolved⟩ | ⟨hnone, -⟩
  · obtain rfl : document = document' := Option.some.inj hsome
    obtain rfl : names = names' := Option.some.inj (hbase.symm.trans hbase')
    obtain rfl : target = target' := Option.some.inj (htarget.symm.trans htarget')
    obtain ⟨tail, htail⟩ := relativeBetween_start names target
    rw [hresolved, served_eq_clamped (by simp [htail])
      (getLast?_relativeBetween hpart hdrop hnames) (by simp [hclamped, hdrop]), hclamped,
      targetUrl]
  · rcases hnone document rfl with h | h
    · rw [hbase] at h
      cases h
    · rw [htarget] at h
      cases h

/-- One name of the mount is left, and the shared name is the same text only once composed. -/
theorem resolvePath_fileUrl_notes :
    startsWith fileUrlStart "file:///caf%C3%A9/img/my%20cat.png".toList = true ∧
    fileUrlNames? "file:///cafe\u0301/posts/2024/a.mdx" =
      some ["café".toList, "posts".toList, "2024".toList, "a.mdx".toList] ∧
    PartAt 1 ["café".toList, "posts".toList, "2024".toList]
      ["café".toList, "img".toList, "my cat.png".toList] ∧
    resolvePath "file:///caf%C3%A9/img/my%20cat.png" (some "/x/./y//z/")
      (some "file:///cafe\u0301/posts/2024/a.mdx") = ("/x/img/my cat.png", []) := by
  have hfile : startsWith fileUrlStart "file:///caf%C3%A9/img/my%20cat.png".toList = true := by
    decide
  have htarget : fileUrlNames?
      (String.ofList (Canonical.composed "file:///caf%C3%A9/img/my%20cat.png".toList)) =
        some ["café".toList, "img".toList, "my cat.png".toList] := by
    decide +kernel
  have hbase : fileUrlNames? "file:///cafe\u0301/posts/2024/a.mdx" =
      some ["café".toList, "posts".toList, "2024".toList, "a.mdx".toList] := by
    decide +kernel
  have hpart : PartAt 1 ["café".toList, "posts".toList, "2024".toList]
      ["café".toList, "img".toList, "my cat.png".toList] :=
    ⟨by decide, by decide⟩
  refine ⟨hfile, hbase, hpart, (resolvePath_fileUrl (some "/x/./y//z/") hfile htarget hbase hpart
    (by decide) (by decide)).trans ?_⟩
  decide +kernel

/-- A break behind a drive keeps the ascent behind it from being read as one. -/
theorem resolvePath_ne_targetUrl_drive :
    startsWith fileUrlStart "file:///../C:\t../x.png".toList = true ∧
    fileUrlNames? (String.ofList (Canonical.composed "file:///../C:\t../x.png".toList)) =
      some ["C:".toList, up, "x.png".toList] ∧
    fileUrlNames? "file:///a/b" = some ["a".toList, "b".toList] ∧
    PartAt 0 (directoryOf ["a".toList, "b".toList]) ["C:".toList, up, "x.png".toList] ∧
    0 < ["C:".toList, up, "x.png".toList].length ∧
    (∀ name ∈ ["C:".toList, up, "x.png".toList], '/' ∉ name) ∧
    targetUrl (clamped (cutSlash "".toList)) ((directoryOf ["a".toList, "b".toList]).length - 0)
      (["C:".toList, up, "x.png".toList].drop 0) = "/C:/../x.png" ∧
    resolvePath "file:///../C:\t../x.png" none (some "file:///a/b") ≠ ("/C:/../x.png", []) := by
  refine ⟨by decide, by decide +kernel, by decide +kernel, ⟨rfl, by decide⟩, by decide,
    by decide, by decide +kernel, by decide +kernel⟩

end Resolve

end ServedMedia
