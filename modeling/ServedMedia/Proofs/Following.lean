import Mathlib.Data.List.Induction
import ServedMedia.Proofs.Relative

/-!
# Where the path from a document leads

A path is followed from a place segment by segment: an ascent takes the last name away,
a name is added, and nothing leads above the root.  Where a directory and a target fork,

    directory = shared ++ back        target = shared ++ rest,

the path from the document ascends once for each name of `back`, all before the names of
`rest`, and leads to the target:

    follow? (directoryOf names) (cutSlash (relativeBetween names target)) = some target
                                                            (follow?_relativeBetween)

No path that leads there has fewer segments, since each of them brings a place nearer to
the target by one at the most                                 (distance_le_of_follow?).
-/

namespace ServedMedia

namespace Path

/-! ## Algorithm -/

/-- The place that one segment leads to; nothing lies above the root. -/
def enter? (place : List (List Char)) (segment : List Char) : Option (List (List Char)) :=
  if isIdle segment then some place
  else if segment = up then if place = [] then none else some place.dropLast
  else some (place ++ [segment])

/-- The place that segments lead to one after the other. -/
def follow? (place segments : List (List Char)) : Option (List (List Char)) :=
  segments.foldlM enter? place

/-! ## Following -/

theorem enter?_of_isName {name : List Char} (h : IsName name) (place : List (List Char)) :
    enter? place name = some (place ++ [name]) := by
  unfold enter?
  rw [if_neg (by simp [h.isIdle]), if_neg h.2.2]

theorem follow?_cons (place rest : List (List Char)) (segment : List Char) :
    follow? place (segment :: rest) = (enter? place segment).bind fun next => follow? next rest :=
  List.foldlM_cons

theorem follow?_append (place before after : List (List Char)) :
    follow? place (before ++ after) =
      (follow? place before).bind fun next => follow? next after :=
  List.foldlM_append

/-- Segments that say nothing may be left out. -/
theorem follow?_filter (place segments : List (List Char)) :
    follow? place (segments.filter fun segment => !isIdle segment) = follow? place segments := by
  induction segments generalizing place with
  | nil => rfl
  | cons segment rest ih =>
    cases hidle : isIdle segment with
    | true =>
      rw [List.filter_cons_of_neg (by simp [hidle]), ih, follow?_cons, enter?, if_pos hidle]
      rfl
    | false =>
      rw [List.filter_cons_of_pos (by simp [hidle]), follow?_cons, follow?_cons]
      exact congrArg _ (funext ih)

theorem follow?_names {names : List (List Char)} (h : ∀ name ∈ names, IsName name)
    (place : List (List Char)) : follow? place names = some (place ++ names) := by
  induction names generalizing place with
  | nil => rw [List.append_nil]; rfl
  | cons name rest ih =>
    rw [follow?_cons, enter?_of_isName (h name List.mem_cons_self), Option.bind_some,
      ih fun other hmem => h other (List.mem_cons_of_mem _ hmem), List.append_assoc,
      List.singleton_append]

/-- As many ascents as a place has names behind another one lead back to that one. -/
theorem follow?_ascents (place back : List (List Char)) :
    follow? (place ++ back) (List.replicate back.length up) = some place := by
  induction back using List.reverseRecOn with
  | nil => rw [List.append_nil]; rfl
  | append_singleton back name ih =>
    have henter : enter? (place ++ (back ++ [name])) up = some (place ++ back) := by
      have hidle : isIdle up = false := by decide
      rw [enter?, if_neg (by simp [hidle]), if_pos rfl, if_neg (by simp), ← List.append_assoc,
        List.dropLast_concat]
    rw [List.length_append, List.length_singleton, List.replicate_succ, follow?_cons, henter,
      Option.bind_some, ih]

end Path

namespace Resolve

open ServedMedia.Path

/-! ## Forks -/

/-- What a directory and a target share from the root, and what is left of each of them:
if anything is left of both, then it begins with different names. -/
structure Fork (directory target shared back rest : List (List Char)) : Prop where
  directory_eq : directory = shared ++ back
  target_eq : target = shared ++ rest
  parted : ∀ name, back.head? = some name → rest.head? ≠ some name

theorem Fork.cons {directory target shared back rest : List (List Char)} (name : List Char)
    (h : Fork directory target shared back rest) :
    Fork (name :: directory) (name :: target) (name :: shared) back rest :=
  ⟨by rw [h.directory_eq, List.cons_append], by rw [h.target_eq, List.cons_append], h.parted⟩

theorem exists_fork (directory target : List (List Char)) :
    ∃ shared back rest, Fork directory target shared back rest := by
  induction directory generalizing target with
  | nil => exact ⟨[], [], target, rfl, rfl, by simp⟩
  | cons name directory ih =>
    cases target with
    | nil => exact ⟨[], name :: directory, [], rfl, rfl, by simp⟩
    | cons other target =>
      by_cases heq : name = other
      · obtain ⟨shared, back, rest, h⟩ := ih target
        rw [← heq]
        exact ⟨name :: shared, back, rest, h.cons name⟩
      · exact ⟨[], name :: directory, other :: target, rfl, rfl, by simp [Ne.symm heq]⟩

section
variable {directory target shared back rest : List (List Char)}

theorem Fork.commonLength_eq (h : Fork directory target shared back rest) :
    commonLength directory target = shared.length := by
  obtain ⟨rfl, rfl, hparted⟩ := h
  induction shared with
  | nil =>
    cases back with
    | nil => rfl
    | cons name back =>
      cases rest with
      | nil => rfl
      | cons other rest =>
        have hne : name ≠ other := fun heq => hparted name rfl (by rw [heq]; rfl)
        rw [List.nil_append, List.nil_append, commonLength, if_neg hne]
        rfl
  | cons name shared ih =>
    rw [List.cons_append, List.cons_append, commonLength, if_pos rfl, ih, List.length_cons]

theorem Fork.ascentAndDescent_eq (h : Fork directory target shared back rest) :
    ascentAndDescent directory target = List.replicate back.length up ++ rest := by
  unfold ascentAndDescent
  dsimp only
  rw [h.commonLength_eq, h.directory_eq, h.target_eq, List.length_append, Nat.add_sub_cancel_left,
    List.drop_left]

end

/-! ## Distances -/

/-- How many names two places do not share, those of both counted. -/
def distance (place target : List (List Char)) : Nat :=
  place.length - commonLength place target + (target.length - commonLength place target)

theorem commonLength_le (place target : List (List Char)) :
    commonLength place target ≤ place.length ∧ commonLength place target ≤ target.length := by
  induction place generalizing target with
  | nil => simp [commonLength]
  | cons name place ih =>
    cases target with
    | nil => simp [commonLength]
    | cons other target =>
      have := ih target
      rw [commonLength, List.length_cons, List.length_cons]
      split <;> omega

/-- One more name of a place is shared or not. -/
theorem commonLength_concat (place target : List (List Char)) (name : List Char) :
    commonLength place target ≤ commonLength (place ++ [name]) target ∧
      commonLength (place ++ [name]) target ≤ commonLength place target + 1 := by
  induction place generalizing target with
  | nil =>
    cases target with
    | nil => simp [commonLength]
    | cons other target =>
      rw [List.nil_append, commonLength]
      split <;> simp [commonLength]
  | cons first place ih =>
    cases target with
    | nil => simp [commonLength]
    | cons other target =>
      have := ih target
      rw [List.cons_append, commonLength, commonLength]
      split <;> omega

theorem distance_concat (place target : List (List Char)) (name : List Char) :
    distance place target ≤ distance (place ++ [name]) target + 1 ∧
      distance (place ++ [name]) target ≤ distance place target + 1 := by
  have hplace := commonLength_le place target
  have hconcat := commonLength_le (place ++ [name]) target
  have hstep := commonLength_concat place target name
  unfold distance
  rw [List.length_append, List.length_singleton] at *
  omega

theorem Fork.distance_eq {directory target shared back rest : List (List Char)}
    (h : Fork directory target shared back rest) :
    distance directory target = back.length + rest.length := by
  unfold distance
  rw [h.commonLength_eq, h.directory_eq, h.target_eq, List.length_append, List.length_append]
  omega

/-- A segment brings a place nearer to the target by one at the most. -/
theorem distance_le_of_enter? {place next target : List (List Char)} {segment : List Char}
    (h : enter? place segment = some next) :
    distance place target ≤ distance next target + 1 := by
  unfold enter? at h
  split at h
  · obtain rfl := Option.some.inj h
    exact Nat.le_add_right _ _
  · split at h
    · split at h
      · cases h
      · next hne =>
        obtain rfl := Option.some.inj h
        obtain ⟨init, name, rfl⟩ := List.eq_nil_or_concat place |>.resolve_left hne
        rw [List.concat_eq_append, List.dropLast_concat]
        exact (distance_concat init target name).2
    · obtain rfl := Option.some.inj h
      exact (distance_concat place target segment).1

theorem distance_le_of_follow? {place next target segments : List (List Char)}
    (h : follow? place segments = some next) :
    distance place target ≤ distance next target + segments.length := by
  induction segments generalizing place with
  | nil =>
    obtain rfl : place = next := Option.some.inj h
    exact Nat.le_add_right _ _
  | cons segment rest ih =>
    rw [follow?_cons] at h
    obtain ⟨middle, henter, hrest⟩ := Option.bind_eq_some_iff.1 h
    have hfirst : distance place target ≤ distance middle target + 1 :=
      distance_le_of_enter? henter
    have hothers := ih hrest
    rw [List.length_cons]
    omega

/-! ## Paths from documents -/

section
variable {names target shared back rest : List (List Char)}
  (hfork : Fork (directoryOf names) target shared back rest)
  (hrest : ∀ name ∈ rest, '/' ∉ name ∧ IsName name)
include hfork hrest

theorem components_relativeBetween :
    components (relativeBetween names target) = List.replicate back.length up ++ rest := by
  have hsegments := hfork.ascentAndDescent_eq
  have hfilter : (List.replicate back.length up ++ rest).filter (fun segment => !isIdle segment) =
      List.replicate back.length up ++ rest := by
    rw [List.filter_eq_self]
    intro segment hmem
    rcases List.mem_append.1 hmem with hup | hname
    · rw [List.eq_of_mem_replicate hup]
      decide
    · rw [(hrest segment hname).2.isIdle]
      rfl
  by_cases hne : ascentAndDescent (directoryOf names) target = []
  · rw [relativeBetween, hne, ← hsegments, hne]
    rfl
  · obtain ⟨front, hfront, heq⟩ := relativeBetween_eq hne
    have hslash := slash_not_mem_pieces back.length hfront fun name hmem => (hrest name hmem).1
    rw [components, heq, hsegments, cutSlash_joinSlash (by simp [← hsegments, hne]) hslash,
      List.filter_append, hfilter]
    rcases hfront with rfl | rfl <;> rfl

/-- The ascents lead back to what is shared, and the names from there to the target. -/
theorem follow?_relativeBetween :
    follow? (directoryOf names) (cutSlash (relativeBetween names target)) = some target := by
  rw [← follow?_filter]
  show follow? _ (components (relativeBetween names target)) = _
  rw [components_relativeBetween hfork hrest, follow?_append, hfork.directory_eq, follow?_ascents,
    Option.bind_some, follow?_names fun name hmem => (hrest name hmem).2, hfork.target_eq]

theorem length_components_relativeBetween_le {other : List Char}
    (hother : follow? (directoryOf names) (cutSlash other) = some target) :
    (components (relativeBetween names target)).length ≤ (components other).length := by
  rw [← follow?_filter] at hother
  have hle : distance (directoryOf names) target ≤
      distance target target + ((cutSlash other).filter fun segment => !isIdle segment).length :=
    distance_le_of_follow? hother
  have hzero : distance target target = 0 := by
    have hfork : Fork target target target [] [] := ⟨by simp, by simp, by simp⟩
    rw [hfork.distance_eq]
    rfl
  rw [hfork.distance_eq, hzero, Nat.zero_add] at hle
  rw [components_relativeBetween hfork hrest, List.length_append, List.length_replicate]
  exact hle

end

/-! ## Top theorems -/

theorem relativePath_leads {url document : String}
    {names target shared back rest : List (List Char)}
    (htarget : fileUrlNames? url = some target) (hbase : fileUrlNames? document = some names)
    (hfork : Fork (directoryOf names) target shared back rest)
    (hplain : ∀ name ∈ rest, '/' ∉ name ∧ name ≠ here ∧ name ≠ up) :
    ∃ path, relativePath url (some document) = (String.ofList path, []) ∧
      follow? (directoryOf names) (cutSlash path) = some target ∧
      components path = List.replicate back.length up ++ rest ∧
      ∀ other, follow? (directoryOf names) (cutSlash other) = some target →
        (components path).length ≤ (components other).length := by
  have hrest : ∀ name ∈ rest, '/' ∉ name ∧ IsName name := by
    intro name hmem
    have hne : name ≠ [] := by
      apply ne_nil_of_mem_fileUrlNames? htarget
      rw [hfork.target_eq]
      exact List.mem_append_right _ hmem
    exact ⟨(hplain name hmem).1, hne, (hplain name hmem).2⟩
  refine ⟨relativeBetween names target, ?_, follow?_relativeBetween hfork hrest,
    components_relativeBetween hfork hrest,
    fun other hother => length_components_relativeBetween_le hfork hrest hother⟩
  simp [relativePath, htarget, hbase]

/-- The name behind the ascent begins with dots, and its last letter was encoded. -/
theorem relativePath_leads_dotted :
    fileUrlNames? "file:///a/..b/%C3%A9.png" = some ["a".toList, "..b".toList, "é.png".toList] ∧
    fileUrlNames? "file:///a/c/d.mdx" = some ["a".toList, "c".toList, "d.mdx".toList] ∧
    Fork ["a".toList, "c".toList] ["a".toList, "..b".toList, "é.png".toList]
      ["a".toList] ["c".toList] ["..b".toList, "é.png".toList] ∧
    ∃ path, relativePath "file:///a/..b/%C3%A9.png" (some "file:///a/c/d.mdx") =
        (String.ofList path, []) ∧
      components path = [up, "..b".toList, "é.png".toList] := by
  have htarget : fileUrlNames? "file:///a/..b/%C3%A9.png" =
      some ["a".toList, "..b".toList, "é.png".toList] := by
    decide +kernel
  have hbase : fileUrlNames? "file:///a/c/d.mdx" =
      some ["a".toList, "c".toList, "d.mdx".toList] := by
    decide +kernel
  have hfork : Fork ["a".toList, "c".toList] ["a".toList, "..b".toList, "é.png".toList]
      ["a".toList] ["c".toList] ["..b".toList, "é.png".toList] :=
    ⟨rfl, rfl, by decide⟩
  obtain ⟨path, hpath, -, hcomponents, -⟩ := relativePath_leads htarget hbase hfork (by decide)
  exact ⟨htarget, hbase, hfork, path, hpath, hcomponents⟩

/-- An ascent that a broken drive keeps in the target is one in the path as well. -/
theorem follow?_relativePath_drive :
    fileUrlNames? "file:///../C:\t../x.png" = some ["C:".toList, up, "x.png".toList] ∧
    fileUrlNames? "file:///a/b" = some ["a".toList, "b".toList] ∧
    (∀ name ∈ ["C:".toList, up, "x.png".toList] ++ ["a".toList, "b".toList], '/' ∉ name) ∧
    follow? (directoryOf ["a".toList, "b".toList])
      (cutSlash (relativePath "file:///../C:\t../x.png" (some "file:///a/b")).1.toList) ≠
        some ["C:".toList, up, "x.png".toList] := by
  refine ⟨by decide +kernel, by decide +kernel, by decide, by decide +kernel⟩

end Resolve

end ServedMedia
