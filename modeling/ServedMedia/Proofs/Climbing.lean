import Mathlib.Data.List.Infix
import Mathlib.Data.List.Induction
import Mathlib.Data.List.TakeWhile
import ServedMedia.Path

/-!
# The directories that a path lies in

By its text alone a path lies in one directory for every shorter run of its components
from the start.  The directory is the shortest text that the path begins with and that
leads along this run: `IsAncestor`, which counts the path itself in.  Climbing finds
them all and one after the other, from the longest run to the empty one:

    (ancestors path).map steps = (steps path).inits.reverse               (map_steps_ancestors)
    directory ∈ ancestors path ↔ IsAncestor directory path                   (mem_ancestors_iff)
    (ancestors path).Pairwise fun inner outer => outer.length < inner.length
                                                                           (pairwise_ancestors)

So the first of them with some property is the longest one.
-/

namespace ServedMedia.Path

/-! ## Steps -/

/-- The first piece of a path as a component.  It is empty at the root, and "." counts here. -/
def opening (first : List Char) : List (List Char) := if first = [] then [] else [first]

/-- The components that a path leads along; "." is one at the start of a relative path only. -/
def steps (path : List Char) : List (List Char) :=
  match cutSlash path with
  | [] => []
  | first :: rest => opening first ++ rest.filter fun segment => !isIdle segment

/-- A directory that a path lies in by its text, and not the path itself: a beginning that
leads along fewer of its components, of all those that say the same the shortest. -/
structure IsAround (directory path : List Char) : Prop where
  beginning : directory <+: path
  rooted : isAbsolute directory = isAbsolute path
  steps_begin : steps directory <+: steps path
  steps_ne : steps directory ≠ steps path
  shortest : ∀ other, other <+: path → isAbsolute other = isAbsolute path →
    steps other = steps directory → directory <+: other

/-- A path itself, or a directory that it lies in. -/
def IsAncestor (directory path : List Char) : Prop := directory = path ∨ IsAround directory path

theorem steps_of_cutSlash {path first : List Char} {rest : List (List Char)}
    (h : cutSlash path = first :: rest) :
    steps path = opening first ++ rest.filter fun segment => !isIdle segment := by
  rw [steps, h]

theorem steps_append_slash (before after : List Char) :
    steps (before ++ '/' :: after) = steps before ++ components after := by
  obtain ⟨first, rest, hcut⟩ := List.exists_cons_of_ne_nil (cutSlash_ne_nil before)
  have happend : cutSlash (before ++ '/' :: after) = first :: (rest ++ cutSlash after) := by
    rw [cutSlash_append_slash, hcut, List.cons_append]
  rw [steps_of_cutSlash hcut, steps_of_cutSlash happend, List.filter_append, List.append_assoc,
    components]

theorem isIdle_of_append {segment : List Char} {c : Char} (h : isIdle (segment ++ [c]) = true) :
    isIdle segment = true := by
  have hcases : segment ++ [c] = [] ∨ segment ++ [c] = ['.'] := by simpa [isIdle, here] using h
  rcases hcases with hnil | hdot
  · simp at hnil
  · have hempty : segment = [] := by
      have hlength := congrArg List.length hdot
      rw [List.length_append] at hlength
      exact List.length_eq_zero_iff.1 (by simpa using hlength)
    rw [hempty]
    rfl

/-- One character more takes no component away. -/
theorem length_steps_le_concat (path : List Char) (c : Char) :
    (steps path).length ≤ (steps (path ++ [c])).length := by
  by_cases hc : c = '/'
  · rw [hc, steps_append_slash, List.length_append]
    exact Nat.le_add_right _ _
  · have hfree : '/' ∉ [c] := by simpa using Ne.symm hc
    obtain ⟨pieces, last, hcut, hlonger⟩ := cutSlash_append_of_not_mem path hfree
    cases pieces with
    | nil =>
      rw [steps_of_cutSlash hcut, steps_of_cutSlash hlonger]
      simp only [opening, List.filter_nil, List.append_nil]
      split <;> simp
    | cons first pieces =>
      rw [List.cons_append] at hcut hlonger
      rw [steps_of_cutSlash hcut, steps_of_cutSlash hlonger, List.filter_append,
        List.filter_append, List.length_append, List.length_append, List.length_append,
        List.length_append]
      have hlast : ([last].filter fun segment => !isIdle segment).length ≤
          ([last ++ [c]].filter fun segment => !isIdle segment).length := by
        cases hidle : isIdle (last ++ [c]) with
        | true => simp [isIdle_of_append hidle, hidle]
        | false =>
          have hle := List.length_filter_le (fun segment => !isIdle segment) [last]
          simpa [hidle] using hle
      omega

theorem length_steps_le {path other : List Char} (h : path <+: other) :
    (steps path).length ≤ (steps other).length := by
  obtain ⟨rest, rfl⟩ := h
  induction rest using List.reverseRecOn with
  | nil => rw [List.append_nil]
  | append_singleton rest c ih =>
    rw [← List.append_assoc]
    exact Nat.le_trans ih (length_steps_le_concat _ c)

/-! ## Texts that cannot be cut -/

section
variable {piece other : List Char} (hfree : '/' ∉ piece)
include hfree

theorem eq_of_steps_of_not_mem (hne : piece ≠ []) (hother : other <+: piece)
    (hsteps : steps other = steps piece) : other = piece := by
  have hotherFree : '/' ∉ other := fun hmem => hfree (hother.subset hmem)
  rw [steps_of_cutSlash (cutSlash_of_not_mem hotherFree),
    steps_of_cutSlash (cutSlash_of_not_mem hfree)] at hsteps
  simp only [opening, if_neg hne, List.filter_nil, List.append_nil] at hsteps
  split at hsteps
  · cases hsteps
  · exact List.singleton_inj.1 hsteps

theorem steps_append_piece (front : List Char) : steps (front ++ '/' :: piece) =
    steps front ++ if isIdle piece = true then [] else [piece] := by
  rw [steps_append_slash, components, cutSlash_of_not_mem hfree]
  cases hidle : isIdle piece <;> simp [hidle]

/-- In front of the last slash a component is missing, and behind it the last one is another. -/
theorem eq_of_steps_append_slash {front : List Char} (hidle : isIdle piece = false)
    (hother : other <+: front ++ '/' :: piece)
    (hsteps : steps other = steps (front ++ '/' :: piece)) : other = front ++ '/' :: piece := by
  rw [steps_append_piece hfree, if_neg (by simp [hidle])] at hsteps
  rcases Nat.lt_or_ge other.length (front ++ ['/']).length with hlt | hge
  · have hshort : other <+: front := by
      rw [List.length_append, List.length_singleton] at hlt
      exact List.prefix_of_prefix_length_le hother (List.prefix_append _ _) (by omega)
    have hle := length_steps_le hshort
    rw [hsteps, List.length_append, List.length_singleton] at hle
    omega
  · obtain ⟨rest, rfl⟩ : front ++ ['/'] <+: other :=
      List.prefix_of_prefix_length_le (by simp) hother hge
    rw [List.append_assoc, List.singleton_append] at hother hsteps ⊢
    have hbehind : rest <+: piece :=
      (List.cons_prefix_cons.1 ((List.prefix_append_right_inj front).1 hother)).2
    rw [steps_append_piece fun hmem => hfree (hbehind.subset hmem)] at hsteps
    have hlast := List.append_cancel_left hsteps
    split at hlast
    · cases hlast
    · rw [List.singleton_inj.1 hlast]

end

/-! ## Climbing -/

theorem suffix_of_mem_climb {segments directory : List (List Char)}
    (h : directory ∈ climb segments) : directory <:+ segments := by
  induction segments with
  | nil => simp [climb] at h
  | cons segment rest ih =>
    rw [climb] at h
    split at h
    · exact (ih h).trans (List.suffix_cons _ _)
    · rcases List.mem_cons.1 h with rfl | h
      · exact (List.dropWhile_suffix _).trans (List.suffix_cons _ _)
      · exact (ih h).trans (List.suffix_cons _ _)

theorem prefix_of_mem_climb {segments rest : List (List Char)}
    (h : segments ∈ climb rest.reverse) :
    segments.reverse <+: rest := by
  have hsuffix := suffix_of_mem_climb h
  rwa [← List.reverse_prefix, List.reverse_reverse] at hsuffix

/-- What climbing finds ends in a component, and not in a segment that says nothing. -/
theorem isIdle_head_of_mem_climb {segments rest : List (List Char)} {last : List Char}
    (h : last :: rest ∈ climb segments) : isIdle last = false := by
  induction segments with
  | nil => simp [climb] at h
  | cons segment segments ih =>
    rw [climb] at h
    split at h
    · exact ih h
    · rcases List.mem_cons.1 h with heq | h
      · have hhead := List.head?_dropWhile_not isIdle segments
        rw [← heq] at hhead
        simpa using hhead
      · exact ih h

theorem filter_dropWhile_isIdle (segments : List (List Char)) :
    (segments.dropWhile isIdle).filter (fun segment => !isIdle segment) =
      segments.filter fun segment => !isIdle segment := by
  have hidles : (segments.takeWhile isIdle).filter (fun segment => !isIdle segment) = [] := by
    rw [List.filter_eq_nil_iff]
    intro segment hmem
    simpa using List.mem_takeWhile_imp hmem
  conv_rhs => rw [← List.takeWhile_append_dropWhile (p := isIdle) (l := segments),
    List.filter_append, hidles, List.nil_append]

theorem dropWhile_isIdle_concat {first : List Char} (h : isIdle first = false)
    (segments : List (List Char)) :
    (segments ++ [first]).dropWhile isIdle = segments.dropWhile isIdle ++ [first] := by
  rw [List.dropWhile_append]
  split
  · next hempty =>
    rw [List.isEmpty_iff.1 hempty, List.dropWhile_cons_of_neg (by simp [h]), List.nil_append]
  · rfl

/-- Every component is climbed over once. -/
theorem map_filter_climb (segments : List (List Char)) :
    (segments.filter fun segment => !isIdle segment) ::
        (climb segments).map (List.filter fun segment => !isIdle segment) =
      (segments.filter fun segment => !isIdle segment).tails := by
  induction segments with
  | nil => rfl
  | cons segment rest ih =>
    rw [climb]
    cases hidle : isIdle segment with
    | true =>
      rw [List.filter_cons_of_neg (by simp [hidle]), if_pos rfl]
      exact ih
    | false =>
      rw [List.filter_cons_of_pos (by simp [hidle]), if_neg (by simp), List.map_cons,
        filter_dropWhile_isIdle, ih]
      rfl

/-- A first component is climbed over last. -/
theorem climb_concat {first : List Char} (h : isIdle first = false) (segments : List (List Char)) :
    climb (segments ++ [first]) = (climb segments).map (· ++ [first]) ++ [[]] := by
  induction segments with
  | nil => simp [climb, h]
  | cons segment rest ih =>
    rw [List.cons_append, climb, climb, ih]
    split
    · rfl
    · rw [dropWhile_isIdle_concat h, List.map_cons, List.cons_append]

/-! ## Texts -/

/-- The text of a directory, from the first piece of a path and the segments behind it. -/
def textOf (first : List Char) (segments : List (List Char)) : List Char :=
  if first = [] ∧ segments = [] then ['/'] else joinSlash (first :: segments)

/-- A path without a first piece is empty, or it starts at the root. -/
theorem isAbsolute_of_cutSlash {path first : List Char} {rest : List (List Char)}
    (h : cutSlash path = first :: rest) :
    isAbsolute path = true ↔ first = [] ∧ rest ≠ [] := by
  have hpath := joinSlash_cutSlash path
  rw [h] at hpath
  cases first with
  | nil =>
    by_cases hrest : rest = []
    · rw [← hpath, hrest]
      simp [isAbsolute, joinSlash]
    · rw [← hpath, joinSlash_cons_of_ne_nil [] hrest]
      simp [isAbsolute, hrest]
  | cons c first =>
    have hc : c ≠ '/' := by
      have hslash : '/' ∉ c :: first := slash_not_mem_of_mem_cutSlash (by rw [h]; simp)
      rintro rfl
      simp at hslash
    rw [← hpath, joinSlash_push]
    simp [isAbsolute, hc]

theorem parents_of_cutSlash {path first : List Char} {rest : List (List Char)}
    (h : cutSlash path = first :: rest) :
    parents path = (climb rest.reverse).map (fun segments => textOf first segments.reverse) ++
      (if first = [] then [] else [[]]) := by
  have hroot := isAbsolute_of_cutSlash h
  unfold parents
  rw [h]
  dsimp only
  by_cases habs : isAbsolute path = true
  · obtain ⟨rfl, -⟩ := hroot.1 habs
    rw [if_pos habs, if_pos rfl, List.append_nil, List.map_map]
    refine List.map_congr_left fun segments _ => ?_
    by_cases hnil : segments = []
    · simp [hnil, textOf, joinSlash]
    · simp [textOf, hnil, joinSlash_cons_of_ne_nil]
  · rw [if_neg habs]
    by_cases hfirst : first = []
    · obtain rfl : rest = [] := by
        by_contra hrest
        exact habs (hroot.2 ⟨hfirst, hrest⟩)
      subst hfirst
      rfl
    · rw [if_neg hfirst]
      split
      · next hhere =>
        subst hhere
        rw [List.map_map]
        rfl
      · next hhere =>
        have hidle : isIdle first = false := by simp [isIdle, hfirst, hhere]
        rw [List.reverse_cons, climb_concat hidle, List.map_append, List.map_map]
        congr 1
        refine List.map_congr_left fun segments _ => ?_
        simp [textOf, hfirst]

/-- Where there are segments, the text ends in the last of them behind a slash. -/
theorem exists_textOf_concat {segments : List (List Char)} {last : List Char}
    (hslash : ∀ segment ∈ segments, '/' ∉ segment) (hlast : segments.getLast? = some last)
    (first : List Char) :
    ∃ front, textOf first segments = front ++ '/' :: last ∧ '/' ∉ last := by
  obtain ⟨front, rfl⟩ := List.getLast?_eq_some_iff.1 hlast
  refine ⟨joinSlash (first :: front), ?_, hslash last (by simp)⟩
  rw [textOf, if_neg (by simp), ← List.cons_append, joinSlash_append (by simp) (by simp)]
  rfl

section
variable {first : List Char} {segments : List (List Char)} (hfirst : '/' ∉ first)
  (hslash : ∀ segment ∈ segments, '/' ∉ segment)
include hfirst hslash

theorem steps_textOf : steps (textOf first segments) =
    opening first ++ segments.filter fun segment => !isIdle segment := by
  unfold textOf
  split
  · next hroot =>
    rw [hroot.1, hroot.2]
    rfl
  · exact steps_of_cutSlash (cutSlash_joinSlash (by simp) (List.forall_mem_cons.2 ⟨hfirst, hslash⟩))

/-- A text that ends in a component cannot be cut and still lead along the same ones. -/
theorem eq_textOf_of_steps (hlast : ∀ last, segments.getLast? = some last → isIdle last = false)
    {other : List Char} (hother : other <+: textOf first segments)
    (hrooted : isAbsolute other = isAbsolute (textOf first segments))
    (hsteps : steps other = steps (textOf first segments)) : other = textOf first segments := by
  cases hend : segments.getLast? with
  | some last =>
    obtain ⟨front, htext, hfree⟩ := exists_textOf_concat hslash hend first
    rw [htext] at hother hsteps ⊢
    exact eq_of_steps_append_slash hfree (hlast last hend) hother hsteps
  | none =>
    obtain rfl := List.getLast?_eq_none_iff.1 hend
    by_cases hnil : first = []
    · have hroot : textOf first [] = ['/'] := by rw [textOf, if_pos ⟨hnil, rfl⟩]
      rw [hroot] at hother hrooted ⊢
      cases other with
      | nil => cases hrooted
      | cons c rest => exact hother.eq_of_length_le (by simp)
    · have hname : textOf first [] = first := by simp [textOf, hnil, joinSlash]
      rw [hname] at hother hsteps ⊢
      exact eq_of_steps_of_not_mem hfirst hnil hother hsteps

end

/-! ## What climbing finds -/

section
variable {path first : List Char} {rest : List (List Char)} (hcut : cutSlash path = first :: rest)
include hcut

theorem slash_not_mem_first : '/' ∉ first := by
  have hmem : first ∈ cutSlash path := by rw [hcut]; exact List.mem_cons_self
  exact slash_not_mem_of_mem_cutSlash hmem

theorem slash_not_mem_of_mem_rest {segments : List (List Char)} (h : segments <+: rest) :
    ∀ segment ∈ segments, '/' ∉ segment := by
  intro segment hmem
  have hpiece : segment ∈ cutSlash path := by
    rw [hcut]
    exact List.mem_cons_of_mem _ (h.subset hmem)
  exact slash_not_mem_of_mem_cutSlash hpiece

/-- The directories outside a path, the last one of which may be the empty text. -/
theorem exists_of_mem_parents {directory : List Char} (h : directory ∈ parents path) :
    (directory = [] ∧ first ≠ []) ∨ ∃ segments, directory = textOf first segments ∧
      segments <+: rest ∧ rest ≠ [] ∧
      ∀ last, segments.getLast? = some last → isIdle last = false := by
  rw [parents_of_cutSlash hcut] at h
  rcases List.mem_append.1 h with hclimb | hempty
  · obtain ⟨segments, hmem, rfl⟩ := List.mem_map.1 hclimb
    refine .inr ⟨segments.reverse, rfl, prefix_of_mem_climb hmem, ?_, fun last hlast => ?_⟩
    · rintro rfl
      simp [climb] at hmem
    · rw [List.getLast?_reverse] at hlast
      obtain ⟨others, rfl⟩ := List.head?_eq_some_iff.1 hlast
      exact isIdle_head_of_mem_climb hmem
  · split at hempty
    · cases hempty
    · next hfirst => exact .inl ⟨List.mem_singleton.1 hempty, hfirst⟩

theorem textOf_begins {segments : List (List Char)} (h : segments <+: rest) (hrest : rest ≠ []) :
    textOf first segments <+: path := by
  have hpath : joinSlash (first :: rest) = path := by rw [← hcut, joinSlash_cutSlash]
  rw [← hpath]
  unfold textOf
  split
  · next hroot =>
    rw [hroot.1, joinSlash_cons_of_ne_nil [] hrest]
    exact List.prefix_append ['/'] _
  · obtain ⟨behind, rfl⟩ := h
    by_cases hbehind : behind = []
    · rw [hbehind, List.append_nil]
    · rw [← List.cons_append, joinSlash_append (by simp) hbehind]
      exact List.prefix_append _ _

theorem prefix_of_mem_parents {directory : List Char} (h : directory ∈ parents path) :
    directory <+: path := by
  rcases exists_of_mem_parents hcut h with ⟨rfl, -⟩ | ⟨segments, rfl, hbegins, hrest, -⟩
  · exact List.nil_prefix
  · exact textOf_begins hcut hbegins hrest

theorem isAbsolute_of_mem_parents {directory : List Char} (h : directory ∈ parents path) :
    isAbsolute directory = isAbsolute path := by
  have hbegins := prefix_of_mem_parents hcut h
  cases directory with
  | nil =>
    have hrelative : isAbsolute path ≠ true := by
      intro habs
      rcases exists_of_mem_parents hcut h with ⟨-, hfirst⟩ | ⟨segments, htext, -⟩
      · exact hfirst ((isAbsolute_of_cutSlash hcut).1 habs).1
      · rw [((isAbsolute_of_cutSlash hcut).1 habs).1, textOf] at htext
        split at htext
        · cases htext
        · next hne =>
          rw [joinSlash_cons_of_ne_nil [] fun hnil => hne ⟨rfl, hnil⟩] at htext
          simp at htext
    simpa [isAbsolute] using hrelative
  | cons c directory =>
    obtain ⟨behind, rfl⟩ := hbegins
    rfl

end

theorem inits_opening_append (first : List Char) (segments : List (List Char)) :
    (opening first ++ segments).inits.reverse =
      (segments.inits.map (opening first ++ ·)).reverse ++ if first = [] then [] else [[]] := by
  unfold opening
  split
  · simp
  · rw [List.singleton_append, List.inits_cons, List.reverse_cons]
    rfl

theorem map_steps_ancestors (path : List Char) :
    (ancestors path).map steps = (steps path).inits.reverse := by
  obtain ⟨first, rest, hcut⟩ := List.exists_cons_of_ne_nil (cutSlash_ne_nil path)
  have hoverComponents : steps path :: (climb rest.reverse).map
        (fun segments => steps (textOf first segments.reverse)) =
      ((rest.filter fun segment => !isIdle segment).inits.map (opening first ++ ·)).reverse := by
    have htails := congrArg (List.map fun names => opening first ++ names.reverse)
      (map_filter_climb rest.reverse)
    rw [List.filter_reverse, List.tails_reverse, List.map_cons, List.reverse_reverse,
      ← steps_of_cutSlash hcut, List.map_map, List.map_reverse, List.map_map] at htails
    have hsteps : ∀ segments ∈ climb rest.reverse, steps (textOf first segments.reverse) =
        opening first ++ (segments.filter fun segment => !isIdle segment).reverse := by
      intro segments hmem
      rw [steps_textOf (slash_not_mem_first hcut)
        (slash_not_mem_of_mem_rest hcut (prefix_of_mem_climb hmem)), List.filter_reverse]
    rw [List.map_congr_left hsteps]
    refine htails.trans (congrArg List.reverse (List.map_congr_left fun names _ => ?_))
    rw [Function.comp, List.reverse_reverse]
  have houtermost : (if first = [] then ([] : List (List Char)) else [[]]).map steps =
      if first = [] then [] else [[]] := by
    split <;> rfl
  rw [ancestors, parents_of_cutSlash hcut, List.map_cons, List.map_append, List.map_map,
    houtermost, steps_of_cutSlash hcut, inits_opening_append, ← hoverComponents,
    steps_of_cutSlash hcut]
  rfl

/-! ## Their order -/

theorem pairwise_inits {α : Type} (items : List α) :
    items.inits.Pairwise fun shorter longer => shorter.length < longer.length := by
  induction items with
  | nil => simp
  | cons item items ih =>
    rw [List.inits_cons, List.pairwise_cons, List.pairwise_map]
    refine ⟨fun longer hmem => ?_, ih.imp fun h => by simpa using h⟩
    obtain ⟨others, -, rfl⟩ := List.mem_map.1 hmem
    simp

theorem pairwise_steps_ancestors (path : List Char) : (ancestors path).Pairwise
    fun inner outer => (steps outer).length < (steps inner).length := by
  have h := pairwise_inits (steps path)
  rw [← List.pairwise_reverse, ← map_steps_ancestors, List.pairwise_map] at h
  exact h

theorem prefix_of_mem_ancestors {path directory : List Char} (h : directory ∈ ancestors path) :
    directory <+: path := by
  obtain ⟨first, rest, hcut⟩ := List.exists_cons_of_ne_nil (cutSlash_ne_nil path)
  rcases List.mem_cons.1 h with rfl | h
  · exact List.prefix_refl _
  · exact prefix_of_mem_parents hcut h

/-- The further out, the shorter. -/
theorem pairwise_ancestors (path : List Char) :
    (ancestors path).Pairwise fun inner outer => outer.length < inner.length := by
  refine (pairwise_steps_ancestors path).imp_of_mem fun hinner houter hlt => ?_
  by_contra hle
  have hbegins := List.prefix_of_prefix_length_le (prefix_of_mem_ancestors hinner)
    (prefix_of_mem_ancestors houter) (Nat.le_of_not_lt hle)
  exact absurd (length_steps_le hbegins) (Nat.not_le_of_lt hlt)

/-! ## Top theorems -/

theorem isAround_of_mem_parents {path directory : List Char} (h : directory ∈ parents path) :
    IsAround directory path := by
  obtain ⟨first, rest, hcut⟩ := List.exists_cons_of_ne_nil (cutSlash_ne_nil path)
  have hsteps : steps directory ∈ (steps path).inits := by
    rw [← List.mem_reverse, ← map_steps_ancestors]
    exact List.mem_map_of_mem (List.mem_cons_of_mem _ h)
  have hfewer := (List.pairwise_cons.1 (pairwise_steps_ancestors path)).1 directory h
  have hbegins := prefix_of_mem_parents hcut h
  have hrooted := isAbsolute_of_mem_parents hcut h
  refine ⟨hbegins, hrooted, (List.mem_inits _ _).1 hsteps, fun heq => ?_, ?_⟩
  · rw [heq] at hfewer
    exact absurd hfewer (Nat.lt_irrefl _)
  · intro other hother hotherRooted hotherSteps
    rcases List.prefix_or_prefix_of_prefix hbegins hother with hle | hcutOff
    · exact hle
    · rcases exists_of_mem_parents hcut h with ⟨rfl, -⟩ | ⟨segments, rfl, hsegments, -, hlast⟩
      · exact List.nil_prefix
      · rw [eq_textOf_of_steps (slash_not_mem_first hcut)
          (slash_not_mem_of_mem_rest hcut hsegments) hlast hcutOff
          (hotherRooted.trans hrooted.symm) hotherSteps]

theorem mem_ancestors_iff (directory path : List Char) :
    directory ∈ ancestors path ↔ IsAncestor directory path := by
  constructor
  · intro h
    rcases List.mem_cons.1 h with rfl | h
    · exact .inl rfl
    · exact .inr (isAround_of_mem_parents h)
  · rintro (rfl | hself)
    · exact List.mem_cons_self
    · have hmem : steps directory ∈ (ancestors path).map steps := by
        rw [map_steps_ancestors, List.mem_reverse, List.mem_inits]
        exact hself.steps_begin
      obtain ⟨other, hother, hsteps⟩ := List.mem_map.1 hmem
      rcases List.mem_cons.1 hother with rfl | hparent
      · exact absurd hsteps.symm hself.steps_ne
      · -- Both are the shortest text that says the same.
        have haround := isAround_of_mem_parents hparent
        have hle := hself.shortest other haround.beginning haround.rooted hsteps
        have hge := haround.shortest directory hself.beginning hself.rooted hsteps.symm
        rw [hle.eq_of_length_le hge.length_le]
        exact hother

/-- Slashes in a row and dot segments behind a directory do not belong to its text. -/
example : ancestors "/a//b/./c/".toList =
    ["/a//b/./c/".toList, "/a//b".toList, "/a".toList, "/".toList] := by
  decide

end ServedMedia.Path
