import Mathlib.Data.List.Induction
import ServedMedia.Proofs.Clamping

/-!
# Normal forms of paths

What is left of a path when it is read onto a stack can be read again in its place, on
top of whatever is there:

    (reduce false segments).foldl (push absolute) stack =
      segments.foldl (push absolute) stack                          (foldl_push_reduce_false)
    components (normalize path) = reduce (isAbsolute path) (cutSlash path)
                                                                       (components_normalize)

So a normalized path stays as it is, and a part of a path may be normalized before the
path is.  The front must not be empty, for then the slash behind it would start the
path; the rest must not be empty, for the slash in front would end it; and it must not
start with a slash, for then it would lose the ascents that the front could take.

    normalize (front ++ '/' :: rest) = normalize (normalize front ++ '/' :: rest)
    normalize (front ++ '/' :: rest) = normalize (front ++ '/' :: normalize rest)
                                                                         (normalize_rejoined)
-/

namespace ServedMedia.Path

/-! ## Reading again -/

theorem push_of_isIdle {segment : List Char} (h : isIdle segment = true) (absolute : Bool)
    (stack : List (List Char)) : push absolute stack segment = stack := by
  unfold push
  rw [if_pos h]

theorem push_of_isName {segment : List Char} (h : IsName segment) (absolute : Bool)
    (stack : List (List Char)) : push absolute stack segment = segment :: stack := by
  unfold push
  rw [if_neg (by simp [h.isIdle]), if_neg h.2.2]

/-- An ascent takes back the name in front of it, whatever that stands on. -/
theorem push_up_of_isName {name : List Char} (h : IsName name) (absolute : Bool)
    (stack : List (List Char)) : push absolute (name :: stack) up = stack := by
  simp [push, isIdle, up, here, show name ≠ ['.', '.'] from h.2.2]

theorem foldl_push_components (absolute : Bool) (stack : List (List Char)) (path : List Char) :
    (components path).foldl (push absolute) stack =
      (cutSlash path).foldl (push absolute) stack := by
  have hskip : (fun stack segment => if (!isIdle segment) = true then push absolute stack segment
      else stack) = push absolute := by
    funext stack segment
    cases hidle : isIdle segment with
    | true => simp [push_of_isIdle hidle]
    | false => simp
  rw [components, List.foldl_filter, hskip]

/-- One segment more, seen from the front of what is left. -/
theorem reduce_concat (absolute : Bool) (segments : List (List Char)) (segment : List Char) :
    reduce absolute (segments ++ [segment]) =
      (push absolute (reduce absolute segments).reverse segment).reverse := by
  simp [reduce]

theorem isName_or_eq_up_of_mem_reduce {absolute : Bool} {segments : List (List Char)}
    {segment : List Char} (h : segment ∈ reduce absolute segments) :
    IsName segment ∨ segment = up := by
  cases absolute with
  | true => exact .inl (mem_clamped (reduce_true segments ▸ h)).2
  | false =>
    rw [reduce_false] at h
    rcases List.mem_append.1 h with hup | hname
    · exact .inr (List.eq_of_mem_replicate hup)
    · exact .inl (mem_clamped hname).2

/-- An ascent either takes back the last name that is left, or it is left itself. -/
theorem foldl_push_reduce_false (absolute : Bool) (segments stack : List (List Char)) :
    (reduce false segments).foldl (push absolute) stack =
      segments.foldl (push absolute) stack := by
  induction segments using List.reverseRecOn with
  | nil => rfl
  | append_singleton segments segment ih =>
    rw [reduce_concat, List.foldl_append, ← ih, List.foldl_cons, List.foldl_nil]
    by_cases hidle : isIdle segment = true
    · rw [push_of_isIdle hidle, push_of_isIdle hidle, List.reverse_reverse]
    by_cases hup : segment = up
    · subst hup
      rcases List.eq_nil_or_concat (reduce false segments) with hnil | ⟨front, last, hlast⟩
      · rw [hnil]
        rfl
      · rw [List.concat_eq_append] at hlast
        have hmem : last ∈ reduce false segments := by rw [hlast]; simp
        rw [hlast, List.reverse_append, List.reverse_singleton, List.singleton_append]
        rcases isName_or_eq_up_of_mem_reduce hmem with hname | rfl
        · rw [push_up_of_isName hname, List.reverse_reverse, List.foldl_append, List.foldl_cons,
            List.foldl_nil, push_of_isName hname, push_up_of_isName hname]
        · have hkept : push false (up :: front.reverse) up = up :: up :: front.reverse := rfl
          rw [hkept]
          simp
    · have hname := isName_of_not_idle (by simpa using hidle) hup
      rw [push_of_isName hname, List.reverse_cons, List.reverse_reverse, List.foldl_append]
      rfl

/-- What is left from the root are names only. -/
theorem foldl_push_reduce (absolute : Bool) (segments : List (List Char)) :
    (reduce absolute segments).foldl (push absolute) [] = segments.foldl (push absolute) [] := by
  cases absolute with
  | false => exact foldl_push_reduce_false false segments []
  | true =>
    have hnames : ∀ name ∈ reduce true segments, IsName name := fun name hmem =>
      (mem_clamped (reduce_true segments ▸ hmem)).2
    rw [foldl_push_true _ (by simp), foldl_clampedPush_names hnames, List.append_nil, reduce,
      List.reverse_reverse]

/-! ## Normalized paths -/

section
variable {segments : List (List Char)} (hne : segments ≠ [])
  (hfilled : ∀ segment ∈ segments, segment ≠ [] ∧ '/' ∉ segment) (path : List Char)
include hne hfilled

theorem components_rendered :
    components (rendered segments path) = segments.filter fun segment => !isIdle segment := by
  have hslash : ∀ piece ∈ segments ++ closing path, '/' ∉ piece := by
    intro piece hmem
    rcases List.mem_append.1 hmem with hmem | hmem
    · exact (hfilled piece hmem).2
    · unfold closing at hmem
      split at hmem <;> simp_all
  have hclosing : (closing path).filter (fun segment => !isIdle segment) = [] := by
    unfold closing
    split <;> rfl
  rw [components, rendered, cutSlash_joinSlash (by simp [hne]) hslash, List.filter_append,
    hclosing, List.append_nil]

/-- The text begins with the first segment. -/
theorem exists_head?_rendered : ∃ c, (rendered segments path).head? = some c ∧ c ≠ '/' := by
  obtain ⟨first, rest, rfl⟩ := List.exists_cons_of_ne_nil hne
  obtain ⟨hfirst, hslash⟩ := hfilled first List.mem_cons_self
  obtain ⟨c, name, rfl⟩ := List.exists_cons_of_ne_nil hfirst
  refine ⟨c, by rw [rendered, List.cons_append, joinSlash_push, List.head?_cons], ?_⟩
  rintro rfl
  simp at hslash

theorem isAbsolute_rendered : isAbsolute (rendered segments path) = false := by
  obtain ⟨c, hhead, hc⟩ := exists_head?_rendered hne hfilled path
  simpa [isAbsolute, hhead] using hc

theorem rendered_ne_nil : rendered segments path ≠ [] := by
  obtain ⟨c, hhead, -⟩ := exists_head?_rendered hne hfilled path
  intro hnil
  simp [hnil] at hhead

theorem getLast?_rendered :
    (rendered segments path).getLast? = some '/' ↔ path.getLast? = some '/' := by
  have hlast : (joinSlash segments).getLast? ≠ some '/' :=
    getLast?_joinSlash_ne (fun segment hmem => (hfilled segment hmem).2)
      fun hempty => (hfilled [] (List.mem_of_getLast? hempty)).1 rfl
  rw [rendered_eq_append hne]
  by_cases hopen : path.getLast? = some '/' <;> simp [hopen, hlast]

end

/-- The segments of a relative path that are written down. -/
def shown (path : List Char) : List (List Char) :=
  if reduce false (cutSlash path) = [] then [here] else reduce false (cutSlash path)

theorem shown_ne_nil (path : List Char) : shown path ≠ [] := by
  unfold shown
  split
  · simp
  · assumption

theorem filled_of_mem_shown {path segment : List Char} (h : segment ∈ shown path) :
    segment ≠ [] ∧ '/' ∉ segment := by
  unfold shown at h
  split at h
  · rw [List.mem_singleton.1 h]
    decide
  · exact mem_reduce h

theorem normalize_of_relative {path : List Char} (h : isAbsolute path = false) :
    normalize path = rendered (shown path) path := normalize_of_not_isAbsolute h

theorem filled_of_mem_clamped {path segment : List Char} (h : segment ∈ clamped (cutSlash path)) :
    segment ≠ [] ∧ '/' ∉ segment :=
  ⟨(mem_clamped h).2.1, slash_not_mem_of_mem_cutSlash (mem_clamped h).1⟩

theorem filter_reduce (absolute : Bool) (segments : List (List Char)) :
    (reduce absolute segments).filter (fun segment => !isIdle segment) =
      reduce absolute segments := by
  rw [List.filter_eq_self]
  intro segment hmem
  rcases isName_or_eq_up_of_mem_reduce hmem with hname | rfl
  · simp [hname.isIdle]
  · decide

theorem components_normalize (path : List Char) :
    components (normalize path) = reduce (isAbsolute path) (cutSlash path) := by
  cases habs : isAbsolute path with
  | true =>
    rw [normalize_of_isAbsolute habs, reduce_true]
    split
    · next hnames =>
      rw [hnames]
      rfl
    · next hnames =>
      have hroot : components ('/' :: rendered (clamped (cutSlash path)) path) =
          components (rendered (clamped (cutSlash path)) path) := by
        rw [components, cutSlash_slash, List.filter_cons_of_neg (by simp [isIdle]), components]
      rw [hroot, components_rendered hnames (fun _ => filled_of_mem_clamped), ← reduce_true,
        filter_reduce]
  | false =>
    rw [normalize_of_relative habs,
      components_rendered (shown_ne_nil path) (fun _ => filled_of_mem_shown)]
    unfold shown
    split
    · next hnil =>
      rw [hnil]
      rfl
    · exact filter_reduce false _

theorem isAbsolute_normalize (path : List Char) : isAbsolute (normalize path) = isAbsolute path := by
  cases habs : isAbsolute path with
  | true =>
    rw [normalize_of_isAbsolute habs]
    split <;> rfl
  | false =>
    rw [normalize_of_relative habs]
    exact isAbsolute_rendered (shown_ne_nil path) (fun _ => filled_of_mem_shown) path

/-- A slash at the end is kept, and the root has one in any case. -/
theorem getLast?_normalize (path : List Char) :
    (normalize path).getLast? = some '/' ↔
      path.getLast? = some '/' ∨ (isAbsolute path = true ∧ clamped (cutSlash path) = []) := by
  cases habs : isAbsolute path with
  | true =>
    rw [normalize_of_isAbsolute habs]
    split
    · next hnames => simp [hnames]
    · next hnames =>
      have hfilled : ∀ name ∈ clamped (cutSlash path), name ≠ [] ∧ '/' ∉ name :=
        fun _ => filled_of_mem_clamped
      rw [List.getLast?_cons_of_ne_nil (rendered_ne_nil hnames hfilled path),
        getLast?_rendered hnames hfilled]
      simp [hnames]
  | false =>
    rw [normalize_of_relative habs,
      getLast?_rendered (shown_ne_nil path) (fun _ => filled_of_mem_shown)]
    simp

theorem normalize_ne_nil (path : List Char) : normalize path ≠ [] := by
  cases habs : isAbsolute path with
  | true =>
    rw [normalize_of_isAbsolute habs]
    split <;> simp
  | false =>
    rw [normalize_of_relative habs]
    exact rendered_ne_nil (shown_ne_nil path) (fun _ => filled_of_mem_shown) path

/-- All that counts about a path: where it starts, what it reads as, and how it ends. -/
theorem normalize_congr {path other : List Char} (habs : isAbsolute path = isAbsolute other)
    (hreduce : reduce (isAbsolute other) (cutSlash path) =
      reduce (isAbsolute other) (cutSlash other))
    (hlast : path.getLast? = some '/' ↔ other.getLast? = some '/') :
    normalize path = normalize other := by
  unfold normalize
  simp only [habs, hreduce, hlast]

/-! ## Paths in two parts -/

theorem isAbsolute_append {front : List Char} (h : front ≠ []) (rest : List Char) :
    isAbsolute (front ++ rest) = isAbsolute front := by
  obtain ⟨c, front, rfl⟩ := List.exists_cons_of_ne_nil h
  rfl

theorem getLast?_append_slash (front rest : List Char) :
    (front ++ '/' :: rest).getLast? = ('/' :: rest).getLast? := by
  rw [List.getLast?_append, List.getLast?_cons]
  rfl

theorem reduce_append_slash (absolute : Bool) (front rest : List Char) :
    reduce absolute (cutSlash (front ++ '/' :: rest)) =
      ((cutSlash rest).foldl (push absolute)
        ((cutSlash front).foldl (push absolute) [])).reverse := by
  rw [reduce, cutSlash_append_slash, List.foldl_append]

/-- The segments of a normalized path leave the same on the empty stack. -/
theorem foldl_push_normalize (path : List Char) :
    (cutSlash (normalize path)).foldl (push (isAbsolute path)) [] =
      (cutSlash path).foldl (push (isAbsolute path)) [] := by
  rw [← foldl_push_components, components_normalize, foldl_push_reduce]

/-- Those of a relative path do so on every stack. -/
theorem foldl_push_normalize_relative {path : List Char} (h : isAbsolute path = false)
    (absolute : Bool) (stack : List (List Char)) :
    (cutSlash (normalize path)).foldl (push absolute) stack =
      (cutSlash path).foldl (push absolute) stack := by
  rw [← foldl_push_components, components_normalize, h, foldl_push_reduce_false]

/-! ## The three laws -/

theorem normalize_normalize (path : List Char) : normalize (normalize path) = normalize path := by
  by_cases hroot : isAbsolute path = true ∧ clamped (cutSlash path) = []
  · rw [normalize_of_isAbsolute hroot.1, if_pos hroot.2]
    rfl
  · refine normalize_congr (isAbsolute_normalize path) ?_ ?_
    · rw [reduce, foldl_push_normalize, reduce]
    · rw [getLast?_normalize, or_iff_left hroot]

theorem normalize_append_slash {front : List Char} (h : front ≠ []) (rest : List Char) :
    normalize (front ++ '/' :: rest) = normalize (normalize front ++ '/' :: rest) := by
  have habs := isAbsolute_append h ('/' :: rest)
  symm
  refine normalize_congr ?_ ?_ ?_
  · rw [habs, isAbsolute_append (normalize_ne_nil front), isAbsolute_normalize]
  · rw [reduce_append_slash, reduce_append_slash, habs, foldl_push_normalize]
  · rw [getLast?_append_slash, getLast?_append_slash]

theorem normalize_slash_append {front rest : List Char} (hfront : front ≠ []) (hrest : rest ≠ [])
    (hrel : isAbsolute rest = false) :
    normalize (front ++ '/' :: rest) = normalize (front ++ '/' :: normalize rest) := by
  symm
  refine normalize_congr ?_ ?_ ?_
  · rw [isAbsolute_append hfront, isAbsolute_append hfront]
  · rw [reduce_append_slash, reduce_append_slash, foldl_push_normalize_relative hrel]
  · rw [getLast?_append_slash, getLast?_append_slash, List.getLast?_cons_of_ne_nil hrest,
      List.getLast?_cons_of_ne_nil (normalize_ne_nil rest), getLast?_normalize]
    simp [hrel]

/-! ## Top theorems -/

theorem normalize_rejoined :
    (∀ path, normalize (normalize path) = normalize path) ∧
    (∀ front rest, front ≠ [] →
      normalize (front ++ '/' :: rest) = normalize (normalize front ++ '/' :: rest)) ∧
    ∀ front rest, front ≠ [] → rest ≠ [] → isAbsolute rest = false →
      normalize (front ++ '/' :: rest) = normalize (front ++ '/' :: normalize rest) :=
  ⟨normalize_normalize, fun _ rest hfront => normalize_append_slash hfront rest,
    fun _ _ hfront hrest hrel => normalize_slash_append hfront hrest hrel⟩

/-- A front that ascends once more than it descends, and a rest that begins with an ascent. -/
theorem normalize_rejoined_ascents :
    "x/../..".toList ≠ [] ∧ ".././b//c/../".toList ≠ [] ∧
    isAbsolute ".././b//c/../".toList = false ∧
    normalize "x/../../.././b//c/../".toList = normalize "../.././b//c/../".toList ∧
    normalize "x/../../.././b//c/../".toList = normalize "x/../../../b/".toList := by
  have hfront : normalize "x/../..".toList = "..".toList := by decide
  have hrest : normalize ".././b//c/../".toList = "../b/".toList := by decide
  have h := normalize_rejoined.2.1 "x/../..".toList ".././b//c/../".toList (by decide)
  have h' := normalize_rejoined.2.2 "x/../..".toList ".././b//c/../".toList (by decide)
    (by decide) (by decide)
  rw [hfront] at h
  rw [hrest] at h'
  exact ⟨by decide, by decide, by decide, h, h'⟩

/-- From the root the ascent is lost, but behind a name it is not. -/
example : normalize "a//../b".toList = "b".toList ∧
    normalize ("a/".toList ++ normalize "/../b".toList) = "a/b".toList := by
  decide

end ServedMedia.Path
