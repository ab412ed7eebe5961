import Mathlib.Data.List.TakeDrop
import Mathlib.Data.Set.Operations
import Mathlib.Order.Bounds.Basic
import ServedMedia.Proofs.Relative

/-!
# What a mount adds

Segments that are read behind others add their own names, and they take a name away from
the others for every ascent that finds none of their own to pop:

    clamped (before ++ after) =
      (clamped before).take ((clamped before).length - escapes 0 after) ++ clamped after
                                                                          (clamped_append)

There are as many such ascents as the ascents outnumber the names at the most, of all
beginnings of the segments                                            (isGreatest_escapes).

So a relative specifier is served below a mount under what its ascents leave of the
mount, and behind that under the segments that it is served under without a mount.  All
of the mount is left just if the specifier never ascends above its start
                                                                      (resolvePath_mounted).
-/

namespace ServedMedia

namespace Path

/-! ## Algorithm -/

instance : DecidablePred IsName := fun _ => inferInstanceAs (Decidable (_ ∧ _))

/-- How many more ascents than names there are. -/
def excess (segments : List (List Char)) : Int :=
  segments.count up - segments.countP (IsName ·)

/-! ## One segment -/

theorem isIdle_or_up_or_isName (segment : List Char) :
    isIdle segment = true ∨ segment = up ∨ IsName segment := by
  cases hidle : isIdle segment with
  | true => exact .inl rfl
  | false =>
    by_cases hup : segment = up
    · exact .inr (.inl hup)
    · exact .inr (.inr (isName_of_not_idle hidle hup))

section
variable {segment : List Char} (rest : List (List Char))

theorem escapes_cons_of_isIdle (h : isIdle segment = true) (depth : Nat) :
    escapes depth (segment :: rest) = escapes depth rest := by
  rw [escapes, if_pos h]

theorem escapes_cons_of_isName (h : IsName segment) (depth : Nat) :
    escapes depth (segment :: rest) = escapes (depth + 1) rest := by
  rw [escapes, if_neg (by simp [h.isIdle]), if_neg h.2.2]

theorem escapes_zero_up : escapes 0 (up :: rest) = escapes 0 rest + 1 := rfl

theorem escapes_succ_up (depth : Nat) : escapes (depth + 1) (up :: rest) = escapes depth rest := rfl

theorem excess_cons_of_isIdle (h : isIdle segment = true) :
    excess (segment :: rest) = excess rest := by
  have hname : ¬ IsName segment := fun hname => by
    rw [hname.isIdle] at h
    cases h
  unfold excess
  rw [List.count_cons_of_ne (ne_up_of_isIdle h), List.countP_cons_of_neg (by simp [hname])]

theorem excess_cons_of_isName (h : IsName segment) :
    excess (segment :: rest) = excess rest - 1 := by
  unfold excess
  rw [List.count_cons_of_ne h.2.2, List.countP_cons_of_pos (by simp [h])]
  omega

theorem excess_up_cons : excess (up :: rest) = excess rest + 1 := by
  have hname : ¬ IsName up := fun hname => hname.2.2 rfl
  unfold excess
  rw [List.count_cons_self, List.countP_cons_of_neg (by simp [hname])]
  omega

end

/-! ## Running excess -/

/-- No beginning of the segments leads up further than to the root and then by the escapes. -/
theorem excess_le_escapes {before segments : List (List Char)} (h : before <+: segments)
    (depth : Nat) : excess before ≤ depth + escapes depth segments := by
  -- The depth is free: a name read first adds to it, and an ascent takes from it.
  induction segments generalizing before depth with
  | nil =>
    rw [List.prefix_nil.1 h]
    exact Int.natCast_nonneg _
  | cons segment rest ih =>
    cases before with
    | nil => exact Int.natCast_nonneg (depth + escapes depth (segment :: rest))
    | cons first before =>
      obtain ⟨rfl, hrest⟩ := List.cons_prefix_cons.1 h
      rcases isIdle_or_up_or_isName first with hidle | rfl | hname
      · rw [excess_cons_of_isIdle _ hidle, escapes_cons_of_isIdle _ hidle]
        exact ih hrest depth
      · rw [excess_up_cons]
        cases depth with
        | zero =>
          have := ih hrest 0
          rw [escapes_zero_up]
          omega
        | succ depth =>
          have := ih hrest depth
          rw [escapes_succ_up]
          omega
      · have := ih hrest (depth + 1)
        rw [excess_cons_of_isName _ hname, escapes_cons_of_isName _ hname]
        omega

/-- The beginning that ends in the last ascent to escape leads up just so far. -/
theorem exists_excess_eq {segments : List (List Char)} {depth : Nat}
    (h : 0 < escapes depth segments) :
    ∃ before, before <+: segments ∧ excess before = depth + escapes depth segments := by
  induction segments generalizing depth with
  | nil => cases h
  | cons segment rest ih =>
    rcases isIdle_or_up_or_isName segment with hidle | rfl | hname
    · rw [escapes_cons_of_isIdle _ hidle] at h ⊢
      obtain ⟨before, hbefore, hexcess⟩ := ih h
      exact ⟨segment :: before, List.cons_prefix_cons.2 ⟨rfl, hbefore⟩,
        by rw [excess_cons_of_isIdle _ hidle, hexcess]⟩
    · cases depth with
      | zero =>
        rw [escapes_zero_up]
        rcases Nat.eq_zero_or_pos (escapes 0 rest) with hnone | hsome
        · exact ⟨[up], List.cons_prefix_cons.2 ⟨rfl, List.nil_prefix⟩, by rw [hnone]; rfl⟩
        · obtain ⟨before, hbefore, hexcess⟩ := ih hsome
          refine ⟨up :: before, List.cons_prefix_cons.2 ⟨rfl, hbefore⟩, ?_⟩
          rw [excess_up_cons, hexcess]
          omega
      | succ depth =>
        rw [escapes_succ_up] at h ⊢
        obtain ⟨before, hbefore, hexcess⟩ := ih h
        refine ⟨up :: before, List.cons_prefix_cons.2 ⟨rfl, hbefore⟩, ?_⟩
        rw [excess_up_cons, hexcess]
        omega
    · rw [escapes_cons_of_isName _ hname] at h ⊢
      obtain ⟨before, hbefore, hexcess⟩ := ih h
      refine ⟨segment :: before, List.cons_prefix_cons.2 ⟨rfl, hbefore⟩, ?_⟩
      rw [excess_cons_of_isName _ hname, hexcess]
      omega

/-- What escapes from the root is how far the ascents outnumber the names at the most. -/
theorem isGreatest_escapes (segments : List (List Char)) :
    IsGreatest (excess '' {before | before <+: segments}) (escapes 0 segments : Int) := by
  constructor
  · rcases Nat.eq_zero_or_pos (escapes 0 segments) with hnone | hsome
    · exact ⟨[], List.nil_prefix, by rw [hnone]; rfl⟩
    · obtain ⟨before, hbefore, hexcess⟩ := exists_excess_eq hsome
      exact ⟨before, hbefore, by rw [hexcess, Int.natCast_zero, Int.zero_add]⟩
  · rintro _ ⟨before, hbefore, rfl⟩
    have hle := excess_le_escapes hbefore 0
    rwa [Int.natCast_zero, Int.zero_add] at hle

/-! ## Reading onto a mount -/

/-- What lies below the names that are read first loses a name for every escape. -/
theorem clampedPush_append (names below : List (List Char)) (segment : List Char) :
    clampedPush (names ++ below) segment =
      clampedPush names segment ++ below.drop (escape names segment) := by
  rcases isIdle_or_up_or_isName segment with hidle | rfl | hname
  · simp [clampedPush, escape, hidle, ne_up_of_isIdle hidle]
  · cases names with
    | nil => exact List.drop_one.symm
    | cons name names => rfl
  · rw [clampedPush_of_isName hname, clampedPush_of_isName hname, escape,
      if_neg fun h => hname.2.2 h.1, List.drop_zero, List.cons_append]

theorem foldl_clampedPush_append (segments names below : List (List Char)) :
    segments.foldl clampedPush (names ++ below) =
      segments.foldl clampedPush names ++ below.drop (escapes names.length segments) := by
  induction segments generalizing names below with
  | nil => simp [escapes]
  | cons segment rest ih =>
    rw [List.foldl_cons, List.foldl_cons, clampedPush_append, ih, escapes_cons, List.drop_drop]

/-- Segments behind others take a name from them for each ascent that escapes. -/
theorem clamped_append (before after : List (List Char)) :
    clamped (before ++ after) =
      (clamped before).take ((clamped before).length - escapes 0 after) ++ clamped after := by
  have hfold := foldl_clampedPush_append after [] (before.foldl clampedPush [])
  rw [List.nil_append] at hfold
  unfold clamped
  rw [List.foldl_append, hfold, List.reverse_append, List.reverse_drop, List.length_reverse]
  rfl

/-! ## Composed segments -/

theorem isIdle_composed (segment : List Char) :
    isIdle (Canonical.composed segment) = isIdle segment := by
  have hhere : Canonical.composed segment = here ↔ segment = here :=
    Canonical.composed_eq_iff_of_dots (by simp [here]) segment
  rw [Bool.eq_iff_iff, isIdle_iff, isIdle_iff, Canonical.composed_eq_nil_iff, hhere]

theorem composed_eq_up_iff (segment : List Char) :
    Canonical.composed segment = up ↔ segment = up :=
  Canonical.composed_eq_iff_of_dots (by simp [up]) segment

theorem escapes_map_composed (segments : List (List Char)) (depth : Nat) :
    escapes depth (segments.map Canonical.composed) = escapes depth segments := by
  induction segments generalizing depth with
  | nil => rfl
  | cons segment rest ih =>
    rw [List.map_cons, escapes, escapes, isIdle_composed, ih, ih, ih, ih]
    simp only [composed_eq_up_iff]

end Path

namespace Resolve

open ServedMedia.Path

/-! ## Served segments -/

/-- The segments of a URL path, behind the slash that it begins with. -/
def urlSegments (url : String) : List (List Char) := cutSlash url.toList.tail

theorem urlSegments_resolvePath {specifier : String} (mount base : Option String)
    (hqualify : qualify (.string specifier) = .ok specifier)
    (hrelative : IsRelative specifier.toList) :
    urlSegments (resolvePath specifier mount base).1 =
      clamped (cutSlash (mount.getD "").toList ++
        cutSlash (Canonical.composed specifier.toList)) := by
  have hext := (endsInExtension_of_qualify hqualify).composed
  obtain ⟨rest, hrest⟩ := hrelative.exists_composed
  rw [resolvePath_of_isRelative hrelative, urlSegments, String.toList_ofList,
    served_eq_clamped (by simp [hrest]) hext.getLast?_ne_slash (hext.clamped_ne_nil _),
    List.tail_cons]
  refine cutSlash_joinSlash (hext.clamped_ne_nil _) fun name hname => ?_
  rcases List.mem_append.1 (mem_clamped hname).1 with hmount | hpath
  · exact slash_not_mem_of_mem_cutSlash hmount
  · exact slash_not_mem_of_mem_cutSlash hpath

/-! ## Top theorems -/

theorem resolvePath_mounted {specifier mount : String} (base other : Option String)
    (hqualify : qualify (.string specifier) = .ok specifier)
    (hrelative : IsRelative specifier.toList)
    (hmount : clamped (cutSlash mount.toList) ≠ []) :
    ∃ k : Nat, IsGreatest (excess '' {before | before <+: cutSlash specifier.toList}) (k : Int) ∧
      urlSegments (resolvePath specifier (some mount) base).1 =
        (clamped (cutSlash mount.toList)).take ((clamped (cutSlash mount.toList)).length - k) ++
          urlSegments (resolvePath specifier none other).1 ∧
      (urlSegments (resolvePath specifier (some mount) base).1 =
          clamped (cutSlash mount.toList) ++ urlSegments (resolvePath specifier none other).1 ↔
        k = 0) := by
  have hplain : urlSegments (resolvePath specifier none other).1 =
      clamped (cutSlash (Canonical.composed specifier.toList)) :=
    urlSegments_resolvePath none other hqualify hrelative
  have hmounted : urlSegments (resolvePath specifier (some mount) base).1 =
      (clamped (cutSlash mount.toList)).take
          ((clamped (cutSlash mount.toList)).length - escapes 0 (cutSlash specifier.toList)) ++
        urlSegments (resolvePath specifier none other).1 := by
    rw [urlSegments_resolvePath (some mount) base hqualify hrelative, Option.getD_some,
      clamped_append, hplain, Canonical.cutSlash_composed, escapes_map_composed]
  refine ⟨escapes 0 (cutSlash specifier.toList), isGreatest_escapes _, hmounted, ?_⟩
  have hpos := List.length_pos_iff.2 hmount
  rw [hmounted, List.append_left_inj, List.take_eq_self_iff]
  omega

/-- The ascent that finds no name of the specifier takes one from the mount. -/
theorem resolvePath_mounted_cafe :
    qualify (.string "./a/../../b/../cafe\u0301.png") = .ok "./a/../../b/../cafe\u0301.png" ∧
    IsRelative "./a/../../b/../cafe\u0301.png".toList ∧
    clamped (cutSlash "/x/./y/../z/".toList) = ["x".toList, "z".toList] ∧
    IsGreatest (excess '' {before | before <+: cutSlash "./a/../../b/../cafe\u0301.png".toList}) 1 ∧
    urlSegments (resolvePath "./a/../../b/../cafe\u0301.png" (some "/x/./y/../z/") none).1 =
      ["x".toList, "café.png".toList] := by
  have hrelative : IsRelative "./a/../../b/../cafe\u0301.png".toList := .inl (by decide)
  have hmount : clamped (cutSlash "/x/./y/../z/".toList) = ["x".toList, "z".toList] := by decide
  have hplain : urlSegments (resolvePath "./a/../../b/../cafe\u0301.png" none none).1 =
      ["café.png".toList] := by
    decide +kernel
  have hne : clamped (cutSlash "/x/./y/../z/".toList) ≠ [] := by
    rw [hmount]
    exact List.cons_ne_nil _ _
  obtain ⟨k, hgreatest, hsegments, -⟩ := resolvePath_mounted none none rfl hrelative hne
  have hone : escapes 0 (cutSlash "./a/../../b/../cafe\u0301.png".toList) = 1 := by decide
  obtain rfl : k = 1 := by
    rw [← hone]
    exact Int.ofNat.inj (hgreatest.unique (isGreatest_escapes _))
  rw [hmount, hplain] at hsegments
  exact ⟨rfl, hrelative, hmount, hgreatest, hsegments⟩

end Resolve

end ServedMedia
