import ServedMedia.Proofs.Qualification
import ServedMedia.Resolve

/-!
# Which URLs specifiers are served under

A relative specifier that qualifies is served under the names that the segments
of the mount and then its own lead to, where ascents stop at the root:

    resolvePath specifier mount base =
      ('/' :: joinSlash (clamped (mount's segments ++ specifier's segments)), [])
                                                            (resolvePath_eq_clamped)

A served URL starts with one slash and holds no dot segment and no empty segment
but a last one.  A file URL that is seen from its document may miss this, and does
so exactly if the path from the document leads nowhere below the mount:

    IsServed (resolvePath specifier mount base) ↔ ¬ Vanishes specifier mount base
                                                            (isServed_resolvePath_iff)

The extension of such a URL stands in its query or its fragment, or else the last
name of its path is decoded to a text with slashes.
-/

namespace ServedMedia.Resolve

open ServedMedia.Path

/-- A URL path from the root: one slash, then segments of which none is a dot segment
and only the last one may be empty. -/
structure IsServed (url : List Char) : Prop where
  rooted : url.head? = some '/'
  single : url.tail.head? ≠ some '/'
  resolved : ∀ segment ∈ cutSlash url.tail, segment ≠ here ∧ segment ≠ up
  filled : ∀ segment ∈ (cutSlash url.tail).dropLast, segment ≠ []

/-- A path with no slash at its end that leads to no name below a mount. -/
def LeadsNowhere (mount path : List Char) : Prop :=
  clamped (cutSlash mount ++ cutSlash path) = [] ∧ path.getLast? ≠ some '/'

/-- A file URL that can be seen from the document at the base, but along a path that
leads nowhere below the mount. -/
def Vanishes (specifier : String) (mount base : Option String) : Prop :=
  ∃ document names target, base = some document ∧ fileUrlNames? document = some names ∧
    startsWith fileUrlStart specifier.toList = true ∧
    fileUrlNames? (String.ofList (Canonical.composed specifier.toList)) = some target ∧
    LeadsNowhere (mount.getD "").toList (relativeBetween names target)

/-! ## Mounts -/

theorem components_append_slash (before after : List Char) :
    components (before ++ '/' :: after) = components before ++ components after := by
  unfold components
  rw [cutSlash_append_slash, List.filter_append]

theorem components_slashes_append (n : Nat) (path : List Char) :
    components (List.replicate n '/' ++ path) = components path := by
  induction n with
  | zero => rfl
  | succ n ih =>
    have hempty : components [] = [] := rfl
    rw [List.replicate_succ, List.cons_append, ← List.nil_append ('/' :: _),
      components_append_slash, hempty, List.nil_append, ih]

theorem components_append_slashes (path : List Char) (n : Nat) :
    components (path ++ List.replicate n '/') = components path := by
  cases n with
  | zero => simp
  | succ n =>
    have hslashes : components (List.replicate n '/') = [] := by
      rw [← List.append_nil (List.replicate n '/'), components_slashes_append]
      rfl
    rw [List.replicate_succ, components_append_slash, hslashes, List.append_nil]

theorem components_trimSlashes (path : List Char) :
    components (trimSlashes path) = components path := by
  obtain ⟨m, hm⟩ := exists_slashes_append path
  obtain ⟨n, hn⟩ := exists_trimSlashes_append path
  calc components (trimSlashes path)
      = components (trimSlashes path ++ List.replicate n '/') :=
        (components_append_slashes _ n).symm
    _ = components (dropSlashes path) := by rw [hn]
    _ = components (List.replicate m '/' ++ dropSlashes path) :=
        (components_slashes_append m _).symm
    _ = components path := by rw [← hm]

/-- A path below a mount, which may be empty. -/
def below (mount path : List Char) : List Char :=
  if mount.isEmpty then path else mount ++ '/' :: path

theorem clamped_below (mount path : List Char) :
    clamped (cutSlash (below (trimSlashes mount) path)) =
      clamped (cutSlash mount ++ cutSlash path) := by
  have hbelow : components (below (trimSlashes mount) path) =
      components mount ++ components path := by
    rw [← components_trimSlashes mount]
    unfold below
    split
    · next hempty =>
      rw [List.isEmpty_iff.1 hempty]
      rfl
    · rw [components_append_slash]
  rw [← clamped_filter, ← clamped_filter (cutSlash mount ++ cutSlash path), List.filter_append]
  exact congrArg clamped hbelow

theorem getLast?_below {path : List Char} (h : path ≠ []) (mount : List Char) :
    (below mount path).getLast? = path.getLast? := by
  unfold below
  split
  · rfl
  · rw [List.getLast?_append, List.getLast?_cons_of_ne_nil h]
    cases hlast : path.getLast? with
    | none => exact absurd (List.getLast?_eq_none_iff.1 hlast) h
    | some c => rfl

theorem isAbsolute_below {path : List Char} (h : isAbsolute path = false) (mount : List Char) :
    isAbsolute (below (trimSlashes mount) path) = false := by
  unfold below
  split
  · exact h
  · next hne =>
    cases htrim : trimSlashes mount with
    | nil => simp [htrim] at hne
    | cons c rest =>
      have hhead := head?_trimSlashes mount
      rw [htrim] at hhead
      simpa [isAbsolute] using hhead

/-! ## Served paths -/

theorem served_eq_remainder (mount path : List Char) :
    served mount path = '/' :: remainder (below mount path) := by
  show '/' :: dropSlashes (stripAscent (normalize (below mount path))) = _
  rw [stripped_normalize]

/-- A path is served under its names, if it leads to one and no slash ends it. -/
theorem served_eq_clamped {mount path : List Char} (hne : path ≠ [])
    (hclosed : path.getLast? ≠ some '/') (hnames : clamped (cutSlash mount ++ cutSlash path) ≠ []) :
    served (trimSlashes mount) path =
      '/' :: joinSlash (clamped (cutSlash mount ++ cutSlash path)) := by
  have hlast : (below (trimSlashes mount) path).getLast? ≠ some '/' := by
    rwa [getLast?_below hne]
  rw [served_eq_remainder, remainder, clamped_below, if_pos hnames, rendered_eq_append hnames,
    if_neg hlast, List.append_nil]

theorem isServed_root : IsServed ['/'] :=
  ⟨rfl, by simp, by simp [cutSlash, here, up], by simp [cutSlash]⟩

theorem not_isServed_dots {segment : List Char} (h : segment = here ∨ segment = up) :
    ¬ IsServed ('/' :: segment) := by
  intro hserved
  have hmem : segment ∈ cutSlash ('/' :: segment).tail := by
    rcases h with rfl | rfl <;> decide
  have hne := hserved.resolved segment hmem
  rcases h with rfl | rfl
  · exact hne.1 rfl
  · exact hne.2 rfl

theorem isServed_rendered {path : List Char} (hnames : clamped (cutSlash path) ≠ []) :
    IsServed ('/' :: rendered (clamped (cutSlash path)) path) := by
  have hcut := cutSlash_rendered hnames
  refine ⟨rfl, head?_rendered_ne hnames, ?_, ?_⟩
  · intro segment hmem
    rw [List.tail_cons, hcut] at hmem
    rcases List.mem_append.1 hmem with hname | hempty
    · exact (mem_clamped hname).2.2
    · unfold closing at hempty
      split at hempty
      · rw [List.mem_singleton.1 hempty]
        decide
      · simp at hempty
  · intro segment hmem
    rw [List.tail_cons, hcut] at hmem
    have hname : segment ∈ clamped (cutSlash path) := by
      unfold closing at hmem
      split at hmem
      · rwa [List.dropLast_concat] at hmem
      · rw [List.append_nil] at hmem
        exact List.dropLast_subset _ hmem
    exact (mem_clamped hname).2.1

theorem isServed_remainder_iff (path : List Char) :
    IsServed ('/' :: remainder path) ↔
      clamped (cutSlash path) ≠ [] ∨ isAbsolute path = true ∨ path.getLast? = some '/' := by
  unfold remainder
  by_cases hnames : clamped (cutSlash path) = []
  · rw [if_neg (by simp [hnames])]
    by_cases hroot : isAbsolute path = true ∨ path.getLast? = some '/'
    · simpa [hroot] using isServed_root
    · rw [if_neg hroot]
      refine ⟨fun hserved => absurd hserved (not_isServed_dots ?_), fun h => ?_⟩
      · split
        · exact .inl rfl
        · exact .inr rfl
      · exact absurd (h.resolve_left (by simp [hnames])) hroot
  · rw [if_pos hnames]
    exact ⟨fun _ => .inl hnames, fun _ => isServed_rendered hnames⟩

theorem isServed_served_iff {path : List Char} (hne : path ≠ []) (hrel : isAbsolute path = false)
    (mount : List Char) :
    IsServed (served (trimSlashes mount) path) ↔ ¬ LeadsNowhere mount path := by
  rw [served_eq_remainder, isServed_remainder_iff, clamped_below, isAbsolute_below hrel,
    getLast?_below hne, LeadsNowhere, Decidable.not_and_iff_not_or_not, Decidable.not_not]
  simp only [Bool.false_eq_true, false_or]

theorem isServed_served_of_extension {path : List Char} (h : EndsInExtension path)
    (mount : List Char) : IsServed (served (trimSlashes mount) path) := by
  rw [served_eq_remainder, isServed_remainder_iff, clamped_below]
  exact .inl (h.clamped_ne_nil _)

/-! ## Resolving -/

theorem relativeBetween_start (base target : List (List Char)) :
    ∃ rest, relativeBetween base target = '.' :: rest := by
  unfold relativeBetween
  simp only []
  split
  · next h =>
    obtain ⟨rest, hrest⟩ := (startsWith_iff _ _).1 h
    exact ⟨'.' :: rest, hrest⟩
  · exact ⟨_, rfl⟩

/-- A file URL is seen from the document, or it stays as it is and one diagnostic says why. -/
theorem relativePath_cases (url : String) (base : Option String) :
    (∃ document names target, base = some document ∧ fileUrlNames? document = some names ∧
      fileUrlNames? url = some target ∧
      relativePath url base = (String.ofList (relativeBetween names target), [])) ∨
    ((∀ document, base = some document →
        fileUrlNames? document = none ∨ fileUrlNames? url = none) ∧
      ∃ diagnostic, relativePath url base = (url, [diagnostic])) := by
  unfold relativePath
  cases base with
  | none => exact .inr ⟨by simp, _, rfl⟩
  | some document =>
    cases htarget : fileUrlNames? url with
    | none => exact .inr ⟨fun _ _ => .inr rfl, .invalidFileUrl url url, by simp⟩
    | some target =>
      cases hnames : fileUrlNames? document with
      | none =>
        refine .inr ⟨?_, .invalidFileUrl document url, by simp [hnames]⟩
        rintro _ ⟨⟩
        exact .inl hnames
      | some names => exact .inl ⟨document, names, target, rfl, hnames, rfl, by simp [hnames]⟩

/-- A relative specifier is served along its own path. -/
theorem resolvePath_of_isRelative {specifier : String} (h : IsRelative specifier.toList)
    (mount base : Option String) :
    resolvePath specifier mount base =
      (String.ofList (served (trimSlashes (mount.getD "").toList)
        (Canonical.composed specifier.toList)), []) := by
  obtain ⟨rest, hrest⟩ := h.exists_composed
  unfold resolvePath
  simp [hrest, startsWith_of_dot, afterStart?_of_dot]

/-- A file URL is served along the path from the document, or along its own path. -/
theorem resolvePath_cases {specifier : String} {rest : List Char}
    (hs : specifier.toList = fileUrlStart ++ rest) (mount base : Option String) :
    (∃ document names target, base = some document ∧ fileUrlNames? document = some names ∧
      fileUrlNames? (String.ofList (Canonical.composed specifier.toList)) = some target ∧
      resolvePath specifier mount base =
        (String.ofList (served (trimSlashes (mount.getD "").toList) (relativeBetween names target)),
          [])) ∨
    ((∀ document, base = some document → fileUrlNames? document = none ∨
        fileUrlNames? (String.ofList (Canonical.composed specifier.toList)) = none) ∧
      ∃ diagnostic, resolvePath specifier mount base =
        (String.ofList (served (trimSlashes (mount.getD "").toList) (Canonical.composed rest)),
          [diagnostic])) := by
  have hcomposed : Canonical.composed specifier.toList =
      fileUrlStart ++ Canonical.composed rest := by
    rw [hs, composed_fileUrl]
  have hstart : startsWith fileUrlStart (fileUrlStart ++ Canonical.composed rest) = true :=
    (startsWith_iff _ _).2 ⟨_, rfl⟩
  have hafter : afterStart? fileUrlStart (fileUrlStart ++ Canonical.composed rest) =
      some (Canonical.composed rest) := (afterStart?_eq_some_iff _ _ _).2 rfl
  rw [hcomposed]
  unfold resolvePath
  rw [hcomposed]
  rcases relativePath_cases (String.ofList (fileUrlStart ++ Canonical.composed rest)) base with
    ⟨document, names, target, hbase, hnames, htarget, hpath⟩ | ⟨hnone, diagnostic, hpath⟩
  · obtain ⟨tail, htail⟩ := relativeBetween_start names target
    refine .inl ⟨document, names, target, hbase, hnames, htarget, ?_⟩
    simp only [hstart, hpath, htail, if_true, String.toList_ofList, afterStart?_of_dot,
      Option.getD_none]
  · refine .inr ⟨hnone, diagnostic, ?_⟩
    simp only [hstart, hpath, hafter, if_true, String.toList_ofList, Option.getD_some]

theorem resolvePath_site :
    (resolvePath "file:///site?v=1.png" none (some "file:///site/posts/index.mdx")).1.toList =
      '/' :: up := by
  decide +kernel

/-! ## Top theorems -/

theorem resolvePath_eq_clamped {specifier : String} (mount base : Option String)
    (hqualify : qualify (.string specifier) = .ok specifier)
    (hrelative : IsRelative specifier.toList) :
    resolvePath specifier mount base =
      (String.ofList ('/' :: joinSlash (clamped (cutSlash (mount.getD "").toList ++
        cutSlash (Canonical.composed specifier.toList)))), []) := by
  have hext := (endsInExtension_of_qualify hqualify).composed
  obtain ⟨rest, hrest⟩ := hrelative.exists_composed
  rw [resolvePath_of_isRelative hrelative, served_eq_clamped (by simp [hrest])
    hext.getLast?_ne_slash (hext.clamped_ne_nil _)]

/-- The third ascent is above the root. -/
theorem resolvePath_above_root :
    qualify (.string "../../../b/./c.png") = .ok "../../../b/./c.png" ∧
    IsRelative "../../../b/./c.png".toList ∧
    resolvePath "../../../b/./c.png" (some "/x//./y/") none = ("/b/c.png", []) := by
  have hrelative : IsRelative "../../../b/./c.png".toList := .inr (by decide)
  refine ⟨rfl, hrelative, (resolvePath_eq_clamped (some "/x//./y/") none rfl hrelative).trans ?_⟩
  decide +kernel

theorem isServed_resolvePath_iff {specifier : String} (mount base : Option String)
    (hqualify : qualify (.string specifier) = .ok specifier) :
    IsServed (resolvePath specifier mount base).1.toList ↔ ¬ Vanishes specifier mount base := by
  rcases isRelative_or_fileUrl hqualify with hrelative | ⟨rest, hrest, hext⟩
  · have hserved := isServed_served_of_extension (endsInExtension_of_qualify hqualify).composed
      (mount.getD "").toList
    rw [resolvePath_of_isRelative hrelative, String.toList_ofList]
    refine iff_of_true hserved ?_
    rintro ⟨_, _, _, _, _, hfile, _⟩
    obtain ⟨rest, hrest⟩ := hrelative.exists_dot
    rw [hrest, startsWith_of_dot] at hfile
    cases hfile
  · have hfile : startsWith fileUrlStart specifier.toList = true :=
      (startsWith_iff _ _).2 ⟨rest, hrest⟩
    rcases resolvePath_cases hrest mount base with
      ⟨document, names, target, hbase, hnames, htarget, hpath⟩ | ⟨hnone, diagnostic, hpath⟩
    · obtain ⟨tail, htail⟩ := relativeBetween_start names target
      rw [hpath, String.toList_ofList,
        isServed_served_iff (by simp [htail]) (by simp [htail, isAbsolute])]
      refine not_congr ⟨fun hnowhere =>
        ⟨document, names, target, hbase, hnames, hfile, htarget, hnowhere⟩, ?_⟩
      rintro ⟨document', names', target', hbase', hnames', -, htarget', hnowhere⟩
      obtain rfl : document' = document := by simpa [hbase'] using hbase
      obtain rfl : names' = names := by simpa [hnames'] using hnames
      obtain rfl : target' = target := by simpa [htarget'] using htarget
      exact hnowhere
    · rw [hpath, String.toList_ofList]
      refine iff_of_true (isServed_served_of_extension hext.composed _) ?_
      rintro ⟨document, names, target, hbase, hnames, -, htarget, -⟩
      rcases hnone document hbase with h | h
      · simp [hnames] at h
      · simp [htarget] at h

/-- The extension is the query's, and the path is an ascent from the posts. -/
theorem vanishes_site : qualify (.string "file:///site?v=1.png") = .ok "file:///site?v=1.png" ∧
    Vanishes "file:///site?v=1.png" none (some "file:///site/posts/index.mdx") := by
  refine ⟨rfl, Classical.byContradiction fun hseen => ?_⟩
  have hserved := (isServed_resolvePath_iff none (some "file:///site/posts/index.mdx") rfl).2 hseen
  rw [resolvePath_site] at hserved
  exact not_isServed_dots (.inr rfl) hserved

theorem not_isServed_site : qualify (.string "file:///site?v=1.png") = .ok "file:///site?v=1.png" ∧
    ¬ IsServed
      (resolvePath "file:///site?v=1.png" none (some "file:///site/posts/index.mdx")).1.toList := by
  refine ⟨rfl, ?_⟩
  rw [resolvePath_site]
  exact not_isServed_dots (.inr rfl)

end ServedMedia.Resolve
