import ServedMedia.Path

/-!
# Ascents that find nothing to pop

`clamped` reads segments onto a stack of names on which an ascent above the
bottom does nothing.  A path that starts at the root is read in this way.  Any
other path keeps such ascents, and they all end up in front of its names:

    reduce true segments = clamped segments                                      (reduce_true)
    reduce false segments = replicate (escapes 0 segments) up ++ clamped segments   (reduce_false)

`stripAscent` then removes just this run of ascents, if a slash follows it.
What is left of a normalized path is therefore the clamped stack, and the one
exception is a path that leads nowhere and has no slash at its end:

    dropSlashes (stripAscent (normalize path)) = remainder path                (stripped_normalize)
-/

namespace ServedMedia.Path

/-! ## Algorithm -/

/-- Reads one segment onto a stack of names; an ascent with nothing to pop does nothing. -/
def clampedPush (stack : List (List Char)) (segment : List Char) : List (List Char) :=
  if isIdle segment then stack else if segment = up then stack.tail else segment :: stack

/-- The names that segments lead to from the root, first one first. -/
def clamped (segments : List (List Char)) : List (List Char) :=
  (segments.foldl clampedPush []).reverse

/-- How many ascents find nothing to pop, if `depth` names are there at first. -/
def escapes : (depth : Nat) → (segments : List (List Char)) → Nat
  | _, [] => 0
  | depth, segment :: rest =>
    if isIdle segment then escapes depth rest
    else if segment = up then
      if depth = 0 then escapes 0 rest + 1 else escapes (depth - 1) rest
    else escapes (depth + 1) rest

/-- A segment that leads into a directory or to a file. -/
def IsName (segment : List Char) : Prop := segment ≠ [] ∧ segment ≠ here ∧ segment ≠ up

instance (segment : List Char) : Decidable (IsName segment) :=
  inferInstanceAs (Decidable (_ ∧ _))

/-! ## Names -/

theorem isIdle_iff (segment : List Char) :
    isIdle segment = true ↔ segment = [] ∨ segment = here := by
  simp [isIdle]

theorem isName_of_not_idle {segment : List Char} (hidle : isIdle segment = false)
    (hup : segment ≠ up) : IsName segment := by
  have h : ¬ (segment = [] ∨ segment = here) := by
    rw [← isIdle_iff, hidle]
    simp
  exact ⟨fun he => h (.inl he), fun he => h (.inr he), hup⟩

theorem IsName.isIdle {segment : List Char} (h : IsName segment) : isIdle segment = false := by
  rw [Bool.eq_false_iff, ne_eq, isIdle_iff]
  rintro (he | he)
  · exact h.1 he
  · exact h.2.1 he

theorem ne_up_of_isIdle {segment : List Char} (h : isIdle segment = true) : segment ≠ up := by
  rintro rfl
  exact absurd h (by decide)

/-- A segment with a character other than a dot is a name. -/
theorem isName_of_mem {segment : List Char} {c : Char} (hmem : c ∈ segment) (hc : c ≠ '.') :
    IsName segment := by
  refine ⟨?_, ?_, ?_⟩
  · rintro rfl
    simp at hmem
  · rintro rfl
    simp [here, hc] at hmem
  · rintro rfl
    simp [up, hc] at hmem

/-! ## The clamped stack -/

theorem clampedPush_of_isName {segment : List Char} (h : IsName segment)
    (stack : List (List Char)) : clampedPush stack segment = segment :: stack := by
  unfold clampedPush
  rw [if_neg (by simp [h.isIdle]), if_neg h.2.2]

/-- Whatever is on the stack afterwards was there before, or it is the name just read. -/
theorem mem_clampedPush {stack : List (List Char)} {segment name : List Char}
    (h : name ∈ clampedPush stack segment) : name ∈ stack ∨ (name = segment ∧ IsName name) := by
  unfold clampedPush at h
  split at h
  · exact .inl h
  · next hidle =>
    split at h
    · exact .inl (List.mem_of_mem_tail h)
    · next hup =>
      rcases List.mem_cons.1 h with rfl | h
      · exact .inr ⟨rfl, isName_of_not_idle (by simpa using hidle) hup⟩
      · exact .inl h

theorem mem_foldl_clampedPush {segments stack : List (List Char)} {name : List Char}
    (h : name ∈ segments.foldl clampedPush stack) :
    name ∈ stack ∨ (name ∈ segments ∧ IsName name) := by
  induction segments generalizing stack with
  | nil => exact .inl h
  | cons segment rest ih =>
    rcases ih h with h | ⟨hmem, hname⟩
    · rcases mem_clampedPush h with h | ⟨rfl, hname⟩
      · exact .inl h
      · exact .inr ⟨List.mem_cons_self, hname⟩
    · exact .inr ⟨List.mem_cons_of_mem _ hmem, hname⟩

theorem mem_clamped {segments : List (List Char)} {name : List Char}
    (h : name ∈ clamped segments) : name ∈ segments ∧ IsName name := by
  rcases mem_foldl_clampedPush (List.mem_reverse.1 h) with h | h
  · simp at h
  · exact h

theorem ne_up_of_mem_clampedPush {stack : List (List Char)} (h : ∀ name ∈ stack, name ≠ up)
    (segment : List Char) : ∀ name ∈ clampedPush stack segment, name ≠ up := by
  intro name hname
  rcases mem_clampedPush hname with hold | ⟨-, hnew⟩
  · exact h name hold
  · exact hnew.2.2

theorem foldl_clampedPush_names {names : List (List Char)} (h : ∀ name ∈ names, IsName name)
    (stack : List (List Char)) : names.foldl clampedPush stack = names.reverse ++ stack := by
  induction names generalizing stack with
  | nil => rfl
  | cons name rest ih =>
    rw [List.foldl_cons, clampedPush_of_isName (h name List.mem_cons_self),
      ih fun other hmem => h other (List.mem_cons_of_mem _ hmem), List.reverse_cons,
      List.append_assoc, List.singleton_append]

theorem clamped_append_name (segments : List (List Char)) {name : List Char} (h : IsName name) :
    clamped (segments ++ [name]) = clamped segments ++ [name] := by
  unfold clamped
  rw [List.foldl_append, List.foldl_cons, List.foldl_nil, clampedPush_of_isName h,
    List.reverse_cons]

/-- Segments that say nothing may be left out. -/
theorem foldl_clampedPush_filter (segments stack : List (List Char)) :
    (segments.filter fun segment => !isIdle segment).foldl clampedPush stack =
      segments.foldl clampedPush stack := by
  induction segments generalizing stack with
  | nil => rfl
  | cons segment rest ih =>
    rw [List.filter_cons]
    cases hidle : isIdle segment with
    | true =>
      have hpush : clampedPush stack segment = stack := by simp [clampedPush, hidle]
      simpa [hpush] using ih stack
    | false => simpa using ih (clampedPush stack segment)

theorem clamped_filter (segments : List (List Char)) :
    clamped (segments.filter fun segment => !isIdle segment) = clamped segments := by
  rw [clamped, foldl_clampedPush_filter, clamped]

/-! ## Reading onto either stack -/

/-- A path from the root is read as onto the clamped stack, as long as that holds names only. -/
theorem push_true_eq_clampedPush {stack : List (List Char)} (h : ∀ name ∈ stack, name ≠ up)
    (segment : List Char) : push true stack segment = clampedPush stack segment := by
  unfold push clampedPush
  split
  · rfl
  · split
    · cases stack with
      | nil => rfl
      | cons top rest => simp [h top (by simp)]
    · rfl

theorem foldl_push_true (segments : List (List Char)) {stack : List (List Char)}
    (h : ∀ name ∈ stack, name ≠ up) :
    segments.foldl (push true) stack = segments.foldl clampedPush stack := by
  induction segments generalizing stack with
  | nil => rfl
  | cons segment rest ih =>
    rw [List.foldl_cons, List.foldl_cons, push_true_eq_clampedPush h]
    exact ih (ne_up_of_mem_clampedPush h segment)

/-- One more if a segment is an ascent and there is no name to pop. -/
def escape (names : List (List Char)) (segment : List Char) : Nat :=
  if segment = up ∧ names = [] then 1 else 0

theorem escapes_cons (names : List (List Char)) (segment : List Char) (rest : List (List Char)) :
    escapes names.length (segment :: rest) =
      escape names segment + escapes (clampedPush names segment).length rest := by
  rw [escapes, clampedPush, escape]
  by_cases hidle : isIdle segment = true
  · simp [hidle, ne_up_of_isIdle hidle]
  · by_cases hup : segment = up
    · subst hup
      cases names with
      | nil => simp [hidle, Nat.add_comm]
      | cons top names => simp [hidle]
    · simp [hidle, hup]

/-- The stack of a relative path holds the ascents that found nothing at its bottom,
and above them the clamped stack. -/
theorem push_false {names : List (List Char)} (h : ∀ name ∈ names, name ≠ up) (n : Nat)
    (segment : List Char) :
    push false (names ++ List.replicate n up) segment =
      clampedPush names segment ++ List.replicate (n + escape names segment) up := by
  unfold push clampedPush escape
  by_cases hidle : isIdle segment = true
  · simp [hidle, ne_up_of_isIdle hidle]
  · by_cases hup : segment = up
    · subst hup
      cases names with
      | nil => cases n <;> simp [hidle, List.replicate_succ]
      | cons top names => simp [hidle, h top (by simp)]
    · simp [hidle, hup]

theorem foldl_push_false (segments : List (List Char)) {names : List (List Char)}
    (h : ∀ name ∈ names, name ≠ up) (n : Nat) :
    segments.foldl (push false) (names ++ List.replicate n up) =
      segments.foldl clampedPush names ++
        List.replicate (n + escapes names.length segments) up := by
  induction segments generalizing names n with
  | nil => rfl
  | cons segment rest ih =>
    rw [List.foldl_cons, List.foldl_cons, push_false h, ih (ne_up_of_mem_clampedPush h segment),
      escapes_cons, Nat.add_assoc]

theorem reduce_true (segments : List (List Char)) : reduce true segments = clamped segments := by
  rw [reduce, foldl_push_true segments (by simp), clamped]

theorem reduce_false (segments : List (List Char)) :
    reduce false segments = List.replicate (escapes 0 segments) up ++ clamped segments := by
  have h := @foldl_push_false segments [] (by simp) 0
  simp only [List.replicate_zero, List.append_nil, Nat.zero_add, List.length_nil] at h
  rw [reduce, h, List.reverse_append, List.reverse_replicate, clamped]

/-! ## Stripping -/

theorem dropAscents_eq_self {path : List Char} (h : (cutSlash path).head? ≠ some up) :
    dropAscents path = path := by
  unfold dropAscents
  split
  · exact absurd (by simp [cutSlash, up]) h
  · rfl

theorem stripAscent_eq_self {path : List Char} (hhere : (cutSlash path).head? ≠ some here)
    (hup : (cutSlash path).head? ≠ some up) : stripAscent path = path := by
  unfold stripAscent
  split
  · exact absurd (by simp [cutSlash, here]) hhere
  · exact dropAscents_eq_self hup

section
variable {pieces : List (List Char)} (hne : pieces ≠ []) (hslash : ∀ piece ∈ pieces, '/' ∉ piece)
include hne hslash

/-- A run of ascents goes if a piece follows it, be it the empty one behind a last slash. -/
theorem dropAscents_joinSlash (hup : pieces.head? ≠ some up) (n : Nat) :
    dropAscents (joinSlash (List.replicate n up ++ pieces)) = joinSlash pieces := by
  induction n with
  | zero =>
    rw [List.replicate_zero, List.nil_append]
    exact dropAscents_eq_self (by rwa [cutSlash_joinSlash hne hslash])
  | succ n ih =>
    rw [List.replicate_succ, List.cons_append, joinSlash_cons_of_ne_nil up (by simp [hne])]
    exact ih

theorem stripAscent_joinSlash (hhere : pieces.head? ≠ some here) (hup : pieces.head? ≠ some up)
    (n : Nat) : stripAscent (joinSlash (List.replicate n up ++ pieces)) = joinSlash pieces := by
  cases n with
  | zero =>
    rw [List.replicate_zero, List.nil_append]
    exact stripAscent_eq_self (by rwa [cutSlash_joinSlash hne hslash])
      (by rwa [cutSlash_joinSlash hne hslash])
  | succ n =>
    rw [← dropAscents_joinSlash hne hslash hup (n + 1), List.replicate_succ, List.cons_append,
      joinSlash_cons_of_ne_nil up (by simp [hne])]
    rfl

end

theorem dropAscents_ascents (n : Nat) :
    dropAscents (joinSlash (List.replicate (n + 1) up)) = up := by
  induction n with
  | zero => rfl
  | succ n ih =>
    rw [List.replicate_succ, joinSlash_cons_of_ne_nil up (by simp)]
    exact ih

/-- The ascent at the end of a run stays, for no slash follows it. -/
theorem stripAscent_ascents (n : Nat) :
    stripAscent (joinSlash (List.replicate (n + 1) up)) = up := by
  refine Eq.trans ?_ (dropAscents_ascents n)
  cases n with
  | zero => rfl
  | succ n =>
    rw [List.replicate_succ, joinSlash_cons_of_ne_nil up (by simp)]
    rfl

theorem getLast?_joinSlash_ne {pieces : List (List Char)} (hslash : ∀ piece ∈ pieces, '/' ∉ piece)
    (hlast : pieces.getLast? ≠ some []) : (joinSlash pieces).getLast? ≠ some '/' := by
  intro h
  by_cases hne : pieces = []
  · subst hne
    simp [joinSlash] at h
  · have hcut := getLast?_cutSlash_of_slash h
    rw [cutSlash_joinSlash hne hslash] at hcut
    exact hlast hcut

/-! ## Normalizing -/

/-- The empty piece behind a slash at the end of a path. -/
def closing (path : List Char) : List (List Char) :=
  if path.getLast? = some '/' then [[]] else []

/-- Segments as a text, with a slash behind them if the path ends in one. -/
def rendered (segments : List (List Char)) (path : List Char) : List Char :=
  joinSlash (segments ++ closing path)

theorem rendered_eq_append {segments : List (List Char)} (h : segments ≠ []) (path : List Char) :
    rendered segments path =
      joinSlash segments ++ if path.getLast? = some '/' then ['/'] else [] := by
  unfold rendered closing
  split
  · rw [joinSlash_append h (by simp)]
    rfl
  · rw [List.append_nil, List.append_nil]

/-- No empty segment is left on either stack, and none with a slash. -/
theorem mem_reduce {absolute : Bool} {path segment : List Char}
    (h : segment ∈ reduce absolute (cutSlash path)) : segment ≠ [] ∧ '/' ∉ segment := by
  have hname : segment ∈ clamped (cutSlash path) → segment ≠ [] ∧ '/' ∉ segment := fun hmem =>
    ⟨(mem_clamped hmem).2.1, slash_not_mem_of_mem_cutSlash (mem_clamped hmem).1⟩
  cases absolute with
  | true => exact hname (by rwa [reduce_true] at h)
  | false =>
    rw [reduce_false] at h
    rcases List.mem_append.1 h with hup | hmem
    · rw [List.eq_of_mem_replicate hup]
      decide
    · exact hname hmem

theorem getLast?_joinSlash_reduce (absolute : Bool) (path : List Char) :
    (joinSlash (reduce absolute (cutSlash path))).getLast? ≠ some '/' := by
  apply getLast?_joinSlash_ne
  · intro segment hmem
    exact (mem_reduce hmem).2
  · intro hlast
    exact (mem_reduce (List.mem_of_getLast? hlast)).1 rfl

theorem normalize_of_isAbsolute {path : List Char} (h : isAbsolute path = true) :
    normalize path =
      if clamped (cutSlash path) = [] then ['/']
      else '/' :: rendered (clamped (cutSlash path)) path := by
  have hlast := getLast?_joinSlash_reduce true path
  rw [reduce_true] at hlast
  unfold normalize
  simp only [h, reduce_true, if_true, Bool.not_true, Bool.and_false, Bool.false_eq_true, if_false]
  by_cases hnames : clamped (cutSlash path) = []
  · simp [hnames, joinSlash]
  · have hjoin : joinSlash (clamped (cutSlash path)) ≠ [] := by
      intro hnil
      have hcut := cutSlash_joinSlash hnames fun name hname =>
        slash_not_mem_of_mem_cutSlash (mem_clamped hname).1
      have hmem : [] ∈ clamped (cutSlash path) := by
        rw [← hcut, hnil]
        simp [cutSlash]
      exact (mem_clamped hmem).2.1 rfl
    rw [if_neg hnames, rendered_eq_append hnames, List.singleton_append,
      List.getLast?_cons_of_ne_nil hjoin]
    by_cases hopen : path.getLast? = some '/' <;> simp [hopen, hlast]

theorem normalize_of_not_isAbsolute {path : List Char} (h : isAbsolute path = false) :
    normalize path =
      rendered (if reduce false (cutSlash path) = [] then [here] else reduce false (cutSlash path))
        path := by
  have hlast := getLast?_joinSlash_reduce false path
  unfold normalize
  simp only [h, Bool.false_eq_true, if_false, List.nil_append, Bool.not_false, Bool.and_true,
    List.isEmpty_iff]
  by_cases hstack : reduce false (cutSlash path) = []
  · rw [if_pos hstack, if_pos hstack, rendered_eq_append (by simp)]
    by_cases hopen : path.getLast? = some '/' <;> simp [hopen, joinSlash, here]
  · rw [if_neg hstack, if_neg hstack, rendered_eq_append hstack]
    by_cases hopen : path.getLast? = some '/' <;> simp [hopen, hlast]

/-! ## The names that are left -/

section
variable {path : List Char}

theorem slash_not_mem_piece {piece : List Char}
    (h : piece ∈ clamped (cutSlash path) ++ closing path) : '/' ∉ piece := by
  rcases List.mem_append.1 h with hname | hempty
  · exact slash_not_mem_of_mem_cutSlash (mem_clamped hname).1
  · unfold closing at hempty
    split at hempty
    · simp [List.mem_singleton.1 hempty]
    · simp at hempty

variable (hnames : clamped (cutSlash path) ≠ [])
include hnames

theorem cutSlash_rendered :
    cutSlash (rendered (clamped (cutSlash path)) path) = clamped (cutSlash path) ++ closing path :=
  cutSlash_joinSlash (by simp [hnames]) fun _ => slash_not_mem_piece

/-- The first piece is a name. -/
theorem head?_pieces_ne (segment : List Char) (h : ¬ IsName segment) :
    (clamped (cutSlash path) ++ closing path).head? ≠ some segment := by
  obtain ⟨name, rest, hcons⟩ := List.exists_cons_of_ne_nil hnames
  have hmem : name ∈ clamped (cutSlash path) := by
    rw [hcons]
    exact List.mem_cons_self
  rw [hcons]
  rintro ⟨⟩
  exact h (mem_clamped hmem).2

theorem head?_rendered_ne : (rendered (clamped (cutSlash path)) path).head? ≠ some '/' := by
  intro hfirst
  obtain ⟨rest, hrest⟩ := List.head?_eq_some_iff.1 hfirst
  have hcut := cutSlash_rendered hnames
  rw [hrest, cutSlash_slash] at hcut
  exact head?_pieces_ne hnames [] (by simp [IsName]) (by rw [← hcut]; rfl)

theorem stripAscent_rendered (n : Nat) :
    stripAscent (rendered (List.replicate n up ++ clamped (cutSlash path)) path) =
      rendered (clamped (cutSlash path)) path := by
  unfold rendered
  rw [List.append_assoc]
  exact stripAscent_joinSlash (by simp [hnames]) (fun _ => slash_not_mem_piece)
    (head?_pieces_ne hnames here (by simp [IsName]))
    (head?_pieces_ne hnames up (by simp [IsName])) n

end

/-! ## Top theorems -/

/-- What a path leads to; a slash at its end is kept behind a name.  A relative path
that leads nowhere keeps one of its dot segments, unless a slash ends it. -/
def remainder (path : List Char) : List Char :=
  if clamped (cutSlash path) ≠ [] then rendered (clamped (cutSlash path)) path
  else if isAbsolute path = true ∨ path.getLast? = some '/' then []
  else if escapes 0 (cutSlash path) = 0 then here
  else up

/-- A run of ascents with nothing behind it. -/
theorem stripAscent_rendered_ascents (n : Nat) (path : List Char) :
    stripAscent (rendered (if List.replicate n up = [] then [here] else List.replicate n up) path) =
      if path.getLast? = some '/' then [] else if n = 0 then here else up := by
  cases n with
  | zero => by_cases hopen : path.getLast? = some '/' <;> simp [rendered, closing, hopen] <;> rfl
  | succ n =>
    by_cases hopen : path.getLast? = some '/'
    · simp only [rendered, closing, if_pos hopen]
      rw [if_neg (by simp),
        stripAscent_joinSlash (by simp) (by simp) (by simp [here]) (by simp [up])]
      rfl
    · simp only [rendered, closing, if_neg hopen, List.append_nil]
      rw [if_neg (by simp), stripAscent_ascents, if_neg (by simp)]

theorem stripped_normalize (path : List Char) :
    dropSlashes (stripAscent (normalize path)) = remainder path := by
  unfold remainder
  by_cases hnames : clamped (cutSlash path) = []
  · rw [if_neg (by simp [hnames])]
    cases habs : isAbsolute path with
    | true =>
      rw [normalize_of_isAbsolute habs, if_pos hnames, if_pos (by simp)]
      rfl
    | false =>
      rw [normalize_of_not_isAbsolute habs, reduce_false, hnames, List.append_nil,
        stripAscent_rendered_ascents]
      by_cases hopen : path.getLast? = some '/'
      · simp [hopen, dropSlashes]
      · simp only [hopen, or_false, Bool.false_eq_true, if_false]
        split <;> rfl
  · rw [if_pos hnames]
    have hdrop := dropSlashes_eq_self (head?_rendered_ne hnames)
    cases habs : isAbsolute path with
    | true =>
      rw [normalize_of_isAbsolute habs, if_neg hnames, stripAscent_eq_self
        (by simp [cutSlash_slash, here]) (by simp [cutSlash_slash, up])]
      exact hdrop
    | false =>
      rw [normalize_of_not_isAbsolute habs, reduce_false, if_neg (by simp [hnames]),
        stripAscent_rendered hnames]
      exact hdrop

end ServedMedia.Path
