/-!
# Text cut at separators

A slash-separated text is handled as the list of its pieces.  Cutting always
yields at least one piece, a piece holds no slash, and joining restores the text:

    joinSlash (cutSlash text) = text                      (joinSlash_cutSlash)
    piece ∈ cutSlash text → '/' ∉ piece                   (slash_not_mem_of_mem_cutSlash)
    cutSlash (joinSlash pieces) = pieces                  (cutSlash_joinSlash)
    cutSlash (a ++ '/' :: b) = cutSlash a ++ cutSlash b   (cutSlash_append_slash)

The third holds for pieces without slashes, of which there is at least one.
-/

namespace ServedMedia

/-! ## Algorithm -/

/-- The pieces between the slashes of a text, empty ones included. -/
def cutSlash : List Char → List (List Char)
  | [] => [[]]
  | c :: rest =>
    if c = '/' then [] :: cutSlash rest
    else match cutSlash rest with
      | [] => [[c]]
      | piece :: pieces => (c :: piece) :: pieces

/-- The pieces with one slash between neighbours. -/
def joinSlash : List (List Char) → List Char
  | [] => []
  | [piece] => piece
  | piece :: next :: pieces => piece ++ '/' :: joinSlash (next :: pieces)

/-- The text without the slashes at its start. -/
def dropSlashes (text : List Char) : List Char := text.dropWhile (· == '/')

/-- The text without the slashes at its start and at its end. -/
def trimSlashes (text : List Char) : List Char :=
  (dropSlashes (dropSlashes text).reverse).reverse

/-- The pieces between the occurrences of a separator, empty ones included. -/
def cutAt (separator : Char) : List Char → List (List Char)
  | [] => [[]]
  | c :: rest =>
    if c = separator then [] :: cutAt separator rest
    else match cutAt separator rest with
      | [] => [[c]]
      | piece :: pieces => (c :: piece) :: pieces

/-- What follows `start` in `text`, if `text` begins with it. -/
def afterStart? : (start text : List Char) → Option (List Char)
  | [], text => some text
  | _ :: _, [] => none
  | c :: start, d :: text => if c = d then afterStart? start text else none

/-- Whether `text` begins with `start`. -/
def startsWith (start text : List Char) : Bool := (afterStart? start text).isSome

/-! ## Lemmas -/

theorem afterStart?_eq_some_iff (start text rest : List Char) :
    afterStart? start text = some rest ↔ text = start ++ rest := by
  induction start generalizing text with
  | nil => simp [afterStart?]
  | cons c start ih =>
    cases text with
    | nil => simp [afterStart?]
    | cons d text =>
      rw [afterStart?]
      by_cases h : c = d
      · simp [h, ih]
      · simp [h, Ne.symm h]

theorem startsWith_iff (start text : List Char) :
    startsWith start text = true ↔ ∃ rest, text = start ++ rest := by
  unfold startsWith
  rw [Option.isSome_iff_exists]
  exact exists_congr fun rest => afterStart?_eq_some_iff start text rest

/-- What holds no slash cannot begin with anything behind one. -/
theorem startsWith_append_slash {start : List Char} (h : '/' ∉ start) (piece rest : List Char) :
    startsWith start (piece ++ '/' :: rest) = startsWith start piece := by
  induction start generalizing piece with
  | nil => rfl
  | cons c start ih =>
    obtain ⟨hc, hstart⟩ : '/' ≠ c ∧ '/' ∉ start := by simpa using h
    cases piece with
    | nil => simp [startsWith, afterStart?, Ne.symm hc]
    | cons d piece =>
      by_cases hcd : c = d
      · simpa [startsWith, afterStart?, hcd] using ih hstart piece
      · simp [startsWith, afterStart?, hcd]

theorem cutAt_slash (text : List Char) : cutAt '/' text = cutSlash text := by
  induction text with
  | nil => rfl
  | cons c rest ih => rw [cutAt, cutSlash, ih]

theorem cutSlash_ne_nil (text : List Char) : cutSlash text ≠ [] := by
  cases text with
  | nil => simp [cutSlash]
  | cons c rest =>
    rw [cutSlash]
    split
    · simp
    · split <;> simp

theorem cutSlash_slash (rest : List Char) : cutSlash ('/' :: rest) = [] :: cutSlash rest := by
  simp [cutSlash]

theorem joinSlash_cons_of_ne_nil {pieces : List (List Char)} (piece : List Char)
    (h : pieces ≠ []) : joinSlash (piece :: pieces) = piece ++ '/' :: joinSlash pieces := by
  cases pieces with
  | nil => exact absurd rfl h
  | cons next pieces => rfl

theorem joinSlash_push (c : Char) (piece : List Char) (pieces : List (List Char)) :
    joinSlash ((c :: piece) :: pieces) = c :: joinSlash (piece :: pieces) := by
  cases pieces with
  | nil => rfl
  | cons next pieces => rfl

theorem joinSlash_cutSlash (text : List Char) : joinSlash (cutSlash text) = text := by
  induction text with
  | nil => rfl
  | cons c rest ih =>
    rw [cutSlash]
    split
    case isTrue h =>
      rw [joinSlash_cons_of_ne_nil _ (cutSlash_ne_nil rest), ih, h]
      rfl
    case isFalse h =>
      split
      case h_1 he => exact absurd he (cutSlash_ne_nil rest)
      case h_2 piece pieces he => rw [joinSlash_push, ← he, ih]

theorem slash_not_mem_of_mem_cutSlash {text piece : List Char} (h : piece ∈ cutSlash text) :
    '/' ∉ piece := by
  induction text generalizing piece with
  | nil => simp [cutSlash] at h; simp [h]
  | cons c rest ih =>
    rw [cutSlash] at h
    split at h
    case isTrue hc =>
      rcases List.mem_cons.1 h with rfl | h
      · simp
      · exact ih h
    case isFalse hc =>
      split at h
      case h_1 he => exact absurd he (cutSlash_ne_nil rest)
      case h_2 first pieces he =>
        rcases List.mem_cons.1 h with rfl | h
        · have hfirst : '/' ∉ first := ih (by rw [he]; simp)
          simp [hfirst, Ne.symm hc]
        · exact ih (by rw [he]; exact List.mem_cons_of_mem _ h)

theorem cutSlash_of_not_mem {text : List Char} (h : '/' ∉ text) : cutSlash text = [text] := by
  induction text with
  | nil => rfl
  | cons c rest ih =>
    obtain ⟨hc, hrest⟩ : '/' ≠ c ∧ '/' ∉ rest := by simpa using h
    rw [cutSlash, if_neg (Ne.symm hc), ih hrest]

theorem cutSlash_append_slash (before after : List Char) :
    cutSlash (before ++ '/' :: after) = cutSlash before ++ cutSlash after := by
  induction before with
  | nil => simp [cutSlash]
  | cons c rest ih =>
    rw [List.cons_append, cutSlash, cutSlash, ih]
    split
    · rfl
    · cases hrest : cutSlash rest with
      | nil => exact absurd hrest (cutSlash_ne_nil rest)
      | cons piece pieces => rfl

/-- Text without a slash lengthens the last piece. -/
theorem cutSlash_append_of_not_mem (before : List Char) {after : List Char} (h : '/' ∉ after) :
    ∃ pieces last, cutSlash before = pieces ++ [last] ∧
      cutSlash (before ++ after) = pieces ++ [last ++ after] := by
  induction before with
  | nil => exact ⟨[], [], rfl, cutSlash_of_not_mem h⟩
  | cons c rest ih =>
    obtain ⟨pieces, last, hrest, happend⟩ := ih
    rw [List.cons_append, cutSlash, cutSlash, hrest, happend]
    by_cases hc : c = '/'
    · exact ⟨[] :: pieces, last, by simp [hc], by simp [hc]⟩
    · cases pieces with
      | nil => exact ⟨[], c :: last, by simp [hc], by simp [hc]⟩
      | cons piece pieces => exact ⟨(c :: piece) :: pieces, last, by simp [hc], by simp [hc]⟩

theorem cutSlash_joinSlash {pieces : List (List Char)} (hne : pieces ≠ [])
    (h : ∀ piece ∈ pieces, '/' ∉ piece) : cutSlash (joinSlash pieces) = pieces := by
  induction pieces with
  | nil => exact absurd rfl hne
  | cons piece rest ih =>
    have hpiece : '/' ∉ piece := h piece (by simp)
    by_cases hrest : rest = []
    · subst hrest
      exact cutSlash_of_not_mem hpiece
    · rw [joinSlash_cons_of_ne_nil piece hrest, cutSlash_append_slash, cutSlash_of_not_mem hpiece,
        ih hrest fun p hp => h p (List.mem_cons_of_mem _ hp)]
      rfl

theorem joinSlash_append {before after : List (List Char)} (hb : before ≠ []) (ha : after ≠ []) :
    joinSlash (before ++ after) = joinSlash before ++ '/' :: joinSlash after := by
  induction before with
  | nil => exact absurd rfl hb
  | cons piece rest ih =>
    by_cases hrest : rest = []
    · subst hrest
      exact joinSlash_cons_of_ne_nil piece ha
    · rw [List.cons_append, joinSlash_cons_of_ne_nil piece (by simp [hrest]), ih hrest,
        joinSlash_cons_of_ne_nil piece hrest, List.append_assoc, List.cons_append]

theorem startsWith_joinSlash {start : List Char} (h : '/' ∉ start) (piece : List Char)
    (rest : List (List Char)) :
    startsWith start (joinSlash (piece :: rest)) = startsWith start piece := by
  by_cases hrest : rest = []
  · rw [hrest]
    rfl
  · rw [joinSlash_cons_of_ne_nil piece hrest, startsWith_append_slash h]

theorem joinSlash_eq_nil_iff {pieces : List (List Char)} (h : ∀ piece ∈ pieces, piece ≠ []) :
    joinSlash pieces = [] ↔ pieces = [] := by
  cases pieces with
  | nil => simp [joinSlash]
  | cons piece rest =>
    have hpiece := h piece List.mem_cons_self
    by_cases hrest : rest = []
    · simpa [hrest, joinSlash] using hpiece
    · simp [joinSlash_cons_of_ne_nil piece hrest]

theorem getLast?_cutSlash_of_slash {text : List Char} (h : text.getLast? = some '/') :
    (cutSlash text).getLast? = some [] := by
  obtain ⟨before, rfl⟩ := List.getLast?_eq_some_iff.1 h
  rw [cutSlash_append_slash]
  simp [cutSlash]

theorem dropSlashes_eq_self {text : List Char} (h : text.head? ≠ some '/') :
    dropSlashes text = text := by
  cases text with
  | nil => rfl
  | cons c rest =>
    have hc : c ≠ '/' := by simpa using h
    simp [dropSlashes, hc]

theorem head?_dropSlashes (text : List Char) : (dropSlashes text).head? ≠ some '/' := by
  intro h
  have := List.head?_dropWhile_not (· == '/') text
  rw [← dropSlashes, h] at this
  simp at this

theorem exists_slashes_append (text : List Char) :
    ∃ n, text = List.replicate n '/' ++ dropSlashes text := by
  induction text with
  | nil => exact ⟨0, rfl⟩
  | cons c rest ih =>
    by_cases hc : c = '/'
    · obtain ⟨n, hn⟩ := ih
      refine ⟨n + 1, ?_⟩
      rw [hc, List.replicate_succ, List.cons_append]
      simpa [dropSlashes] using hn
    · exact ⟨0, by simp [dropSlashes, hc]⟩

theorem exists_trimSlashes_append (text : List Char) :
    ∃ n, dropSlashes text = trimSlashes text ++ List.replicate n '/' := by
  obtain ⟨n, hn⟩ := exists_slashes_append (dropSlashes text).reverse
  refine ⟨n, ?_⟩
  have hback := congrArg List.reverse hn
  simpa [trimSlashes] using hback

theorem head?_trimSlashes (text : List Char) : (trimSlashes text).head? ≠ some '/' := by
  intro h
  obtain ⟨n, hn⟩ := exists_trimSlashes_append text
  apply head?_dropSlashes text
  rw [hn, List.head?_append, h]
  rfl

end ServedMedia
