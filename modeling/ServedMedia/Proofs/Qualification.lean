import ServedMedia.Media
import ServedMedia.Proofs.Clamping
import ServedMedia.Proofs.Composition

/-!
# What a qualified specifier looks like

A specifier that qualifies is relative or a file URL, and it ends in a dot and
ASCII letters and digits.  Such a text ends in a name, however it begins:

    qualify (.string s) = .ok s → IsRelative s.toList ∨ …                (isRelative_or_fileUrl)
    qualify (.string s) = .ok s → EndsInExtension s.toList       (endsInExtension_of_qualify)
    EndsInExtension path → EndsInExtension (composed path)               (EndsInExtension.composed)
    EndsInExtension path → clamped (segments ++ cutSlash path) ≠ []      (clamped_ne_nil)
-/

namespace ServedMedia

/-- A text that ends in a dot and at least one ASCII letter or digit. -/
def EndsInExtension (path : List Char) : Prop :=
  ∃ before extension, path = before ++ '.' :: extension ∧ extension ≠ [] ∧
    ∀ c ∈ extension, c.isAlphanum = true

/-- A specifier that is read from the directory of its document. -/
def IsRelative (specifier : List Char) : Prop :=
  startsWith "./".toList specifier = true ∨ startsWith "../".toList specifier = true

/-! ## Beginnings -/

theorem IsRelative.exists_dot {specifier : List Char} (h : IsRelative specifier) :
    ∃ rest, specifier = '.' :: rest := by
  rcases h with h | h
  · obtain ⟨rest, hrest⟩ := (startsWith_iff _ _).1 h
    exact ⟨'/' :: rest, hrest⟩
  · obtain ⟨rest, hrest⟩ := (startsWith_iff _ _).1 h
    exact ⟨'.' :: '/' :: rest, hrest⟩

theorem afterStart?_of_dot (rest : List Char) : afterStart? fileUrlStart ('.' :: rest) = none := by
  rw [fileUrlStart_eq]
  simp [afterStart?]

theorem startsWith_of_dot (rest : List Char) : startsWith fileUrlStart ('.' :: rest) = false := by
  rw [startsWith, afterStart?_of_dot]
  rfl

/-- Composition keeps the dot that a relative specifier begins with. -/
theorem IsRelative.exists_composed {specifier : List Char} (h : IsRelative specifier) :
    ∃ rest, Canonical.composed specifier = '.' :: rest := by
  obtain ⟨rest, rfl⟩ := h.exists_dot
  exact ⟨_, Canonical.composed_append_cons Canonical.isSolitary_dot [] rest⟩

/-- Composition keeps the start of a file URL. -/
theorem composed_fileUrl (rest : List Char) :
    Canonical.composed (fileUrlStart ++ rest) = fileUrlStart ++ Canonical.composed rest := by
  have hcut : ∀ text, fileUrlStart ++ text =
      ['f', 'i', 'l', 'e', ':', '/', '/'] ++ '/' :: text := by
    intro text
    rw [fileUrlStart_eq]
    rfl
  have hplain : ∀ c ∈ ['f', 'i', 'l', 'e', ':', '/', '/'], c.toNat < 0xC0 := by
    simp
  rw [hcut, hcut]
  exact Canonical.composed_plain_append_cons Canonical.isSolitary_slash hplain rest

/-! ## Letters and digits -/

theorem toNat_lt_of_isAlphanum {c : Char} (h : c.isAlphanum = true) : c.toNat < 0x80 := by
  have hranges : (decide (c.val ≥ 'A'.val ∧ c.val ≤ 'Z'.val) ||
      (decide (c.val ≥ 'a'.val) && decide (c.val ≤ 'z'.val)) ||
      (decide (c.val ≥ '0'.val) && decide (c.val ≤ '9'.val))) = true := h
  simp only [Bool.or_eq_true, Bool.and_eq_true, decide_eq_true_eq, UInt32.le_iff_toNat_le,
    ge_iff_le] at hranges
  change ((65 ≤ c.toNat ∧ c.toNat ≤ 90) ∨ (97 ≤ c.toNat ∧ c.toNat ≤ 122)) ∨
    (48 ≤ c.toNat ∧ c.toNat ≤ 57) at hranges
  omega

theorem isAlphanum_of_toLower {c : Char} (h : c.toLower.isAlphanum = true) :
    c.isAlphanum = true := by
  unfold Char.toLower at h
  split at h
  · next hupper =>
    have hc : c.isUpper = true := decide_eq_true hupper
    show (c.isUpper || c.isLower || c.isDigit) = true
    rw [hc]
    rfl
  · exact h

/-! ## Extensions -/

theorem exists_of_extension? {path extension : List Char} (h : extension? path = some extension) :
    ∃ before, path = before ++ '.' :: extension := by
  unfold extension? at h
  split at h
  · next hdot =>
    have hcut := List.takeWhile_append_dropWhile (p := (· ≠ '.')) (l := path.reverse)
    cases hrest : path.reverse.dropWhile (· ≠ '.') with
    | nil =>
      have hmem : '.' ∈ path.reverse.takeWhile (· ≠ '.') := by
        rw [hrest, List.append_nil] at hcut
        rw [hcut]
        exact List.mem_reverse.2 hdot
      have hall := List.all_eq_true.1 List.all_takeWhile '.' hmem
      simp at hall
    | cons c rest =>
      have hc : c = '.' := by
        have := List.head?_dropWhile_not (· ≠ '.') path.reverse
        rw [hrest] at this
        simpa using this
      refine ⟨rest.reverse, ?_⟩
      have hback := congrArg List.reverse hcut
      rw [hrest, List.reverse_append, List.reverse_reverse, Option.some.inj h] at hback
      simp [← hback, hc]
  · cases h

/-- The names of all extensions that stand for media. -/
def mediaExtensions : List String :=
  ["png", "jpg", "jpeg", "gif", "webp", "svg"] ++ ["mp4", "webm"] ++ ["mp3", "wav", "ogg"]

theorem mem_mediaExtensions {extension : List Char}
    (h : (MediaKind.ofExtension? extension).isSome = true) :
    String.ofList (extension.map Char.toLower) ∈ mediaExtensions := by
  unfold mediaExtensions
  unfold MediaKind.ofExtension? at h
  simp only [] at h
  split at h
  · next himage => exact List.mem_append_left _ (List.mem_append_left _ himage)
  · split at h
    · next hvideo => exact List.mem_append_left _ (List.mem_append_right _ hvideo)
    · split at h
      · next haudio => exact List.mem_append_right _ haudio
      · simp at h

theorem isAlphanum_of_ofExtension? {extension : List Char}
    (h : (MediaKind.ofExtension? extension).isSome = true) :
    extension ≠ [] ∧ ∀ c ∈ extension, c.isAlphanum = true := by
  have hwords : ∀ word ∈ mediaExtensions, word.toList ≠ [] ∧
      word.toList.all Char.isAlphanum = true := by decide
  obtain ⟨hne, hall⟩ := hwords _ (mem_mediaExtensions h)
  rw [String.toList_ofList] at hne hall
  refine ⟨by simpa using hne, fun c hc => ?_⟩
  exact isAlphanum_of_toLower (List.all_eq_true.1 hall c.toLower (List.mem_map_of_mem hc))

theorem endsInExtension_of_ofPath? {path : List Char}
    (h : (MediaKind.ofPath? path).isSome = true) : EndsInExtension path := by
  unfold MediaKind.ofPath? at h
  cases hext : extension? path with
  | none => simp [hext] at h
  | some extension =>
    obtain ⟨before, hpath⟩ := exists_of_extension? hext
    exact ⟨before, extension, hpath, isAlphanum_of_ofExtension? (by simpa [hext] using h)⟩

namespace EndsInExtension

variable {path : List Char} (h : EndsInExtension path)
include h

theorem composed : EndsInExtension (Canonical.composed path) := by
  obtain ⟨before, extension, rfl, hne, hall⟩ := h
  refine ⟨Canonical.composed before, extension, ?_, hne, hall⟩
  apply Canonical.composed_append_cons_plain Canonical.isSolitary_dot
  intro c hc
  have := toNat_lt_of_isAlphanum (hall c hc)
  omega

/-- A beginning without dots does not touch the extension. -/
theorem of_append {start rest : List Char} (hpath : path = start ++ rest) (hstart : '.' ∉ start) :
    EndsInExtension rest := by
  obtain ⟨before, extension, hext, hne, hall⟩ := h
  rcases List.append_eq_append_iff.1 (hpath.symm.trans hext) with
    ⟨between, -, hrest⟩ | ⟨between, hbetween, hrest⟩
  · exact ⟨between, extension, hrest, hne, hall⟩
  · cases between with
    | nil => exact ⟨[], extension, hrest.symm, hne, hall⟩
    | cons c between =>
      obtain ⟨rfl, -⟩ := List.cons.inj hrest
      exact absurd (by rw [hbetween]; simp) hstart

theorem exists_last_char : ∃ c, path.getLast? = some c ∧ c.isAlphanum = true := by
  obtain ⟨before, extension, rfl, hne, hall⟩ := h
  obtain ⟨init, c, rfl⟩ := List.eq_nil_or_concat extension |>.resolve_left hne
  refine ⟨c, ?_, hall c (by simp)⟩
  rw [List.concat_eq_append, ← List.cons_append, ← List.append_assoc, List.getLast?_concat]

theorem getLast?_ne_slash : path.getLast? ≠ some '/' := by
  obtain ⟨c, hlast, hc⟩ := h.exists_last_char
  rw [hlast]
  rintro ⟨⟩
  revert hc
  decide

/-- The last segment is a name. -/
theorem exists_cutSlash :
    ∃ segments name, cutSlash path = segments ++ [name] ∧ Path.IsName name := by
  obtain ⟨before, extension, rfl, hne, hall⟩ := h
  have hslash : '/' ∉ '.' :: extension := by
    intro hmem
    rcases List.mem_cons.1 hmem with hdot | hmem
    · exact absurd hdot (by decide)
    · exact absurd (hall '/' hmem) (by decide)
  obtain ⟨segments, last, -, hcut⟩ := cutSlash_append_of_not_mem before hslash
  obtain ⟨c, rest, rfl⟩ := List.exists_cons_of_ne_nil hne
  refine ⟨segments, last ++ '.' :: c :: rest, hcut, Path.isName_of_mem (c := c) (by simp) ?_⟩
  rintro rfl
  exact absurd (hall '.' (by simp)) (by decide)

theorem clamped_ne_nil (segments : List (List Char)) :
    Path.clamped (segments ++ cutSlash path) ≠ [] := by
  obtain ⟨before, name, hcut, hname⟩ := h.exists_cutSlash
  rw [hcut, ← List.append_assoc, Path.clamped_append_name _ hname]
  simp

end EndsInExtension

/-! ## Top theorems -/

theorem qualify_string_eq_ok_iff (specifier : String) :
    qualify (.string specifier) = .ok specifier ↔
      isProtocolUrl specifier.toList = false ∧ isRelativeOrFile specifier.toList = true ∧
        (MediaKind.ofPath? specifier.toList).isSome = true := by
  rw [qualify]
  cases isProtocolUrl specifier.toList <;> cases isRelativeOrFile specifier.toList <;>
    cases MediaKind.ofPath? specifier.toList <;> simp

theorem endsInExtension_of_qualify {specifier : String}
    (h : qualify (.string specifier) = .ok specifier) : EndsInExtension specifier.toList :=
  endsInExtension_of_ofPath? ((qualify_string_eq_ok_iff specifier).1 h).2.2

theorem isRelative_or_fileUrl {specifier : String}
    (h : qualify (.string specifier) = .ok specifier) :
    IsRelative specifier.toList ∨
      ∃ rest, specifier.toList = fileUrlStart ++ rest ∧ EndsInExtension rest := by
  have hstart := ((qualify_string_eq_ok_iff specifier).1 h).2.1
  rw [isRelativeOrFile, Bool.or_eq_true, Bool.or_eq_true] at hstart
  rcases hstart with hrelative | hfile
  · exact .inl hrelative
  · obtain ⟨rest, hrest⟩ := (startsWith_iff _ _).1 hfile
    exact .inr ⟨rest, hrest, (endsInExtension_of_qualify h).of_append hrest (by decide)⟩

end ServedMedia
