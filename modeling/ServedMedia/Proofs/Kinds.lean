import Mathlib.Data.List.TakeWhile
import ServedMedia.Proofs.Following
import ServedMedia.Proofs.Parsing

/-!
# The kind of media that is served

The kind of a path is read off its extension, an ASCII text behind the last dot.  Such
an ending goes through everything that happens to a specifier: what ends in it has it at
the end again when it is

    composed                                   (suffix_composed)
    read as the last segment of a URL          (suffix_read)
    encoded in a path and decoded from it      (suffix_encode, suffix_decode)
    seen from a document                       (suffix_relativeBetween)
    served below a mount                       (suffix_served)

So an import is served as media of the kind that its specifier has  (ofPath?_resolvePath).
A file URL that is seen from its document can lose the ending in two places alone: behind
the path, in a query or a fragment, and where the whole path is that of a directory which
the document lies in.
-/

namespace ServedMedia

/-- ASCII letters and digits, at least one. -/
structure IsExtension (extension : List Char) : Prop where
  ne_nil : extension ≠ []
  plain : ∀ c ∈ extension, c.isAlphanum = true

namespace Resolve

/-- A file URL that is seen from the document at the base, and the names of both. -/
structure SeenFrom (specifier : String) (base : Option String) (names target : List (List Char)) :
    Prop where
  file : startsWith fileUrlStart specifier.toList = true
  document : ∃ document, base = some document ∧ fileUrlNames? document = some names
  target : fileUrlNames? (String.ofList (Canonical.composed specifier.toList)) = some target

theorem SeenFrom.unique {specifier : String} {base : Option String}
    {names names' target target' : List (List Char)} (h : SeenFrom specifier base names target)
    (h' : SeenFrom specifier base names' target') : names = names' ∧ target = target' := by
  obtain ⟨document, hbase, hnames⟩ := h.document
  obtain ⟨document', hbase', hnames'⟩ := h'.document
  obtain rfl : document = document' := Option.some.inj (hbase.symm.trans hbase')
  exact ⟨Option.some.inj (hnames.symm.trans hnames'),
    Option.some.inj (h.target.symm.trans h'.target)⟩

end Resolve

/-! ## Endings -/

section
variable {extension : List Char} (hext : IsExtension extension)
include hext

theorem IsExtension.not_mem {c : Char} (hc : c.isAlphanum = false) : c ∉ extension := fun hmem => by
  rw [hext.plain c hmem] at hc
  cases hc

theorem IsExtension.not_mem_dot {c : Char} (hc : c.isAlphanum = false) (hdot : c ≠ '.') :
    c ∉ '.' :: extension := fun hmem =>
  (List.mem_cons.1 hmem).elim hdot (hext.not_mem hc)

/-- What holds of the ASCII letters and digits holds along the extension. -/
theorem IsExtension.forall_of_ascii {P : Char → Prop}
    (h : ∀ n < 0x80, (Char.ofNat n).isAlphanum = true → P (Char.ofNat n)) :
    ∀ c ∈ extension, P c := by
  intro c hmem
  have hc := hext.plain c hmem
  have hp := h c.toNat (toNat_lt_of_isAlphanum hc)
  rw [Char.ofNat_toNat] at hp
  exact hp hc

theorem IsExtension.map_toLower : IsExtension (extension.map Char.toLower) := by
  refine ⟨by simpa using hext.ne_nil, fun c hmem => ?_⟩
  obtain ⟨d, hd, rfl⟩ := List.mem_map.1 hmem
  exact hext.forall_of_ascii (P := fun d => d.toLower.isAlphanum = true) (by decide) d hd

theorem IsExtension.endsInExtension {text : List Char} (h : '.' :: extension <:+ text) :
    EndsInExtension text := by
  obtain ⟨before, rfl⟩ := h
  exact ⟨before, extension, rfl, hext.ne_nil, hext.plain⟩

/-- The extension holds no dot, so the text behind the last dot is all of it. -/
theorem extension?_of_suffix {text : List Char} (h : '.' :: extension <:+ text) :
    extension? text = some extension := by
  obtain ⟨before, rfl⟩ := h
  have hplain : ∀ c ∈ extension.reverse, decide (c ≠ '.') = true := by
    intro c hmem
    refine decide_eq_true fun hc => hext.not_mem (c := '.') (by decide) ?_
    rw [← hc]
    exact List.mem_reverse.1 hmem
  rw [extension?, if_pos (by simp), List.reverse_append, List.reverse_cons, List.append_assoc,
    List.takeWhile_append_of_pos hplain, List.singleton_append,
    List.takeWhile_cons_of_neg (by simp), List.append_nil, List.reverse_reverse]

theorem ofPath?_of_suffix {text : List Char} (h : '.' :: extension <:+ text) :
    MediaKind.ofPath? text = MediaKind.ofExtension? extension := by
  rw [MediaKind.ofPath?, extension?_of_suffix hext h]
  rfl

end

theorem exists_suffix_of_ofPath? {text : List Char} {kind : MediaKind}
    (h : MediaKind.ofPath? text = some kind) :
    ∃ extension, IsExtension extension ∧ '.' :: extension <:+ text ∧
      MediaKind.ofExtension? extension = some kind := by
  obtain ⟨extension, hsome, hkind⟩ := Option.bind_eq_some_iff.1 h
  obtain ⟨before, hbefore⟩ := exists_of_extension? hsome
  obtain ⟨hne, hplain⟩ := isAlphanum_of_ofExtension? (by rw [hkind]; rfl)
  exact ⟨extension, ⟨hne, hplain⟩, ⟨before, hbefore.symm⟩, hkind⟩

/-- What stands in front of the ending may be taken away. -/
theorem suffix_of_cons {extension text : List Char} {c : Char} (hc : c ≠ '.')
    (h : '.' :: extension <:+ c :: text) : '.' :: extension <:+ text := by
  rcases List.suffix_cons_iff.1 h with heq | hsuffix
  · exact absurd (List.cons.inj heq).1.symm hc
  · exact hsuffix

theorem suffix_of_append {extension text start : List Char} (hstart : '.' ∉ start)
    (h : '.' :: extension <:+ start ++ text) : '.' :: extension <:+ text := by
  induction start with
  | nil => exact h
  | cons c start ih =>
    obtain ⟨hc, hrest⟩ : '.' ≠ c ∧ '.' ∉ start := by simpa using hstart
    exact ih hrest (suffix_of_cons (Ne.symm hc) h)

/-! ## Texts -/

section
variable {extension text : List Char} (hext : IsExtension extension)
  (h : '.' :: extension <:+ text)
include hext h

theorem suffix_composed : '.' :: extension <:+ Canonical.composed text := by
  obtain ⟨before, rfl⟩ := h
  rw [Canonical.composed_append_cons_plain Canonical.isSolitary_dot]
  · exact List.suffix_append _ _
  · intro c hc
    exact Nat.lt_trans (toNat_lt_of_isAlphanum (hext.plain c hc)) (by decide)

theorem suffix_decode : '.' :: extension <:+ Percent.decode text := by
  obtain ⟨before, rfl⟩ := h
  rw [Percent.decode_append_cons (by decide) (by decide) (by decide),
    Percent.decode_eq_self (hext.not_mem (by decide))]
  exact List.suffix_append _ _

theorem suffix_encode : '.' :: extension <:+ Percent.encode FileUrl.encodedInPath text := by
  have hplain : ∀ c ∈ '.' :: extension, FileUrl.encodedInPath c = false :=
    List.forall_mem_cons.2 ⟨by decide, hext.forall_of_ascii (by decide)⟩
  obtain ⟨before, rfl⟩ := h
  rw [Percent.encode_append, Percent.encode_eq_self hplain]
  exact List.suffix_append _ _

theorem exists_cutSlash_append : ∃ pieces last, cutSlash text = pieces ++ [last] ∧
    '.' :: extension <:+ last := by
  obtain ⟨before, rfl⟩ := h
  obtain ⟨pieces, last, -, hcut⟩ :=
    cutSlash_append_of_not_mem before (hext.not_mem_dot (c := '/') (by decide) (by decide))
  exact ⟨pieces, last ++ '.' :: extension, hcut, List.suffix_append _ _⟩

/-- The end of the text is a character that no trimming takes away. -/
theorem trimEnd_eq_self : FileUrl.trimEnd text = text := by
  obtain ⟨before, rfl⟩ := h
  obtain ⟨init, c, rfl⟩ := List.eq_nil_or_concat extension |>.resolve_left hext.ne_nil
  have hblank : FileUrl.isBlank c = false :=
    hext.forall_of_ascii (P := fun d => FileUrl.isBlank d = false) (by decide) c (by simp)
  rw [List.concat_eq_append, ← List.cons_append, ← List.append_assoc]
  exact FileUrl.trimEnd_append_singleton hblank _

end

theorem suffix_joinSlash (pieces : List (List Char)) (last : List Char) :
    last <:+ joinSlash (pieces ++ [last]) := by
  by_cases hne : pieces = []
  · rw [hne]
    exact List.suffix_refl _
  · rw [joinSlash_append hne (by simp)]
    exact (List.suffix_cons '/' last).trans (List.suffix_append _ _)

/-! ## Segments of URLs -/

namespace FileUrl

section
variable {extension segment : List Char} (hext : IsExtension extension)
  (h : '.' :: extension <:+ segment)
include hext h

theorem isDrive_of_suffix : isDrive segment = false := by
  obtain ⟨c, hlast, hc⟩ := (hext.endsInExtension h).exists_last_char
  unfold isDrive
  split
  · next letter mark =>
    obtain rfl : mark = c := by simpa using hlast
    have hcolon : (mark == ':' || mark == '|') = false := by
      rw [Bool.or_eq_false_iff, beq_eq_false_iff_ne, beq_eq_false_iff_ne]
      constructor <;> rintro rfl <;> exact absurd hc (by decide)
    rw [hcolon, Bool.and_false]
  · rfl

/-- No dot segment ends in an extension, in whatever case it is written. -/
theorem isDot_of_suffix : isHere segment = false ∧ isUp segment = false := by
  have hlower : '.' :: extension.map Char.toLower <:+ segment.map Char.toLower := by
    obtain ⟨before, rfl⟩ := h
    rw [List.map_append]
    exact List.suffix_append _ _
  have hdots : ∀ dots ∈ dot ++ dot.flatMap (fun a => dot.map fun b => a ++ b),
      extension? dots = none ∨ extension? dots = some [] ∨
        (extension? dots).any (fun ending => '%' ∈ ending) = true := by
    decide
  have hmem : segment.map Char.toLower ∉
      dot ++ dot.flatMap (fun a => dot.map fun b => a ++ b) := by
    intro hmem
    have hlowered := hext.map_toLower
    have hsome := extension?_of_suffix hlowered hlower
    rcases hdots _ hmem with hnone | hnil | hpercent
    · rw [hsome] at hnone
      cases hnone
    · rw [hsome] at hnil
      exact hlowered.ne_nil (Option.some.inj hnil)
    · rw [hsome] at hpercent
      exact hlowered.not_mem (c := '%') (by decide) (by simpa using hpercent)
  rw [List.mem_append, not_or] at hmem
  exact ⟨by simpa [isHere] using hmem.1, by simpa [isUp] using hmem.2⟩

theorem suffix_unbroken : '.' :: extension <:+ unbroken segment := by
  have hplain : unbroken ('.' :: extension) = '.' :: extension :=
    unbroken_eq_self (List.forall_mem_cons.2 ⟨by decide, hext.forall_of_ascii (by decide)⟩)
  rw [← hplain]
  exact h.filter _

/-- A drive in front of a break is no part of the ending. -/
theorem suffix_of_brokenDrive? {drive name : List Char}
    (hdrive : brokenDrive? segment = some (drive, name)) : '.' :: extension <:+ name := by
  have hsuffix := suffix_unbroken hext h
  unfold brokenDrive? at hdrive
  split at hdrive
  · next letter next rest behind _ hunbroken _ =>
    split at hdrive
    · next hletter =>
      obtain ⟨-, rfl⟩ := Prod.mk.inj (Option.some.inj hdrive)
      rw [hunbroken] at hsuffix
      refine suffix_of_cons (by decide) (suffix_of_cons ?_ hsuffix)
      rintro rfl
      exact absurd (Bool.and_eq_true_iff.1 hletter).1 (by decide)
    · cases hdrive
  · cases hdrive

theorem step_of_suffix (reading : Reading) (isLast : Bool) :
    reading.step segment isLast = { reading with stack := segment :: reading.stack } := by
  obtain ⟨hhere, hup⟩ := isDot_of_suffix hext h
  simp [Reading.step, hhere, hup, Reading.push, isDrive_of_suffix hext h]

/-- The segment read last is on top of the stack, whatever was read before. -/
theorem suffix_read (reading : Reading) (segments : List (List Char)) :
    ∃ top rest, (read reading (segments ++ [segment])).stack = top :: rest ∧
      '.' :: extension <:+ top := by
  have hunbroken := suffix_unbroken hext h
  induction segments generalizing reading with
  | nil =>
    rw [List.nil_append, read]
    split
    · next drive name _ hdrive =>
      exact ⟨name, [drive], rfl, suffix_of_brokenDrive? hext h hdrive⟩
    · refine ⟨unbroken segment, reading.stack, ?_, hunbroken⟩
      rw [read, step_of_suffix hext hunbroken]
  | cons first segments ih =>
    rw [List.cons_append, read]
    split
    · exact ih _
    · exact ih _

end

theorem exists_dropEmpty_append (segments : List (List Char)) (last : List Char) :
    ∃ front, dropEmpty (segments ++ [last]) = front ++ [last] := by
  induction segments with
  | nil => exact ⟨[], by simp [dropEmpty]⟩
  | cons first segments ih =>
    obtain ⟨next, rest, hrest⟩ := List.exists_cons_of_ne_nil
      (List.append_ne_nil_of_right_ne_nil segments (List.cons_ne_nil last []))
    rw [List.cons_append]
    by_cases hfirst : first = []
    · rw [hfirst, hrest, dropEmpty, ← hrest]
      exact ih
    · exact ⟨first :: segments, by simp [dropEmpty, hfirst]⟩

/-- The ending of a path text is that of its last segment. -/
theorem exists_cutPath_append {extension text : List Char} (hext : IsExtension extension)
    (h : '.' :: extension <:+ text) :
    ∃ pieces last, cutPath text = pieces ++ [last] ∧ '.' :: extension <:+ last := by
  have hplain : ('.' :: extension).map (fun c => if isSlash c then '/' else c) =
      '.' :: extension := by
    have hkept : ∀ c ∈ '.' :: extension, (if isSlash c then '/' else c) = c :=
      List.forall_mem_cons.2 ⟨by decide, hext.forall_of_ascii (by decide)⟩
    exact (List.map_congr_left hkept).trans (List.map_id _)
  apply exists_cutSlash_append hext
  rw [← hplain]
  exact h.map _

/-- The last name of a URL has the ending of its path. -/
theorem exists_names_append {extension text : List Char} (hext : IsExtension extension)
    (h : '.' :: extension <:+ text) (hpath : ∀ c ∈ text, endsPath c = false)
    (host : Option (List Char)) :
    ∃ front last, (ofPathText host text).names = front ++ [last] ∧ '.' :: extension <:+ last := by
  have htext : text.takeWhile (fun c => !endsPath c) = text :=
    List.takeWhile_eq_self_iff.2 fun c hc => by rw [hpath c hc]; rfl
  obtain ⟨pieces, last, hcut, hlast⟩ := exists_cutPath_append hext h
  obtain ⟨top, rest, hstack, htop⟩ := suffix_read hext hlast ⟨host, []⟩ pieces
  obtain ⟨front, hfront⟩ := exists_dropEmpty_append rest.reverse top
  have hencoded := suffix_encode hext htop
  have hne : Percent.encode encodedInPath top ≠ [] := by
    intro hnil
    rw [hnil] at hencoded
    exact absurd (List.suffix_nil.1 hencoded) (List.cons_ne_nil _ _)
  have hnames : (ofPathText host text).names =
      ((front.map (Percent.encode encodedInPath)).filter (· ≠ [])).map
          (fun segment => Canonical.composed (Percent.decode segment)) ++
        [Canonical.composed (Percent.decode (Percent.encode encodedInPath top))] := by
    have hkept : [Percent.encode encodedInPath top].filter (fun segment => segment ≠ []) =
        [Percent.encode encodedInPath top] := by
      simp [hne]
    rw [names, ofPathText, htext, hcut]
    simp only [hstack, List.reverse_cons, hfront, List.map_append, List.filter_append,
      List.map_cons, List.map_nil, hkept]
  exact ⟨_, _, hnames, suffix_composed hext (suffix_decode hext hencoded)⟩

end FileUrl

namespace Resolve

/-! ## Places -/

/-- A target that is not on the way to the directory keeps its last name on the path to it. -/
theorem suffix_relativeBetween {names front : List (List Char)} {last : List Char}
    (hbelow : ¬ front ++ [last] <+: directoryOf names) :
    last <:+ relativeBetween names (front ++ [last]) := by
  obtain ⟨shared, back, rest, hfork⟩ := exists_fork (directoryOf names) (front ++ [last])
  have hrest : rest ≠ [] := by
    rintro rfl
    refine hbelow ⟨back, ?_⟩
    rw [hfork.directory_eq, hfork.target_eq, List.append_nil]
  obtain ⟨init, name, rfl⟩ := List.eq_nil_or_concat rest |>.resolve_left hrest
  obtain rfl : last = name := by
    have htarget := hfork.target_eq
    rw [List.concat_eq_append, ← List.append_assoc] at htarget
    exact (List.append_inj' htarget rfl).2 |> List.singleton_inj.1
  have hsegments := hfork.ascentAndDescent_eq
  rw [List.concat_eq_append, ← List.append_assoc] at hsegments
  have hne : ascentAndDescent (directoryOf names) (front ++ [last]) ≠ [] := by
    rw [hsegments]
    simp
  obtain ⟨before, -, heq⟩ := relativeBetween_eq hne
  rw [heq, hsegments, ← List.append_assoc]
  exact suffix_joinSlash _ _

theorem ofPath?_relativeBetween {names front : List (List Char)} {last : List Char}
    {kind : MediaKind} (h : MediaKind.ofPath? last = some kind)
    (hbelow : ¬ front ++ [last] <+: directoryOf names) :
    MediaKind.ofPath? (relativeBetween names (front ++ [last])) = some kind := by
  obtain ⟨extension, hext, hsuffix, hof⟩ := exists_suffix_of_ofPath? h
  rw [ofPath?_of_suffix hext (hsuffix.trans (suffix_relativeBetween hbelow)), hof]

/-- The last segment of a path is a name, and the one that its URL ends in. -/
theorem suffix_served {extension path : List Char} (hext : IsExtension extension)
    (h : '.' :: extension <:+ path) (mount : List Char) :
    '.' :: extension <:+ served (trimSlashes mount) path := by
  have hends := hext.endsInExtension h
  have hne : path ≠ [] := by
    rintro rfl
    exact absurd (List.suffix_nil.1 h) (List.cons_ne_nil _ _)
  obtain ⟨pieces, last, hcut, hlast⟩ := exists_cutSlash_append hext h
  have hname : Path.IsName last := by
    obtain ⟨c, rest, rfl⟩ := List.exists_cons_of_ne_nil hext.ne_nil
    refine Path.isName_of_mem (c := c) (hlast.subset (by simp)) ?_
    rintro rfl
    exact hext.not_mem (c := '.') (by decide) List.mem_cons_self
  rw [served_eq_clamped hne hends.getLast?_ne_slash (hends.clamped_ne_nil _), hcut,
    ← List.append_assoc, Path.clamped_append_name _ hname]
  exact (hlast.trans (suffix_joinSlash _ _)).trans (List.suffix_cons _ _)

theorem ofPath?_served {path : List Char} {kind : MediaKind} (mount : List Char)
    (h : MediaKind.ofPath? path = some kind) :
    MediaKind.ofPath? (served (trimSlashes mount) path) = some kind := by
  obtain ⟨extension, hext, hsuffix, hof⟩ := exists_suffix_of_ofPath? h
  rw [ofPath?_of_suffix hext (suffix_served hext hsuffix _), hof]

/-- Without a query and a fragment, the ending of the specifier is that of the target. -/
theorem exists_target_append {specifier : String} {extension : List Char}
    {base : Option String} {names target : List (List Char)} (hext : IsExtension extension)
    (h : '.' :: extension <:+ specifier.toList)
    (hpath : ∀ c ∈ specifier.toList, FileUrl.endsPath c = false)
    (hseen : SeenFrom specifier base names target) :
    ∃ front last, target = front ++ [last] ∧ '.' :: extension <:+ last := by
  obtain ⟨rest, hrest⟩ := (startsWith_iff _ _).1 hseen.file
  have hsuffix : '.' :: extension <:+ Canonical.composed rest :=
    suffix_composed hext (suffix_of_append (by decide) (hrest ▸ h))
  have hplain : ∀ c ∈ '/' :: Canonical.composed rest, FileUrl.endsPath c = false := by
    refine List.forall_mem_cons.2 ⟨by decide, fun c hc => ?_⟩
    rw [FileUrl.endsPath, Bool.or_eq_false_iff, beq_eq_false_iff_ne, beq_eq_false_iff_ne]
    constructor
    · rintro rfl
      have hmem := Canonical.mem_of_mem_composed Canonical.isOriginal_question hc
      exact absurd (hpath '?' (hrest ▸ List.mem_append_right _ hmem)) (by decide)
    · rintro rfl
      have hmem := Canonical.mem_of_mem_composed Canonical.isOriginal_hash hc
      exact absurd (hpath '#' (hrest ▸ List.mem_append_right _ hmem)) (by decide)
  have htarget := hseen.target
  rw [fileUrlNames?, String.toList_ofList, hrest, composed_fileUrl, FileUrl.parse?_fileUrlStart,
    trimEnd_eq_self hext hsuffix] at htarget
  rw [← Option.some.inj htarget]
  exact FileUrl.exists_names_append hext (hsuffix.trans (List.suffix_cons _ _)) hplain none

/-- The last name of the target has the kind of the specifier, if the one that stands before
a query or a fragment does. -/
theorem exists_last_of_seenFrom {specifier : String} {base : Option String}
    {names target : List (List Char)} {kind : MediaKind}
    (hseen : SeenFrom specifier base names target)
    (hkind : MediaKind.ofPath? specifier.toList = some kind)
    (hquery : (∃ c ∈ specifier.toList, FileUrl.endsPath c = true) →
      ∃ last, target.getLast? = some last ∧
        MediaKind.ofPath? last = MediaKind.ofPath? specifier.toList) :
    ∃ front last, target = front ++ [last] ∧ MediaKind.ofPath? last = some kind := by
  by_cases hends : ∃ c ∈ specifier.toList, FileUrl.endsPath c = true
  · obtain ⟨last, hlast, heq⟩ := hquery hends
    obtain ⟨front, hfront⟩ := List.getLast?_eq_some_iff.1 hlast
    exact ⟨front, last, hfront, heq.trans hkind⟩
  · obtain ⟨extension, hext, hsuffix, hof⟩ := exists_suffix_of_ofPath? hkind
    obtain ⟨front, last, hfront, hlast⟩ := exists_target_append hext hsuffix
      (fun c hc => by simpa using fun htrue => hends ⟨c, hc, htrue⟩) hseen
    exact ⟨front, last, hfront, (ofPath?_of_suffix hext hlast).trans hof⟩

/-! ## Top theorems -/

theorem ofPath?_resolvePath {specifier : String} (mount base : Option String)
    (hqualify : qualify (.string specifier) = .ok specifier)
    (hquery : ∀ names target, SeenFrom specifier base names target →
      (∃ c ∈ specifier.toList, FileUrl.endsPath c = true) →
        ∃ last, target.getLast? = some last ∧
          MediaKind.ofPath? last = MediaKind.ofPath? specifier.toList)
    (hbelow : ∀ names target, SeenFrom specifier base names target →
      ¬ target <+: directoryOf names) :
    ∃ kind, MediaKind.ofPath? specifier.toList = some kind ∧
      MediaKind.ofPath? (resolvePath specifier mount base).1.toList = some kind := by
  obtain ⟨kind, hkind⟩ :=
    Option.isSome_iff_exists.1 ((qualify_string_eq_ok_iff specifier).1 hqualify).2.2
  refine ⟨kind, hkind, ?_⟩
  obtain ⟨extension, hext, hsuffix, hof⟩ := exists_suffix_of_ofPath? hkind
  rcases isRelative_or_fileUrl hqualify with hrelative | ⟨rest, hrest, -⟩
  · rw [resolvePath_of_isRelative hrelative, String.toList_ofList]
    exact ofPath?_served _ ((ofPath?_of_suffix hext (suffix_composed hext hsuffix)).trans hof)
  · rcases resolvePath_cases hrest mount base with
      ⟨document, names, target, hbase, hnames, htarget, hpath⟩ | ⟨-, diagnostic, hpath⟩
    · have hseen : SeenFrom specifier base names target :=
        ⟨(startsWith_iff _ _).2 ⟨rest, hrest⟩, ⟨document, hbase, hnames⟩, htarget⟩
      obtain ⟨front, last, rfl, hlast⟩ :=
        exists_last_of_seenFrom hseen hkind (hquery names target hseen)
      rw [hpath, String.toList_ofList]
      exact ofPath?_served _ (ofPath?_relativeBetween hlast (hbelow names _ hseen))
    · have hsuffix' := suffix_composed hext (suffix_of_append (by decide) (hrest ▸ hsuffix))
      rw [hpath, String.toList_ofList]
      exact ofPath?_served _ ((ofPath?_of_suffix hext hsuffix').trans hof)

/-- The query ends in an extension of the kind that the path has as well. -/
theorem ofPath?_resolvePath_clip :
    qualify (.string "file:///a/1%2Ejpg/my%20clip.MP4?was=old.webm") =
      .ok "file:///a/1%2Ejpg/my%20clip.MP4?was=old.webm" ∧
    SeenFrom "file:///a/1%2Ejpg/my%20clip.MP4?was=old.webm" (some "file:///a/posts/x.mdx")
      ["a".toList, "posts".toList, "x.mdx".toList]
      ["a".toList, "1.jpg".toList, "my clip.MP4".toList] ∧
    ∃ kind, MediaKind.ofPath? "file:///a/1%2Ejpg/my%20clip.MP4?was=old.webm".toList = some kind ∧
      MediaKind.ofPath? (resolvePath "file:///a/1%2Ejpg/my%20clip.MP4?was=old.webm"
        (some "/site/") (some "file:///a/posts/x.mdx")).1.toList = some kind := by
  have hseen : SeenFrom "file:///a/1%2Ejpg/my%20clip.MP4?was=old.webm"
      (some "file:///a/posts/x.mdx") ["a".toList, "posts".toList, "x.mdx".toList]
      ["a".toList, "1.jpg".toList, "my clip.MP4".toList] :=
    ⟨by decide, ⟨_, rfl, by decide +kernel⟩, by decide +kernel⟩
  refine ⟨rfl, hseen, ofPath?_resolvePath (some "/site/") (some "file:///a/posts/x.mdx") rfl ?_ ?_⟩
  · intro names target hother _
    obtain ⟨rfl, rfl⟩ := hseen.unique hother
    exact ⟨"my clip.MP4".toList, rfl, by decide⟩
  · intro names target hother
    obtain ⟨rfl, rfl⟩ := hseen.unique hother
    decide

/-- The document lies in a directory with the name of an image. -/
theorem ofPath?_resolvePath_directory :
    qualify (.string "file:///a/x.png") = .ok "file:///a/x.png" ∧
    MediaKind.ofPath? "file:///a/x.png".toList = some .image ∧
    (resolvePath "file:///a/x.png" none (some "file:///a/x.png/index.mdx")).1 = "/" ∧
    MediaKind.ofPath? (resolvePath "file:///a/x.png" none
      (some "file:///a/x.png/index.mdx")).1.toList = none := by
  have hroot : (resolvePath "file:///a/x.png" none (some "file:///a/x.png/index.mdx")).1 = "/" := by
    decide +kernel
  refine ⟨rfl, by decide, hroot, ?_⟩
  rw [hroot]
  decide

end Resolve

end ServedMedia
