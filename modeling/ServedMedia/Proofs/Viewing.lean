import ServedMedia.Proofs.Following
import ServedMedia.Proofs.Validation

/-!
# What a document sees of a file URL

Seen from a document, a file URL is a path of ascents and names.  For a target inside the
directory that a base names, the path is marked with a dot:

    relativePath url (some document) =
      ("./" ++ joinSlash (fileOf directory ++ below), [])                (relativePath_inside)

Here `directory ++ below` is the target, and `fileOf directory` is the last name of the
base if that has an extension, with a slash behind it or without.  The first name of the
path must not begin with two dots, for then it is taken for an ascent.

A path so made begins with "./" or "../" with two exceptions: it is a single ascent, to the
directory right above, or the dots that it begins with are those of a name
                                                                 (isRelative_relativePath_iff).

A file URL with no base that can be used is served like the path behind "file:///" would be
that is written as a relative one, and one diagnostic says why        (resolvePath_unseen).
-/

namespace ServedMedia

namespace Resolve

open ServedMedia.Path

/-! ## Algorithm -/

/-- The last name along a URL, if it is a file's. -/
def fileOf (names : List (List Char)) : List (List Char) :=
  names.getLast?.toList.filter hasExtension

/-- Two dots at the start that no slash follows. -/
def OpensWithDots (text : List Char) : Prop :=
  startsWith up text = true ∧ startsWith "../".toList text = false

/-- What is said of a file URL when there is no base for it, or none that can be used. -/
def unseen (url : String) : Option String → Diagnostic
  | none => .missingBaseUrl url
  | some document => .invalidFileUrl document url

/-! ## Directories -/

theorem directoryOf_append_fileOf (names : List (List Char)) :
    directoryOf names ++ fileOf names = names := by
  unfold directoryOf fileOf
  cases hlast : names.getLast? with
  | none => simp
  | some last =>
    obtain ⟨init, rfl⟩ := List.getLast?_eq_some_iff.1 hlast
    cases hext : hasExtension last <;> simp [hext]

theorem ascentAndDescent_append (directory below : List (List Char)) :
    ascentAndDescent directory (directory ++ below) = below := by
  have hfork : Fork directory (directory ++ below) directory [] below := ⟨by simp, rfl, by simp⟩
  exact hfork.ascentAndDescent_eq

section
variable {directory target shared back rest : List (List Char)}

theorem Fork.symm (h : Fork directory target shared back rest) :
    Fork target directory shared rest back :=
  ⟨h.target_eq, h.directory_eq, fun name hrest hback => h.parted name hback hrest⟩

/-- A target in the directory is on no other way. -/
theorem Fork.of_append (h : Fork directory target shared back rest) {below : List (List Char)}
    (hbelow : target = directory ++ below) : back = [] ∧ rest = below := by
  have hrest : rest = back ++ below := by
    rw [h.target_eq, h.directory_eq, List.append_assoc] at hbelow
    exact List.append_cancel_left hbelow
  cases back with
  | nil => exact ⟨rfl, hrest⟩
  | cons name back => exact absurd (by rw [hrest]; rfl) (h.parted name rfl)

end

/-! ## Paths -/

theorem isRelative_relativeBetween_iff_not_opens (names target : List (List Char)) :
    IsRelative (relativeBetween names target) ↔
      ¬ OpensWithDots (joinSlash (ascentAndDescent (directoryOf names) target)) := by
  unfold relativeBetween
  dsimp only
  generalize joinSlash (ascentAndDescent (directoryOf names) target) = path
  unfold OpensWithDots
  split
  · next hup =>
    obtain ⟨rest, hrest⟩ := (startsWith_iff _ _).1 hup
    have hhere : startsWith "./".toList path = false := by rw [hrest]; rfl
    rw [IsRelative, hhere, hup]
    simp only [Bool.false_eq_true, false_or, true_and, Bool.not_eq_false]
  · next hup =>
    refine iff_of_true (.inl ((startsWith_iff _ _).2 ⟨path, rfl⟩)) ?_
    simp [hup]

/-- One ascent with nothing behind it ends in its dots; behind two there is a slash. -/
theorem opensWithDots_ascents_iff (n : Nat) (rest : List (List Char)) :
    OpensWithDots (joinSlash (List.replicate n up ++ rest)) ↔
      (n = 1 ∧ rest = []) ∨ (n = 0 ∧ OpensWithDots (joinSlash rest)) := by
  cases n with
  | zero => simp
  | succ n =>
    by_cases hmore : List.replicate n up ++ rest = []
    · obtain ⟨hn, rfl⟩ := List.append_eq_nil_iff.1 hmore
      obtain rfl : n = 0 := by simpa using hn
      simp [OpensWithDots, joinSlash, startsWith, afterStart?, up]
    · have hslash : startsWith "../".toList
          (joinSlash (List.replicate (n + 1) up ++ rest)) = true := by
        rw [List.replicate_succ, List.cons_append, joinSlash_cons_of_ne_nil up hmore]
        rfl
      refine iff_of_false (fun hopens => ?_) ?_
      · rw [OpensWithDots, hslash] at hopens
        cases hopens.2
      · rintro (⟨hn, rfl⟩ | ⟨hn, -⟩)
        · obtain rfl : n = 0 := Nat.succ.inj hn
          exact hmore rfl
        · cases hn

/-- A path begins with "./" or "../" unless it is the one ascent to the directory right above,
or leads into the directory by a name with two dots at its start. -/
theorem isRelative_relativeBetween_iff (names target : List (List Char)) :
    IsRelative (relativeBetween names target) ↔
      (∀ name, directoryOf names ≠ target ++ [name]) ∧
        ∀ below, target = directoryOf names ++ below → ¬ OpensWithDots (joinSlash below) := by
  obtain ⟨shared, back, rest, hfork⟩ := exists_fork (directoryOf names) target
  have habove : (back.length = 1 ∧ rest = []) ↔ ∃ name, directoryOf names = target ++ [name] := by
    constructor
    · rintro ⟨hback, rfl⟩
      obtain ⟨name, rfl⟩ := List.length_eq_one_iff.1 hback
      exact ⟨name, by rw [hfork.directory_eq, hfork.target_eq, List.append_nil]⟩
    · rintro ⟨name, hname⟩
      obtain ⟨hrest, rfl⟩ := hfork.symm.of_append hname
      exact ⟨rfl, hrest⟩
  have hbelow : (back.length = 0 ∧ OpensWithDots (joinSlash rest)) ↔
      ∃ below, target = directoryOf names ++ below ∧ OpensWithDots (joinSlash below) := by
    constructor
    · rintro ⟨hback, hopens⟩
      obtain rfl := List.eq_nil_of_length_eq_zero hback
      exact ⟨rest, by rw [hfork.directory_eq, hfork.target_eq, List.append_nil], hopens⟩
    · rintro ⟨below, hbelow, hopens⟩
      obtain ⟨rfl, rfl⟩ := hfork.of_append hbelow
      exact ⟨rfl, hopens⟩
  rw [isRelative_relativeBetween_iff_not_opens, hfork.ascentAndDescent_eq, opensWithDots_ascents_iff,
    habove, hbelow]
  simp only [not_or, not_exists, not_and, ne_eq]

/-- Only the path that leads nowhere else is a dot and a slash. -/
theorem relativeBetween_eq_here_iff {names target : List (List Char)}
    (hnames : ∀ name ∈ target, name ≠ []) :
    relativeBetween names target = "./".toList ↔ target = directoryOf names := by
  constructor
  · intro heq
    obtain ⟨shared, back, rest, hfork⟩ := exists_fork (directoryOf names) target
    have hpieces : ∀ piece ∈ List.replicate back.length up ++ rest, piece ≠ [] := by
      intro piece hmem
      rcases List.mem_append.1 hmem with hup | hname
      · rw [List.eq_of_mem_replicate hup]
        decide
      · apply hnames
        rw [hfork.target_eq]
        exact List.mem_append_right _ hname
    have hnil : List.replicate back.length up ++ rest = [] := by
      rw [← joinSlash_eq_nil_iff hpieces, ← hfork.ascentAndDescent_eq]
      unfold relativeBetween at heq
      dsimp only at heq
      split at heq
      · next hup =>
        rw [heq] at hup
        cases hup
      · exact List.append_right_eq_self.1 heq
    obtain ⟨hback, rfl⟩ := List.append_eq_nil_iff.1 hnil
    obtain rfl : back = [] := by simpa using hback
    rw [hfork.target_eq, hfork.directory_eq]
  · intro heq
    have hnil := ascentAndDescent_append target []
    rw [List.append_nil] at hnil
    rw [relativeBetween, ← heq, hnil]
    rfl

/-- Behind the directory of a document comes the path from there, marked with a dot. -/
theorem relativeBetween_append {directory below : List (List Char)}
    (hfirst : ∀ name, (fileOf directory ++ below).head? = some name →
      startsWith up name = false) :
    relativeBetween directory (directory ++ below) =
      "./".toList ++ joinSlash (fileOf directory ++ below) := by
  have hpath := ascentAndDescent_append (directoryOf directory) (fileOf directory ++ below)
  rw [← List.append_assoc, directoryOf_append_fileOf] at hpath
  have hup : startsWith up (joinSlash (fileOf directory ++ below)) = false := by
    cases hpieces : fileOf directory ++ below with
    | nil => rfl
    | cons name rest =>
      rw [startsWith_joinSlash (by decide)]
      exact hfirst name (by rw [hpieces]; rfl)
  unfold relativeBetween
  dsimp only
  rw [hpath, if_neg (by simp [hup])]

/-! ## File URLs that are not seen -/

section
variable {base : Option String}
  (hbase : ∀ document, base = some document → fileUrlNames? document = none)
include hbase

theorem complaint?_of_unusable {specifier : String}
    (hfile : startsWith fileUrlStart specifier.toList = true) :
    complaint? specifier base =
      some (unseen (String.ofList (Canonical.composed specifier.toList)) base) := by
  have htarget := isSome_fileUrlNames?_composed hfile
  unfold complaint?
  rw [if_pos hfile]
  cases base with
  | none => rfl
  | some document => simp [Option.isNone_eq_false_iff.2 htarget, hbase document rfl, unseen]

/-- A file URL that is not seen from anywhere is served along its own path. -/
theorem resolvePath_of_unusable {specifier : String} {rest : List Char} (mount : Option String)
    (hqualify : qualify (.string specifier) = .ok specifier)
    (hrest : specifier.toList = fileUrlStart ++ rest) :
    resolvePath specifier mount base =
      (String.ofList (served (trimSlashes (mount.getD "").toList) (Canonical.composed rest)),
        [unseen (String.ofList (Canonical.composed specifier.toList)) base]) := by
  have hsnd := resolvePath_snd mount base hqualify
  rw [complaint?_of_unusable hbase ((startsWith_iff _ _).2 ⟨rest, hrest⟩)] at hsnd
  rcases resolvePath_cases hrest mount base with
    ⟨document, names, target, hsome, hnames, -⟩ | ⟨-, diagnostic, hresolved⟩
  · rw [hbase document hsome] at hnames
    cases hnames
  · rw [hresolved] at hsnd
    rw [hresolved]
    exact Prod.ext rfl hsnd

end

/-- A dot segment in front of a path that ends in a name says nothing below a mount. -/
theorem served_here {path : List Char} (h : EndsInExtension path) (mount : List Char) :
    served (trimSlashes mount) ('.' :: '/' :: path) = served (trimSlashes mount) path := by
  have hcut : cutSlash ('.' :: '/' :: path) = here :: cutSlash path :=
    cutSlash_append_slash here path
  have hlonger : EndsInExtension ('.' :: '/' :: path) := by
    obtain ⟨before, extension, rfl, hne, hall⟩ := h
    exact ⟨'.' :: '/' :: before, extension, rfl, hne, hall⟩
  have hne : path ≠ [] := by
    rintro rfl
    obtain ⟨c, hlast, -⟩ := h.exists_last_char
    cases hlast
  rw [served_eq_clamped (by simp) hlonger.getLast?_ne_slash (hlonger.clamped_ne_nil _),
    served_eq_clamped hne h.getLast?_ne_slash (h.clamped_ne_nil _), hcut, clamped_append_here]

/-! ## Top theorems -/

theorem relativePath_inside {url document : String} {directory below : List (List Char)}
    (hbase : fileUrlNames? document = some directory)
    (htarget : fileUrlNames? url = some (directory ++ below))
    (hfirst : ∀ name, (fileOf directory ++ below).head? = some name →
      startsWith up name = false) :
    relativePath url (some document) =
      (String.ofList ("./".toList ++ joinSlash (fileOf directory ++ below)), []) := by
  rw [← relativeBetween_append hfirst]
  simp [relativePath, htarget, hbase]

/-- The name of the directory begins with its only dot. -/
theorem relativePath_inside_hidden :
    fileUrlNames? "file:///cafe\u0301/.config/" = some ["café".toList, ".config".toList] ∧
    fileUrlNames? "file:///caf%C3%A9/.config/a%2Fb/x%20y.png" =
      some (["café".toList, ".config".toList] ++ ["a/b".toList, "x y.png".toList]) ∧
    (∀ name, (fileOf ["café".toList, ".config".toList] ++
      ["a/b".toList, "x y.png".toList]).head? = some name → startsWith up name = false) ∧
    relativePath "file:///caf%C3%A9/.config/a%2Fb/x%20y.png" (some "file:///cafe\u0301/.config/") =
      ("./a/b/x y.png", []) := by
  have hbase : fileUrlNames? "file:///cafe\u0301/.config/" =
      some ["café".toList, ".config".toList] := by
    decide +kernel
  have htarget : fileUrlNames? "file:///caf%C3%A9/.config/a%2Fb/x%20y.png" =
      some (["café".toList, ".config".toList] ++ ["a/b".toList, "x y.png".toList]) := by
    decide +kernel
  have hfirst : ∀ name, (fileOf ["café".toList, ".config".toList] ++
      ["a/b".toList, "x y.png".toList]).head? = some name → startsWith up name = false := by
    rintro _ ⟨⟩
    decide
  exact ⟨hbase, htarget, hfirst, (relativePath_inside hbase htarget hfirst).trans rfl⟩

/-- A directory with a dot in its name is taken for a file, though a slash follows it. -/
theorem relativePath_ne_inside_version :
    (FileUrl.parse? "file:///site/v1.2/".toList).map (fun url => url.path.getLast?) =
      some (some []) ∧
    fileUrlNames? "file:///site/v1.2/" = some ["site".toList, "v1.2".toList] ∧
    fileUrlNames? "file:///site/v1.2/a.png" =
      some (["site".toList, "v1.2".toList] ++ ["a.png".toList]) ∧
    relativePath "file:///site/v1.2/a.png" (some "file:///site/v1.2/") ≠
      (String.ofList ("./".toList ++ joinSlash ["a.png".toList]), []) := by
  refine ⟨by decide +kernel, by decide +kernel, by decide +kernel, by decide +kernel⟩

theorem isRelative_relativePath_iff {url document : String} {names target : List (List Char)}
    (htarget : fileUrlNames? url = some target) (hbase : fileUrlNames? document = some names) :
    ∃ path, relativePath url (some document) = (String.ofList path, []) ∧
      (IsRelative path ↔ (∀ name, directoryOf names ≠ target ++ [name]) ∧
        ∀ below, target = directoryOf names ++ below → ¬ OpensWithDots (joinSlash below)) ∧
      (path = "./".toList ↔ target = directoryOf names) :=
  ⟨relativeBetween names target, by simp [relativePath, htarget, hbase],
    isRelative_relativeBetween_iff names target,
    relativeBetween_eq_here_iff (ne_nil_of_mem_fileUrlNames? htarget)⟩

/-- The name with the dots lies behind an ascent. -/
theorem isRelative_relativePath_beside :
    fileUrlNames? "file:///site/..b/c.png" =
      some ["site".toList, "..b".toList, "c.png".toList] ∧
    fileUrlNames? "file:///site/posts/a.mdx" =
      some ["site".toList, "posts".toList, "a.mdx".toList] ∧
    ∃ path, relativePath "file:///site/..b/c.png" (some "file:///site/posts/a.mdx") =
        (String.ofList path, []) ∧
      IsRelative path ∧ path ≠ "./".toList := by
  have htarget : fileUrlNames? "file:///site/..b/c.png" =
      some ["site".toList, "..b".toList, "c.png".toList] := by
    decide +kernel
  have hbase : fileUrlNames? "file:///site/posts/a.mdx" =
      some ["site".toList, "posts".toList, "a.mdx".toList] := by
    decide +kernel
  have hdirectory : directoryOf ["site".toList, "posts".toList, "a.mdx".toList] =
      ["site".toList, "posts".toList] := by
    decide
  obtain ⟨path, hpath, hrelative, hhere⟩ := isRelative_relativePath_iff htarget hbase
  rw [hdirectory] at hrelative hhere
  refine ⟨htarget, hbase, path, hpath, hrelative.2 ⟨fun name => ?_, fun below => ?_⟩, ?_⟩
  · simp
  · simp
  · rw [ne_eq, hhere]
    simp

/-- The dots of a name at the start are taken for an ascent. -/
theorem not_isRelative_relativePath_dotted :
    fileUrlNames? "file:///site/..b.png" = some ["site".toList, "..b.png".toList] ∧
    fileUrlNames? "file:///site/" = some ["site".toList] ∧
    (relativePath "file:///site/..b.png" (some "file:///site/")).1 = "..b.png" ∧
    ¬ IsRelative (relativePath "file:///site/..b.png" (some "file:///site/")).1.toList := by
  have hpath : (relativePath "file:///site/..b.png" (some "file:///site/")).1 = "..b.png" := by
    decide +kernel
  refine ⟨by decide +kernel, by decide +kernel, hpath, ?_⟩
  rw [hpath, IsRelative]
  decide

theorem resolvePath_unseen {path : String} (mount : Option String) {base : Option String}
    (hqualify : qualify (.string ("file:///" ++ path)) = .ok ("file:///" ++ path))
    (hbase : ∀ document, base = some document → fileUrlNames? document = none) :
    resolvePath ("file:///" ++ path) mount base =
      ((resolvePath ("./" ++ path) mount none).1,
        [unseen (String.ofList (Canonical.composed ("file:///" ++ path).toList)) base]) := by
  have hfile : ("file:///" ++ path).toList = fileUrlStart ++ path.toList := String.toList_append
  have hhere : ("./" ++ path).toList = '.' :: '/' :: path.toList := String.toList_append
  have hext : EndsInExtension path.toList :=
    (endsInExtension_of_qualify hqualify).of_append hfile (by decide)
  have hrelative : IsRelative ("./" ++ path).toList :=
    .inl ((startsWith_iff _ _).2 ⟨path.toList, hhere⟩)
  have hplain : ∀ c ∈ here, c.toNat < 0xC0 := by simp [here]
  have hcomposed : Canonical.composed ("./" ++ path).toList =
      '.' :: '/' :: Canonical.composed path.toList := by
    rw [hhere]
    exact Canonical.composed_plain_append_cons Canonical.isSolitary_slash hplain path.toList
  rw [resolvePath_of_unusable hbase mount hqualify hfile, resolvePath_of_isRelative hrelative,
    hcomposed, served_here hext.composed]

/-- Slashes at the start and a second "file:///" are segments that say nothing, or names. -/
theorem resolvePath_unseen_nested :
    qualify (.string ("file:///" ++ "/..//file:///C|/b/../cafe\u0301.png")) =
      .ok ("file:///" ++ "/..//file:///C|/b/../cafe\u0301.png") ∧
    fileUrlNames? "https://hub/posts/a.mdx" = none ∧
    resolvePath ("file:///" ++ "/..//file:///C|/b/../cafe\u0301.png") (some "/x/y/")
        (some "https://hub/posts/a.mdx") =
      ("/x/file:/C|/café.png", [.invalidFileUrl "https://hub/posts/a.mdx"
        "file:////..//file:///C|/b/../café.png"]) := by
  have hbase : ∀ document, some "https://hub/posts/a.mdx" = some document →
      fileUrlNames? document = none := by
    rintro _ ⟨⟩
    decide +kernel
  refine ⟨rfl, hbase _ rfl, (resolvePath_unseen (some "/x/y/") rfl hbase).trans ?_⟩
  decide +kernel

end Resolve

end ServedMedia
