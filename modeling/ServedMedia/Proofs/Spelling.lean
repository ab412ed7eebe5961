import ServedMedia.Proofs.Equivalence
import ServedMedia.Proofs.Following
import ServedMedia.Proofs.Naming

/-!
# Spellings of a file URL

A name can be written in many ways along a URL.  Any canonically equivalent text may stand
for it, and any character may be escaped by its octets, with digits of either case; some
characters have to be.  All spellings are read as the same names:

    decode segment = text,  if `segment` is `text` so written                 (Writes.decode)
    fileUrlNames? url = some (names.map composed),
      if `url` spells `names`                                      (SpellsUrl.fileUrlNames?)

So it does not matter for the path from a document to a target how the two are spelled
(relativePath_spelled).  Nor does it matter where the directory that holds them both lies, for
the names on the way there are shared                                  (resolvePath_relocated).
-/

namespace ServedMedia

namespace FileUrl

/-! ## Algorithm -/

/-- Whether a character cannot stand for itself in a name. -/
def mustEscape (c : Char) : Bool := c == '%' || isCut c

/-- Octets as escapes, with digits of either case. -/
inductive WritesOctets : List Nat → List Char → Prop
  | nil : WritesOctets [] []
  | cons {b : Nat} {bs : List Nat} {high low : Char} {text : List Char}
      (hhigh : hexValue? high = some (b / 16)) (hlow : hexValue? low = some (b % 16))
      (hrest : WritesOctets bs text) : WritesOctets (b :: bs) ('%' :: high :: low :: text)

/-- A text of which any characters are escaped, and those that must be. -/
inductive Writes : List Char → List Char → Prop
  | nil : Writes [] []
  | plain {c : Char} {text segment : List Char} (hplain : mustEscape c = false)
      (hrest : Writes text segment) : Writes (c :: text) (c :: segment)
  | escaped {c : Char} {text front segment : List Char}
      (hfront : WritesOctets (Utf8.encodeChar c) front) (hrest : Writes text segment) :
      Writes (c :: text) (front ++ segment)

/-- A segment in which a text stands that is canonically equivalent to the name. -/
def Spells (name segment : List Char) : Prop :=
  ∃ text, Canonical.decomposed text = Canonical.decomposed name ∧ Writes text segment

/-- A file URL with a segment for each name. -/
def SpellsUrl (names : List (List Char)) (url : String) : Prop :=
  ∃ segments, List.Forall₂ Spells names segments ∧ url.toList = fileUrlStart ++ joinSlash segments

/-! ## Writing -/

theorem Writes.refl {text : List Char} (h : text.any mustEscape = false) : Writes text text := by
  induction text with
  | nil => exact .nil
  | cons c rest ih =>
    rw [List.any_cons, Bool.or_eq_false_iff] at h
    exact .plain h.1 (ih h.2)

theorem Writes.append {text text' segment segment' : List Char} (h : Writes text segment)
    (h' : Writes text' segment') : Writes (text ++ text') (segment ++ segment') := by
  induction h with
  | nil => exact h'
  | plain hplain _ ih => exact .plain hplain ih
  | escaped hfront _ ih =>
    rw [List.append_assoc]
    exact .escaped hfront ih

theorem isCut_of_hexValue? {c : Char} {n : Nat} (h : hexValue? c = some n) : isCut c = false :=
  forall_ascii (P := fun c => (hexValue? c).isSome = true → isCut c = false) (by decide) c
    (Percent.lt_of_hexValue? h) (by rw [h]; rfl)

theorem WritesOctets.isTidy {bs : List Nat} {front : List Char} (h : WritesOctets bs front) :
    IsTidy front := by
  induction h with
  | nil => exact List.forall_mem_nil _
  | cons hhigh hlow _ ih =>
    exact List.forall_mem_cons.2 ⟨by decide, List.forall_mem_cons.2
      ⟨isCut_of_hexValue? hhigh, List.forall_mem_cons.2 ⟨isCut_of_hexValue? hlow, ih⟩⟩⟩

theorem Writes.isTidy {text segment : List Char} (h : Writes text segment) : IsTidy segment := by
  induction h with
  | nil => exact List.forall_mem_nil _
  | plain hplain _ ih =>
    exact List.forall_mem_cons.2 ⟨(Bool.or_eq_false_iff.1 hplain).2, ih⟩
  | escaped hfront _ ih =>
    exact List.forall_mem_append.2 ⟨hfront.isTidy, ih⟩

theorem WritesOctets.octets_append {bs : List Nat} {front : List Char} (h : WritesOctets bs front)
    (rest : List Char) : Percent.octets (front ++ rest) = bs ++ Percent.octets rest := by
  induction h with
  | nil => rfl
  | @cons b bs high low text hhigh hlow _ ih =>
    have hescape : Percent.escape? (high :: low :: (text ++ rest)) = some b :=
      Percent.escape?_eq_some_iff.2
        ⟨high, low, text ++ rest, b / 16, b % 16, rfl, hhigh, hlow, by omega⟩
    have hoctets := Percent.octets_percent_of_some hescape
    rw [List.drop_succ_cons, List.drop_succ_cons, List.drop_zero, ih] at hoctets
    exact hoctets

theorem Writes.octets {text segment : List Char} (h : Writes text segment) :
    Percent.octets segment = Utf8.encode text := by
  induction h with
  | nil => rfl
  | plain hplain _ ih =>
    have hpercent := ne_of_beq_false (Bool.or_eq_false_iff.1 hplain).1
    rw [Percent.octets_cons_of_ne hpercent, ih, Utf8.encode_cons]
  | escaped hfront _ ih => rw [hfront.octets_append, ih, Utf8.encode_cons]

theorem Writes.decode {text segment : List Char} (h : Writes text segment) :
    Percent.decode segment = text := by
  rw [Percent.decode, h.octets, Utf8.decodeLossy_encode]

/-! ## Spelling -/

theorem Spells.refl {name : List Char} (h : name.any mustEscape = false) : Spells name name :=
  ⟨name, rfl, Writes.refl h⟩

section
variable {name segment : List Char} (h : Spells name segment)
include h

theorem Spells.composed_decode :
    Canonical.composed (Percent.decode segment) = Canonical.composed name := by
  obtain ⟨text, hequivalent, hwrites⟩ := h
  rw [hwrites.decode]
  exact Canonical.composed_eq_of_equivalent hequivalent

theorem Spells.isTidy : IsTidy segment := by
  obtain ⟨text, -, hwrites⟩ := h
  exact hwrites.isTidy

/-- No text of dots is equivalent to a name. -/
theorem Spells.decode_ne {dots : List Char} (hdots : ∀ c ∈ dots, c = '.') (hne : name ≠ dots) :
    Percent.decode segment ≠ dots := by
  intro hdecode
  have hcomposed := h.composed_decode
  rw [hdecode, (Canonical.composed_eq_iff_of_dots hdots dots).2 rfl] at hcomposed
  exact hne ((Canonical.composed_eq_iff_of_dots hdots name).1 hcomposed.symm)

theorem Spells.not_dots (hname : Path.IsName name) :
    isHere segment = false ∧ isUp segment = false := by
  constructor
  · rw [Bool.eq_false_iff]
    exact fun hhere => h.decode_ne (by simp [Path.here]) hname.2.1 (decode_of_isHere hhere)
  · rw [Bool.eq_false_iff]
    exact fun hup => h.decode_ne (by simp [Path.up]) hname.2.2 (decode_of_isUp hup)

theorem Spells.ne_nil (hname : Path.IsName name) : segment ≠ [] := by
  rintro rfl
  exact h.decode_ne (List.forall_mem_nil _) hname.1 rfl

end

theorem exists_name_of_mem {names segments : List (List Char)}
    (h : List.Forall₂ Spells names segments) {segment : List Char} (hmem : segment ∈ segments) :
    ∃ name ∈ names, Spells name segment := by
  induction h with
  | nil => cases hmem
  | cons hfirst _ ih =>
    rcases List.mem_cons.1 hmem with rfl | hmem
    · exact ⟨_, List.mem_cons_self, hfirst⟩
    · obtain ⟨name, hname, hspells⟩ := ih hmem
      exact ⟨name, List.mem_cons_of_mem _ hname, hspells⟩

theorem namesOf_spelled {names segments : List (List Char)}
    (h : List.Forall₂ Spells names segments) (hnames : ∀ name ∈ names, Path.IsName name) :
    namesOf (segments.reverse ++ [[]]) = names.map Canonical.composed := by
  rw [namesOf_reverse_append]
  induction h with
  | nil => rfl
  | @cons name segment names segments hfirst _ ih =>
    have hne := hfirst.ne_nil (hnames name List.mem_cons_self)
    rw [List.filter_cons_of_pos (by simpa using hne), List.map_cons, List.map_cons,
      hfirst.composed_decode, ih fun other hother => hnames other (List.mem_cons_of_mem _ hother)]

theorem SpellsUrl.startsWith {names : List (List Char)} {url : String} (h : SpellsUrl names url) :
    startsWith fileUrlStart url.toList = true := by
  obtain ⟨segments, -, hurl⟩ := h
  exact (startsWith_iff _ _).2 ⟨joinSlash segments, hurl⟩

theorem SpellsUrl.fileUrlNames? {names : List (List Char)} {url : String}
    (h : SpellsUrl names url) (hnames : ∀ name ∈ names, Path.IsName name) :
    Resolve.fileUrlNames? url = some (names.map Canonical.composed) := by
  obtain ⟨segments, hspells, hurl⟩ := h
  have hurl : url = String.ofList (fileUrlStart ++ joinSlash segments) := by
    rw [← hurl, String.ofList_toList]
  rw [hurl, Resolve.fileUrlNames?_fileUrlStart]
  by_cases hnil : segments = []
  · subst hnil
    obtain rfl := List.forall₂_nil_right_iff.1 hspells
    rfl
  · have hall : ∀ segment ∈ segments,
        IsTidy segment ∧ isHere segment = false ∧ isUp segment = false := by
      intro segment hmem
      obtain ⟨name, hname, hspelled⟩ := exists_name_of_mem hspells hmem
      exact ⟨hspelled.isTidy, hspelled.not_dots (hnames name hname)⟩
    rw [pathSegments_joinSlash hnil fun s hs => (hall s hs).1,
      read_pushed (fun s hs => (hall s hs).1) (fun s hs => (hall s hs).2) (by simp),
      namesOf_spelled hspells hnames]

end FileUrl

namespace Resolve

open FileUrl ServedMedia.Path

/-! ## Relocation -/

/-- The file at the end of a path decides for itself whether it is in the directory. -/
theorem directoryOf_append {names : List (List Char)} (hne : names ≠ [])
    (front : List (List Char)) : directoryOf (front ++ names) = front ++ directoryOf names := by
  obtain ⟨init, last, rfl⟩ := List.eq_nil_or_concat names |>.resolve_left hne
  rw [List.concat_eq_append, directoryOf, directoryOf, ← List.append_assoc,
    List.getLast?_concat, List.getLast?_concat]
  dsimp only
  split
  · rw [List.dropLast_concat, List.dropLast_concat]
  · rw [List.append_assoc]

theorem Fork.append {directory target shared back rest : List (List Char)}
    (h : Fork directory target shared back rest) (front : List (List Char)) :
    Fork (front ++ directory) (front ++ target) (front ++ shared) back rest :=
  ⟨by rw [h.directory_eq, List.append_assoc], by rw [h.target_eq, List.append_assoc], h.parted⟩

/-- What both begin with is shared, whatever follows. -/
theorem ascentAndDescent_append_append (front directory target : List (List Char)) :
    ascentAndDescent (front ++ directory) (front ++ target) =
      ascentAndDescent directory target := by
  obtain ⟨shared, back, rest, hfork⟩ := exists_fork directory target
  rw [(hfork.append front).ascentAndDescent_eq, hfork.ascentAndDescent_eq]

theorem relativeBetween_append_append {names : List (List Char)} (hne : names ≠ [])
    (front target : List (List Char)) :
    relativeBetween (front ++ names) (front ++ target) = relativeBetween names target := by
  rw [relativeBetween, directoryOf_append hne, ascentAndDescent_append_append, relativeBetween]

/-- An ASCII text is composed already, so its names are those that it spells. -/
theorem resolvePath_of_spells {url document : String} {names target : List (List Char)}
    (hurl : SpellsUrl target url) (htarget : ∀ name ∈ target, IsName name)
    (hascii : ∀ c ∈ url.toList, c.toNat < 0x80) (hbase : fileUrlNames? document = some names)
    (mount : Option String) :
    resolvePath url mount (some document) =
      (String.ofList (served (trimSlashes (mount.getD "").toList)
        (relativeBetween names (target.map Canonical.composed))), []) := by
  have hcomposed : String.ofList (Canonical.composed url.toList) = url := by
    rw [Canonical.composed_of_plain fun c hc => Nat.lt_trans (hascii c hc) (by decide),
      String.ofList_toList]
  have hnames : fileUrlNames? (String.ofList (Canonical.composed url.toList)) =
      some (target.map Canonical.composed) := by
    rw [hcomposed]
    exact hurl.fileUrlNames? htarget
  exact resolvePath_of_names hurl.startsWith hnames hbase mount

/-! ## Top theorems -/

theorem relativePath_spelled {names target : List (List Char)}
    (hnames : ∀ name ∈ names, IsName name) (htarget : ∀ name ∈ target, IsName name)
    {url url' document document' : String} (hurl : SpellsUrl target url)
    (hurl' : SpellsUrl target url') (hdocument : SpellsUrl names document)
    (hdocument' : SpellsUrl names document') :
    ∃ path, relativePath url (some document) = (path, []) ∧
      relativePath url' (some document') = (path, []) :=
  ⟨_, relativePath_of_names (hurl.fileUrlNames? htarget) (hdocument.fileUrlNames? hnames),
    relativePath_of_names (hurl'.fileUrlNames? htarget) (hdocument'.fileUrlNames? hnames)⟩

/-- An accented letter as one character, and as two of which only the mark is escaped. -/
theorem relativePath_spelled_cafe :
    SpellsUrl ["café".toList, "a b.png".toList] "file:///caf%c3%A9/a%20b.png" ∧
    SpellsUrl ["café".toList, "a b.png".toList] "file:///cafe%CC%81/%61%20b.png" ∧
    SpellsUrl ["café".toList, "x.mdx".toList] "file:///café/x.mdx" ∧
    ∃ path, relativePath "file:///caf%c3%A9/a%20b.png" (some "file:///café/x.mdx") = (path, []) ∧
      relativePath "file:///cafe%CC%81/%61%20b.png" (some "file:///café/x.mdx") = (path, []) := by
  have hblank : Writes " b.png".toList "%20b.png".toList :=
    .escaped (c := ' ') (.cons (b := 0x20) rfl rfl .nil)
      (Writes.refl (by decide : "b.png".toList.any mustEscape = false))
  have hcaf : Writes "caf".toList "caf".toList := .refl (by decide)
  have hcafe : Writes "cafe".toList "cafe".toList := .refl (by decide)
  have hone : Spells "café".toList "caf%c3%A9".toList :=
    ⟨"café".toList, rfl, hcaf.append
      (.escaped (c := 'é') (.cons rfl rfl (.cons rfl rfl .nil)) .nil)⟩
  have htwo : Spells "café".toList "cafe%CC%81".toList :=
    ⟨"cafe\u0301".toList, by decide +kernel, hcafe.append
      (.escaped (c := '\u0301') (.cons rfl rfl (.cons rfl rfl .nil)) .nil)⟩
  have hurl : SpellsUrl ["café".toList, "a b.png".toList] "file:///caf%c3%A9/a%20b.png" :=
    ⟨["caf%c3%A9".toList, "a%20b.png".toList],
      .cons hone (.cons ⟨_, rfl, .plain rfl hblank⟩ .nil), by decide⟩
  have hurl' : SpellsUrl ["café".toList, "a b.png".toList] "file:///cafe%CC%81/%61%20b.png" :=
    ⟨["cafe%CC%81".toList, "%61%20b.png".toList],
      .cons htwo (.cons ⟨_, rfl, .escaped (c := 'a') (.cons (b := 0x61) rfl rfl .nil) hblank⟩ .nil),
      by decide⟩
  have hdocument : SpellsUrl ["cafe\u0301".toList, "x.mdx".toList] "file:///café/x.mdx" :=
    ⟨["café".toList, "x.mdx".toList],
      .cons ⟨"café".toList, by decide +kernel, Writes.refl (by decide)⟩
        (.cons (.refl (by decide)) .nil), by decide⟩
  exact ⟨hurl, hurl', hdocument, relativePath_spelled (by decide) (by decide) hurl hurl' hdocument
    hdocument⟩

theorem resolvePath_relocated {directories names target : List (List Char)}
    (hdirectories : ∀ name ∈ directories, IsName name) (hnames : ∀ name ∈ names, IsName name)
    (htarget : ∀ name ∈ target, IsName name) (hne : names ≠ [])
    {url url' document document' : String} (hurl : SpellsUrl (directories ++ target) url)
    (hdocument : SpellsUrl (directories ++ names) document) (hurl' : SpellsUrl target url')
    (hdocument' : SpellsUrl names document') :
    (∃ path, relativePath url (some document) = (path, []) ∧
      relativePath url' (some document') = (path, [])) ∧
    ((∀ c ∈ url.toList ++ url'.toList, c.toNat < 0x80) → ∀ mount,
      resolvePath url mount (some document) = resolvePath url' mount (some document')) := by
  have htarget' : ∀ name ∈ directories ++ target, IsName name :=
    List.forall_mem_append.2 ⟨hdirectories, htarget⟩
  have hnames' : ∀ name ∈ directories ++ names, IsName name :=
    List.forall_mem_append.2 ⟨hdirectories, hnames⟩
  have hnear := hdocument'.fileUrlNames? hnames
  have hfar := hdocument.fileUrlNames? hnames'
  have hsame : relativeBetween ((directories ++ names).map Canonical.composed)
      ((directories ++ target).map Canonical.composed) =
        relativeBetween (names.map Canonical.composed) (target.map Canonical.composed) := by
    rw [List.map_append, List.map_append, relativeBetween_append_append (by simpa using hne)]
  refine ⟨⟨_, ?_, relativePath_of_names (hurl'.fileUrlNames? htarget) hnear⟩, fun hascii mount => ?_⟩
  · rw [relativePath_of_names (hurl.fileUrlNames? htarget') hfar, hsame]
  · obtain ⟨hlow, hlow'⟩ := List.forall_mem_append.1 hascii
    rw [resolvePath_of_spells hurl htarget' hlow hfar, resolvePath_of_spells hurl' htarget hlow' hnear,
      hsame]

/-- The directories have the name of one in the project. -/
theorem resolvePath_relocated_nested :
    SpellsUrl (["b".toList] ++ ["b".toList, "a.png".toList]) "file:///b/b/a.png" ∧
    SpellsUrl (["b".toList] ++ ["b".toList, "c".toList]) "file:///b/b/c" ∧
    relativePath "file:///b/b/a.png" (some "file:///b/b/c") =
      relativePath "file:///b/a.png" (some "file:///b/c") ∧
    resolvePath "file:///b/b/a.png" (some "/site/") (some "file:///b/b/c") =
      resolvePath "file:///b/a.png" (some "/site/") (some "file:///b/c") := by
  have hb : Spells "b".toList "b".toList := .refl (by decide)
  have hurl' : SpellsUrl ["b".toList, "a.png".toList] "file:///b/a.png" :=
    ⟨["b".toList, "a.png".toList], .cons hb (.cons (.refl (by decide)) .nil), by decide⟩
  have hdocument' : SpellsUrl ["b".toList, "c".toList] "file:///b/c" :=
    ⟨["b".toList, "c".toList], .cons hb (.cons (.refl (by decide)) .nil), by decide⟩
  have hurl : SpellsUrl (["b".toList] ++ ["b".toList, "a.png".toList]) "file:///b/b/a.png" :=
    ⟨["b".toList, "b".toList, "a.png".toList],
      .cons hb (.cons hb (.cons (.refl (by decide)) .nil)), by decide⟩
  have hdocument : SpellsUrl (["b".toList] ++ ["b".toList, "c".toList]) "file:///b/b/c" :=
    ⟨["b".toList, "b".toList, "c".toList], .cons hb (.cons hb (.cons (.refl (by decide)) .nil)),
      by decide⟩
  obtain ⟨⟨path, hfar, hnear⟩, hresolved⟩ := resolvePath_relocated (by decide) (by decide)
    (by decide) (by decide) hurl hdocument hurl' hdocument'
  have hascii : ∀ c ∈ "file:///b/b/a.png".toList ++ "file:///b/a.png".toList,
      decide (c.toNat < 0x80) = true := List.all_eq_true.1 (by decide)
  exact ⟨hurl, hdocument, hfar.trans hnear.symm,
    hresolved (fun c hc => of_decide_eq_true (hascii c hc)) (some "/site/")⟩

end Resolve

end ServedMedia
