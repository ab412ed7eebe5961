import ServedMedia.FileUrl.OfPath
import ServedMedia.Proofs.Spelling

/-!
# Paths that become URLs

The URL of a path spells the components of the path: all that a URL would read otherwise is
escaped in them, so each of them is read again as it was.  Only ".." is left for the reader,
which pops the component before it, as `clamped` does.  The stack of the reader holds the
segments of the names on the clamped stack, above empty ones, and goes on doing so:

    HoldsNames names stack → HoldsNames (clampedPush names component) stack',
      if the segment of `component` leads from `stack` to `stack'`        (step_holdsNames)

A drive alone would not be popped.  Any other path goes through its URL, and what comes back
are the names that it leads to:

    fileUrlNames? (the URL of path) = some ((clamped (cutSlash path)).map composed)
                                                              (fileUrlNames?_ofUrlOrPath?)
-/

namespace ServedMedia

namespace FileUrl

open ServedMedia.Path

/-! ## Algorithm -/

/-- A stack with the segments of names, the last one on top, above empty segments. -/
def HoldsNames (names stack : List (List Char)) : Prop :=
  ∃ bottom, (∀ segment ∈ bottom, segment = []) ∧
    stack = names.map (Percent.encode encodedInName) ++ bottom

/-! ## Encoding -/

theorem writesOctets_encodeOctets {bs : List Nat} (h : ∀ b ∈ bs, b < 256) :
    WritesOctets bs (bs.flatMap Percent.encodeOctet) := by
  induction bs with
  | nil => exact .nil
  | cons b bs ih =>
    have hb : b < 256 := h b List.mem_cons_self
    exact .cons (hexValue?_upperHex (b / 16) (by omega)) (hexValue?_upperHex (b % 16) (by omega))
      (ih fun c hc => h c (List.mem_cons_of_mem _ hc))

theorem mustEscape_of_encodedInName {c : Char} (h : encodedInName c = false) :
    mustEscape c = false := by
  by_cases hc : c.toNat < 0x80
  · exact forall_ascii (P := fun c => encodedInName c = false → mustEscape c = false) (by decide)
      c hc h
  · have hcontrol : isControl c = true := by
      rw [isControl, Bool.or_eq_true]
      exact .inr (decide_eq_true (by omega))
    simp [encodedInName, encodedInPath, encodedInFragment, hcontrol] at h

theorem writes_encode (text : List Char) : Writes text (Percent.encode encodedInName text) := by
  induction text with
  | nil => exact .nil
  | cons c rest ih =>
    cases hc : encodedInName c with
    | false =>
      rw [Percent.encode_cons_of_not hc]
      exact .plain (mustEscape_of_encodedInName hc) ih
    | true =>
      rw [Percent.encode_cons_of_special hc]
      exact .escaped (writesOctets_encodeOctets fun b hb => Percent.lt_of_mem_encodeChar hb) ih

theorem spells_encode (name : List Char) : Spells name (Percent.encode encodedInName name) :=
  ⟨name, rfl, writes_encode name⟩

/-- No escape stands in a drive, so nothing else is written as one. -/
theorem isDrive_encode {name : List Char} (h : isDrive name = false) :
    isDrive (Percent.encode encodedInName name) = false := by
  rw [Bool.eq_false_iff]
  intro hdrive
  have hself := Percent.decode_eq_self (percent_not_mem_of_isDrive hdrive)
  rw [(writes_encode name).decode] at hself
  rw [← hself, h] at hdrive
  cases hdrive

/-! ## Reading -/

theorem pop_of_not_isDrive {reading : Reading} {top : List Char} {rest : List (List Char)}
    (hstack : reading.stack = top :: rest) (hdrive : isDrive top = false) :
    reading.pop.stack = rest := by
  rw [Reading.pop, hstack]
  simp [hdrive]

theorem push_of_not_isDrive {segment : List Char} (h : isDrive segment = false)
    (reading : Reading) : (reading.push segment).stack = segment :: reading.stack := by
  rw [Reading.push, h, Bool.and_false]
  rfl

theorem pop_holdsNames {names : List (List Char)} {reading : Reading}
    (h : HoldsNames names reading.stack) (hdrive : ∀ name ∈ names, isDrive name = false) :
    HoldsNames names.tail reading.pop.stack := by
  obtain ⟨bottom, hbottom, hstack⟩ := h
  cases names with
  | nil =>
    cases bottom with
    | nil =>
      rw [Reading.pop, hstack]
      exact ⟨[], hbottom, hstack⟩
    | cons segment bottom =>
      obtain rfl : segment = [] := hbottom segment List.mem_cons_self
      exact ⟨bottom, fun s hs => hbottom s (List.mem_cons_of_mem _ hs),
        pop_of_not_isDrive hstack rfl⟩
  | cons name names =>
    exact ⟨bottom, hbottom,
      pop_of_not_isDrive hstack (isDrive_encode (hdrive name List.mem_cons_self))⟩

section
variable {names : List (List Char)} {component : List Char}
  (hnames : ∀ name ∈ names, isDrive name = false) (hidle : isIdle component = false)
  (hdrive : isDrive component = false)
include hnames hidle hdrive

/-- A component acts on the stack as on the names that it holds.  An ascent at the end leaves
a slash there, which is one more empty segment. -/
theorem step_holdsNames {reading : Reading} (h : HoldsNames names reading.stack)
    (isLast : Bool) :
    ∃ stack, HoldsNames (clampedPush names component) stack ∧
      ((reading.step (Percent.encode encodedInName component) isLast).stack = stack ∨
        isLast = true ∧
          (reading.step (Percent.encode encodedInName component) isLast).stack = [] :: stack) := by
  by_cases hup : component = up
  · subst hup
    have hpush : clampedPush names up = names.tail := rfl
    have hstep : reading.step (Percent.encode encodedInName up) isLast =
        if isLast then reading.pop.push [] else reading.pop := rfl
    rw [hpush, hstep]
    refine ⟨reading.pop.stack, pop_holdsNames h hnames, ?_⟩
    cases isLast with
    | false => exact .inl rfl
    | true => exact .inr ⟨rfl, push_of_not_isDrive rfl reading.pop⟩
  · have hname : IsName component := isName_of_not_idle hidle hup
    obtain ⟨hhere, hascent⟩ := (spells_encode component).not_dots hname
    have hstep : reading.step (Percent.encode encodedInName component) isLast =
        reading.push (Percent.encode encodedInName component) := by
      rw [Reading.step, hhere, hascent]
      rfl
    obtain ⟨bottom, hbottom, hstack⟩ := h
    rw [clampedPush_of_isName hname, hstep, push_of_not_isDrive (isDrive_encode hdrive), hstack]
    exact ⟨_, ⟨bottom, hbottom, rfl⟩, .inl rfl⟩

end

theorem namesOf_cons_nil (stack : List (List Char)) : namesOf ([] :: stack) = namesOf stack := by
  simp [namesOf]

theorem namesOf_holdsNames {names stack : List (List Char)} (h : HoldsNames names stack)
    (hnames : ∀ name ∈ names, IsName name) :
    namesOf stack = names.reverse.map Canonical.composed := by
  obtain ⟨bottom, hbottom, rfl⟩ := h
  have hempty : bottom.reverse.filter (· ≠ []) = [] := by
    rw [List.filter_eq_nil_iff]
    intro segment hmem
    simp [hbottom segment (List.mem_reverse.1 hmem)]
  have hkept : (names.reverse.map (Percent.encode encodedInName)).filter (· ≠ []) =
      names.reverse.map (Percent.encode encodedInName) := by
    rw [List.filter_eq_self]
    intro segment hmem
    obtain ⟨name, hname, rfl⟩ := List.mem_map.1 hmem
    have hne := (spells_encode name).ne_nil (hnames name (List.mem_reverse.1 hname))
    simpa using hne
  rw [namesOf, List.reverse_append, List.filter_append, hempty, List.nil_append, ← List.map_reverse,
    hkept, List.map_map]
  exact List.map_congr_left fun name _ => (spells_encode name).composed_decode

theorem read_encoded {components names : List (List Char)}
    (h : ∀ component ∈ components, isIdle component = false ∧ isDrive component = false)
    (hnames : ∀ name ∈ names, IsName name ∧ isDrive name = false) {reading : Reading}
    (hholds : HoldsNames names reading.stack) :
    namesOf (read reading (components.map (Percent.encode encodedInName))).stack =
      (components.foldl clampedPush names).reverse.map Canonical.composed := by
  induction components generalizing names reading with
  | nil => exact namesOf_holdsNames hholds fun name hmem => (hnames name hmem).1
  | cons component rest ih =>
    obtain ⟨hidle, hdrive⟩ := h component List.mem_cons_self
    have hpushed : ∀ name ∈ clampedPush names component, IsName name ∧ isDrive name = false := by
      intro name hmem
      rcases mem_clampedPush hmem with hold | ⟨rfl, hname⟩
      · exact hnames name hold
      · exact ⟨hname, hdrive⟩
    obtain ⟨stack, hstack, hstep⟩ := step_holdsNames (fun name hmem => (hnames name hmem).2) hidle
      hdrive hholds (rest.map (Percent.encode encodedInName)).isEmpty
    rw [List.map_cons, read_cons_of_isTidy (spells_encode component).isTidy, List.foldl_cons]
    rcases hstep with heq | ⟨hlast, heq⟩
    · exact ih (fun c hc => h c (List.mem_cons_of_mem _ hc)) hpushed (by rw [heq]; exact hstack)
    · obtain rfl : rest = [] := by simpa using hlast
      show namesOf (reading.step _ _).stack = _
      rw [heq, namesOf_cons_nil]
      exact namesOf_holdsNames hstack fun name hmem => (hpushed name hmem).1

/-! ## Paths -/

theorem isAbsolute_join {directory : List Char} (h : isAbsolute directory = true)
    (path : List Char) : isAbsolute (join directory path) = true := by
  rw [join]
  split
  · assumption
  · obtain ⟨c, rest, rfl⟩ : ∃ c rest, directory = c :: rest := by
      cases directory with
      | nil => cases h
      | cons c rest => exact ⟨c, rest, rfl⟩
    split <;> exact h

theorem render_of_path (path : List (List Char)) :
    render ⟨none, path, none, none⟩ = fileUrlStart ++ joinSlash path := by
  have hstart : fileUrlStart = "file://".toList ++ ['/'] := by
    rw [fileUrlStart_eq]
    rfl
  have hempty : ∀ front back : List Char, front ++ [] ++ back ++ [] ++ [] = front ++ back := by simp
  rw [hstart, List.append_assoc]
  exact hempty _ _

end FileUrl

namespace Resolve

open FileUrl ServedMedia.Path

theorem fileUrlNames?_ofPath? {path : List Char} (habsolute : isAbsolute path = true)
    (hdrive : ∀ component ∈ components path, isDrive component = false) :
    ∃ url, ofPath? path = some url ∧ fileUrlNames? (String.ofList url.render) =
      some ((clamped (cutSlash path)).map Canonical.composed) := by
  have hcomponents : ∀ component ∈ components path,
      isIdle component = false ∧ isDrive component = false := by
    intro component hmem
    exact ⟨by simpa using (List.mem_filter.1 hmem).2, hdrive component hmem⟩
  have hclamped : (components path).foldl clampedPush [] = (clamped (cutSlash path)).reverse := by
    rw [← clamped_filter, clamped, List.reverse_reverse]
    rfl
  have hstart : HoldsNames [] (Reading.mk none [[]]).stack := ⟨[[]], by simp, rfl⟩
  have hread := read_encoded hcomponents (List.forall_mem_nil _) hstart
  rw [hclamped, List.reverse_reverse] at hread
  unfold ofPath?
  rw [if_pos habsolute]
  refine ⟨_, rfl, ?_⟩
  rw [render_of_path, fileUrlNames?_fileUrlStart, ← hread]
  by_cases hnil : components path = []
  · rw [hnil]
    rfl
  · have hne : (components path).map (Percent.encode encodedInName) ≠ [] := by simpa using hnil
    rw [if_neg (by simpa using hnil), pathSegments_joinSlash hne]
    intro segment hmem
    obtain ⟨component, -, rfl⟩ := List.mem_map.1 hmem
    exact (spells_encode component).isTidy

/-! ## Top theorems -/

theorem fileUrlNames?_ofUrlOrPath? {text directory : List Char} (hurl : looksLikeUrl text = false)
    (hdirectory : isAbsolute directory = true)
    (hdrive : ∀ component ∈ components (join directory text), isDrive component = false) :
    ∃ url, ofUrlOrPath? text directory = some url ∧ fileUrlNames? (String.ofList url.render) =
      some ((clamped (cutSlash (join directory text))).map Canonical.composed) := by
  unfold ofUrlOrPath?
  rw [if_neg (by simp [hurl])]
  exact fileUrlNames?_ofPath? (isAbsolute_join hdirectory text) hdrive

/-- A name with a blank, one that looks encoded, one that a query would begin in, and a
backslash in another; an accent that the composed name has in one character. -/
theorem fileUrlNames?_ofUrlOrPath?_odd :
    looksLikeUrl "./a b/..//%41?/cafe\u0301\\x.mdx".toList = false ∧
    isAbsolute "/home/me".toList = true ∧
    (∀ component ∈ components (join "/home/me".toList "./a b/..//%41?/cafe\u0301\\x.mdx".toList),
      isDrive component = false) ∧
    ∃ url, ofUrlOrPath? "./a b/..//%41?/cafe\u0301\\x.mdx".toList "/home/me".toList = some url ∧
      fileUrlNames? (String.ofList url.render) =
        some ["home".toList, "me".toList, "%41?".toList, "café\\x.mdx".toList] := by
  have hurl : looksLikeUrl "./a b/..//%41?/cafe\u0301\\x.mdx".toList = false := by decide
  have hdrive : ∀ component ∈
      components (join "/home/me".toList "./a b/..//%41?/cafe\u0301\\x.mdx".toList),
      isDrive component = false := by decide
  obtain ⟨url, hsome, hnames⟩ := fileUrlNames?_ofUrlOrPath? hurl (by decide) hdrive
  refine ⟨hurl, by decide, hdrive, url, hsome, hnames.trans ?_⟩
  decide +kernel

end Resolve

end ServedMedia
