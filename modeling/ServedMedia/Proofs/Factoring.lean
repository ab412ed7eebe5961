import ServedMedia.Proofs.Converting
import ServedMedia.Proofs.Recomposing

/-!
# Composition before a file URL is read

A specifier is composed before anything else, and a file URL with it, as it is written.  The
names along the URL are composed themselves once they are decoded.  So the first time matters
only where it gets in the way of what is read in between, and it does in two places: a mark may
take the last digit of an escape away, and the Kelvin sign in front of a colon becomes the
letter of a drive, which no ascent pops.  Apart from these the names are the same,

    fileUrlNames? (composed url) = fileUrlNames? url             (fileUrlNames?_composed)

for the two paths are read in step: the segments on the stacks match one by one (read_matches).
The path from the document is then served as if it had been written in place of the URL:

    resolvePath url mount (some document) =
      resolvePath (relativePath url (some document)).1 mount none      (resolvePath_relativePath)
-/

namespace ServedMedia

namespace FileUrl

open Canonical

/-! ## Algorithm -/

/-- Whether composition leaves a segment a drive or not, also one in front of a break and what
stands behind it. -/
def KeepsDrive (segment : List Char) : Prop :=
  isDrive (unbroken (composed segment)) = isDrive (unbroken segment) ∧
    (brokenDrive? (composed segment)).map (fun parts => isDrive parts.2) =
      (brokenDrive? segment).map fun parts => isDrive parts.2

/-- Whether any segment ascends. -/
def Ascends (segments : List (List Char)) : Prop :=
  ∃ segment ∈ segments, isUp (unbroken segment) = true

/-- Segments that are read the same once they are composed.  Drives are but pushed as long as
nothing is popped. -/
structure Steady (segments : List (List Char)) : Prop where
  escapes : ∀ segment ∈ segments, KeepsEscapes segment
  drives : Ascends segments → ∀ segment ∈ segments, KeepsDrive segment

instance (segment : List Char) : Decidable (KeepsDrive segment) :=
  inferInstanceAs (Decidable (_ ∧ _))

instance (segments : List (List Char)) : Decidable (Ascends segments) :=
  inferInstanceAs (Decidable (∃ segment ∈ segments, _))

instance (segments : List (List Char)) : Decidable (Steady segments) :=
  decidable_of_iff ((∀ segment ∈ segments, KeepsEscapes segment) ∧
    (Ascends segments → ∀ segment ∈ segments, KeepsDrive segment))
    ⟨fun h => ⟨h.1, h.2⟩, fun h => ⟨h.escapes, h.drives⟩⟩

/-- Two segments of one name; if drives matter, both are drives or neither is. -/
structure Match (drives : Prop) (other segment : List Char) : Prop where
  name : decomposed (Percent.decode other) = decomposed (Percent.decode segment)
  drive : drives → isDrive other = isDrive segment

/-! ## Dot segments -/

theorem isSole_of_toLower {segment : List Char}
    (h : ((segment.map Char.toLower).all fun c => ".%2e".toList.contains c) = true) :
    ∀ c ∈ segment, isSole c.toNat = true := by
  intro c hc
  have hlow : ∀ d ∈ ".%2e".toList, decide (d.toNat < 0x80) = true := List.all_eq_true.1 (by decide)
  have hlower : c.toLower ∈ ".%2e".toList :=
    List.contains_iff_mem.1 (List.all_eq_true.1 h c.toLower (List.mem_map_of_mem hc))
  exact forall_ascii (P := fun c => c.toLower ∈ ".%2e".toList → isSole c.toNat = true)
    (by decide +kernel) c (toNat_lt_of_toLower (of_decide_eq_true (hlow _ hlower))) hlower

theorem isSole_of_isHere {segment : List Char} (h : isHere segment = true) :
    ∀ c ∈ segment, isSole c.toNat = true := by
  have hdots : ∀ dots ∈ dot, (dots.all fun c => ".%2e".toList.contains c) = true := by decide
  exact isSole_of_toLower (hdots _ (List.contains_iff_mem.1 h))

theorem isSole_of_isUp {segment : List Char} (h : isUp segment = true) :
    ∀ c ∈ segment, isSole c.toNat = true := by
  have hdots : ∀ dots ∈ dot.flatMap (fun a => dot.map fun b => a ++ b),
      (dots.all fun c => ".%2e".toList.contains c) = true := by
    decide
  exact isSole_of_toLower (hdots _ (List.contains_iff_mem.1 h))

theorem eq_of_isSole {text other : List Char} (h : ∀ c ∈ other, isSole c.toNat = true)
    (heq : decomposed text = decomposed other) : text = other := by
  refine eq_of_decomposed_eq h (heq.trans (decomposed_of_plain fun c hc => ?_))
  exact of_decide_eq_true (Bool.and_eq_true_iff.1 (h c hc)).1

/-- No segment becomes a dot segment, and none stops being one. -/
theorem isDot_composed (segment : List Char) :
    isHere (unbroken (composed segment)) = isHere (unbroken segment) ∧
      isUp (unbroken (composed segment)) = isUp (unbroken segment) := by
  have hequivalent := decomposed_unbroken_composed segment
  constructor
  · rw [Bool.eq_iff_iff]
    constructor
    · intro h
      rwa [eq_of_isSole (isSole_of_isHere h) hequivalent.symm]
    · intro h
      rwa [eq_of_isSole (isSole_of_isHere h) hequivalent]
  · rw [Bool.eq_iff_iff]
    constructor
    · intro h
      rwa [eq_of_isSole (isSole_of_isUp h) hequivalent.symm]
    · intro h
      rwa [eq_of_isSole (isSole_of_isUp h) hequivalent]

/-! ## Matching -/

section
variable {drives : Prop}

theorem Match.refl (segment : List Char) : Match drives segment segment := ⟨rfl, fun _ => rfl⟩

theorem match_composed {segment : List Char} (h : KeepsEscapes segment)
    (hdrive : drives → KeepsDrive segment) :
    Match drives (unbroken (composed segment)) (unbroken segment) :=
  ⟨decomposed_decode_composed h, fun hd => (hdrive hd).1⟩

variable {other segment : List Char} (h : Match drives other segment)
include h

theorem Match.eq_nil_iff : other = [] ↔ segment = [] := by
  have hnil : ∀ {text more : List Char},
      decomposed (Percent.decode text) = decomposed (Percent.decode more) →
        text = [] → more = [] := by
    rintro _ more heq rfl
    refine Classical.byContradiction fun hne => ?_
    exact decomposed_ne_nil (Percent.decode_ne_nil hne) heq.symm
  exact ⟨hnil h.name, hnil h.name.symm⟩

/-- No escape stands in a drive, and composition changes nothing in it. -/
theorem Match.eq_of_isDrive (hother : isDrive other = true) (hsegment : isDrive segment = true) :
    other = segment := by
  have hself : ∀ {text : List Char}, isDrive text = true →
      decomposed (Percent.decode text) = text := by
    intro text hdrive
    rw [Percent.decode_eq_self (percent_not_mem_of_isDrive hdrive)]
    exact decomposed_of_plain fun c hc =>
      Nat.lt_trans (toNat_lt_of_isDrive hdrive c hc) (by decide)
  rw [← hself hother, h.name, hself hsegment]

end

/-! ## Broken drives -/

theorem exists_of_brokenDrive? {segment drive name : List Char}
    (h : brokenDrive? segment = some (drive, name)) : ∃ letter : Char, letter.isAlpha = true ∧
      drive = [letter, ':'] ∧ unbroken segment = letter :: ':' :: name := by
  unfold brokenDrive? at h
  split at h
  · next letter next rest behind _ hunbroken _ =>
    split at h
    · next hletter =>
      obtain ⟨rfl, rfl⟩ := Prod.mk.inj (Option.some.inj h)
      exact ⟨letter, (Bool.and_eq_true_iff.1 hletter).1, rfl, hunbroken⟩
    · cases h
  · cases h

theorem decomposed_decode_drive {letter : Char} (h : letter.isAlpha = true) (name : List Char) :
    decomposed (Percent.decode (letter :: ':' :: name)) =
      letter :: ':' :: decomposed (Percent.decode name) := by
  have hdrive : isDrive [letter, ':'] = true := by simp [isDrive, h]
  have hpercent : '%' ∉ [letter] := fun hmem =>
    percent_not_mem_of_isDrive hdrive (List.mem_cons.2 (.inl (List.mem_singleton.1 hmem)))
  have hlow : letter.toNat < 0xC0 :=
    Nat.lt_trans (toNat_lt_of_isDrive hdrive letter List.mem_cons_self) (by decide)
  have hdecode := Percent.decode_append_cons (c := ':') (by decide) (by decide) (by decide)
    [letter] name
  rw [Percent.decode_eq_self hpercent] at hdecode
  show decomposed (Percent.decode ([letter] ++ ':' :: name)) = _
  rw [hdecode, decomposed_append_cons (by decide),
    decomposed_of_plain (List.forall_mem_singleton.2 hlow)]
  rfl

/-- Both have the same letter, and what stands behind the colons matches. -/
theorem brokenDrive?_composed (drives : Prop) {segment drive name drive' name' : List Char}
    (hescapes : KeepsEscapes segment) (hdrive : KeepsDrive segment)
    (h : brokenDrive? segment = some (drive, name))
    (h' : brokenDrive? (composed segment) = some (drive', name')) :
    drive' = drive ∧ Match drives name' name := by
  obtain ⟨letter, hletter, rfl, hunbroken⟩ := exists_of_brokenDrive? h
  obtain ⟨letter', hletter', rfl, hunbroken'⟩ := exists_of_brokenDrive? h'
  have hname := decomposed_decode_composed hescapes
  rw [hunbroken, hunbroken', decomposed_decode_drive hletter,
    decomposed_decode_drive hletter'] at hname
  obtain ⟨rfl, hname⟩ := List.cons.inj hname
  have hbehind := hdrive.2
  rw [h, h'] at hbehind
  exact ⟨rfl, (List.cons.inj (List.cons.inj hname).2).2, fun _ => Option.some.inj hbehind⟩

/-! ## Reading in step -/

theorem push_ne_nil (reading : Reading) (segment : List Char) :
    (reading.push segment).stack ≠ [] := by
  unfold Reading.push
  split <;> simp

section
variable {drives : Prop} {other reading : Reading}
  (hstack : List.Forall₂ (Match drives) other.stack reading.stack)
include hstack

theorem stack_eq_nil (h : reading.stack = []) : other.stack = [] := by
  rw [h] at hstack
  exact List.forall₂_nil_right_iff.1 hstack

theorem stack_ne_nil (h : reading.stack ≠ []) : other.stack ≠ [] := by
  intro hnil
  rw [hnil] at hstack
  exact h (List.forall₂_nil_left_iff.1 hstack)

theorem pop_matches (hdrives : drives) :
    List.Forall₂ (Match drives) other.pop.stack reading.pop.stack := by
  cases hreading : reading.stack with
  | nil =>
    have hother := stack_eq_nil hstack hreading
    rw [Reading.pop, Reading.pop, hreading, hother]
    exact hstack
  | cons top rest =>
    rw [hreading] at hstack
    obtain ⟨top', rest', htop, hrest, hother⟩ := List.forall₂_cons_right_iff.1 hstack
    have hsame := htop.drive hdrives
    cases hdrive : isDrive top with
    | false =>
      rwa [pop_of_not_isDrive hreading hdrive, pop_of_not_isDrive hother (hsame.trans hdrive)]
    | true =>
      rwa [Reading.pop_of_isDrive hreading hdrive,
        Reading.pop_of_isDrive hother (hsame.trans hdrive), hreading]

variable (hnone : drives ∨ reading.stack ≠ [])
include hnone

theorem push_matches {segment segment' : List Char} (h : Match drives segment' segment) :
    List.Forall₂ (Match drives) (other.push segment').stack (reading.push segment).stack := by
  by_cases hempty : reading.stack = []
  · have hdrives : drives := hnone.resolve_right fun hne => hne hempty
    have hother := stack_eq_nil hstack hempty
    have hsame := h.drive hdrives
    cases hdrive : isDrive segment with
    | false =>
      rw [push_of_not_isDrive hdrive, push_of_not_isDrive (hsame.trans hdrive)]
      exact .cons h hstack
    | true =>
      obtain rfl := h.eq_of_isDrive (hsame.trans hdrive) hdrive
      have hpush : ∀ {started : Reading}, started.stack = [] →
          (started.push segment').stack = [segment'.take 1 ++ [':']] := by
        intro started hnil
        simp [Reading.push, hnil, hdrive]
      rw [hpush hempty, hpush hother]
      exact .cons (.refl _) .nil
  · rw [push_of_ne_nil hempty, push_of_ne_nil (stack_ne_nil hstack hempty)]
    exact .cons h hstack

theorem step_matches {segment segment' : List Char} (h : Match drives segment' segment)
    (hhere : isHere segment' = isHere segment) (hup : isUp segment' = isUp segment)
    (hascent : isUp segment = true → drives) (isLast : Bool) :
    List.Forall₂ (Match drives) (other.step segment' isLast).stack
        (reading.step segment isLast).stack ∧
      (drives ∨ (reading.step segment isLast).stack ≠ []) := by
  rw [Reading.step, Reading.step, hhere, hup]
  cases isHere segment with
  | true =>
    cases isLast with
    | true => exact ⟨push_matches hstack hnone (.refl []), .inr (push_ne_nil reading [])⟩
    | false => exact ⟨hstack, hnone⟩
  | false =>
    cases hascends : isUp segment with
    | true =>
      have hdrives := hascent hascends
      have hpopped := pop_matches hstack hdrives
      cases isLast with
      | true => exact ⟨push_matches hpopped (.inl hdrives) (.refl []), .inl hdrives⟩
      | false => exact ⟨hpopped, .inl hdrives⟩
    | false => exact ⟨push_matches hstack hnone h, .inr (push_ne_nil reading segment)⟩

end

/-- The segments of a path and the composed ones leave matching stacks. -/
theorem read_matches {drives : Prop} {segments : List (List Char)}
    (hescapes : ∀ segment ∈ segments, KeepsEscapes segment)
    (hascents : ∀ segment ∈ segments, isUp (unbroken segment) = true → drives)
    (hdrives : drives → ∀ segment ∈ segments, KeepsDrive segment) {other reading : Reading}
    (hstack : List.Forall₂ (Match drives) other.stack reading.stack)
    (hnone : drives ∨ reading.stack ≠ []) :
    List.Forall₂ (Match drives) (read other (segments.map composed)).stack
      (read reading segments).stack := by
  induction segments generalizing other reading with
  | nil => exact hstack
  | cons segment rest ih =>
    have hkept := hescapes segment List.mem_cons_self
    have hmatch : Match drives (unbroken (composed segment)) (unbroken segment) :=
      match_composed hkept fun hd => hdrives hd segment List.mem_cons_self
    obtain ⟨hstep, hsome⟩ := step_matches hstack hnone hmatch (isDot_composed segment).1
      (isDot_composed segment).2 (hascents segment List.mem_cons_self) rest.isEmpty
    have hnext : ∀ {other reading : Reading},
        List.Forall₂ (Match drives) other.stack reading.stack → drives ∨ reading.stack ≠ [] →
          List.Forall₂ (Match drives) (read other (rest.map composed)).stack
            (read reading rest).stack :=
      ih (fun s hs => hescapes s (List.mem_cons_of_mem _ hs))
        (fun s hs => hascents s (List.mem_cons_of_mem _ hs))
        (fun hd s hs => hdrives hd s (List.mem_cons_of_mem _ hs))
    have hlast : (rest.map composed).isEmpty = rest.isEmpty := by simp
    rw [List.map_cons]
    by_cases hempty : reading.stack = []
    · have hd : drives := hnone.resolve_right fun hne => hne hempty
      have hother := stack_eq_nil hstack hempty
      have hdrive := hdrives hd segment List.mem_cons_self
      cases hbroken : brokenDrive? segment with
      | none =>
        have hbroken' : brokenDrive? (composed segment) = none := by
          have hbehind := hdrive.2
          rwa [hbroken, Option.map_none, Option.map_eq_none_iff] at hbehind
        rw [read, read, hempty, hother, hbroken, hbroken', hlast]
        exact hnext hstep hsome
      | some parts =>
        obtain ⟨parts', hbroken'⟩ : ∃ parts', brokenDrive? (composed segment) = some parts' := by
          have hbehind := hdrive.2
          rw [hbroken, Option.map_some] at hbehind
          obtain ⟨parts', hparts', -⟩ := Option.map_eq_some_iff.1 hbehind
          exact ⟨parts', hparts'⟩
        obtain ⟨hsame, hname⟩ := brokenDrive?_composed drives hkept hdrive hbroken hbroken'
        rw [read, read, hempty, hother, hbroken, hbroken']
        refine hnext (.cons hname (.cons ?_ .nil)) (.inl hd)
        rw [hsame]
        exact .refl _
    · rw [read_cons_of_ne_nil hempty, read_cons_of_ne_nil (stack_ne_nil hstack hempty), hlast]
      exact hnext hstep hsome

/-! ## Names -/

theorem namesOf_matches {drives : Prop} {stack stack' : List (List Char)}
    (h : List.Forall₂ (Match drives) stack' stack) : namesOf stack' = namesOf stack := by
  have hreverse : ∀ stack, namesOf stack = ((stack.filter (· ≠ [])).map
      fun segment => composed (Percent.decode segment)).reverse := by
    intro stack
    rw [namesOf, List.filter_reverse, List.map_reverse]
  rw [hreverse, hreverse]
  refine congrArg List.reverse ?_
  induction h with
  | nil => rfl
  | @cons segment' segment rest' rest hfirst _ ih =>
    by_cases hnil : segment = []
    · have hnil' := hfirst.eq_nil_iff.2 hnil
      rw [List.filter_cons_of_neg (by simp [hnil']), List.filter_cons_of_neg (by simp [hnil]), ih]
    · have hnil' : segment' ≠ [] := fun heq => hnil (hfirst.eq_nil_iff.1 heq)
      rw [List.filter_cons_of_pos (by simp [hnil']), List.filter_cons_of_pos (by simp [hnil]),
        List.map_cons, List.map_cons, ih, composed_eq_of_equivalent hfirst.name]

end FileUrl

namespace Resolve

open FileUrl Canonical

theorem fileUrlNames?_composed {rest : List Char} (h : Steady (pathSegments rest)) :
    fileUrlNames? (String.ofList (fileUrlStart ++ composed rest)) =
      fileUrlNames? (String.ofList (fileUrlStart ++ rest)) := by
  have hstack : List.Forall₂ (Match (Ascends (pathSegments rest))) (Reading.mk none [[]]).stack
      (Reading.mk none [[]]).stack := .cons (.refl []) .nil
  have hread := read_matches h.escapes (fun segment hmem hup => ⟨segment, hmem, hup⟩) h.drives
    hstack (.inr (by simp))
  rw [fileUrlNames?_fileUrlStart, fileUrlNames?_fileUrlStart, pathSegments_composed,
    namesOf_matches hread]

/-! ## The path from the document -/

theorem composed_of_mem_fileUrlNames? {url : String} {names : List (List Char)}
    (h : fileUrlNames? url = some names) : ∀ name ∈ names, composed name = name := by
  obtain ⟨parsed, -, rfl⟩ := Option.map_eq_some_iff.1 h
  intro name hmem
  obtain ⟨segment, -, rfl⟩ := List.mem_map.1 hmem
  exact composed_composed _

theorem composed_relativeBetween (names : List (List Char)) {target : List (List Char)}
    (h : ∀ name ∈ target, composed name = name) :
    composed (relativeBetween names target) = relativeBetween names target := by
  have hpieces : ∀ piece ∈ ascentAndDescent (directoryOf names) target, composed piece = piece := by
    intro piece hpiece
    rcases List.mem_append.1 hpiece with hup | hname
    · rw [List.eq_of_mem_replicate hup]
      exact (composed_eq_iff_of_dots (by simp [Path.up]) _).2 rfl
    · exact h piece (List.mem_of_mem_drop hname)
  have hpath : composed (joinSlash (ascentAndDescent (directoryOf names) target)) =
      joinSlash (ascentAndDescent (directoryOf names) target) := by
    rw [composed_joinSlash, List.map_congr_left hpieces, List.map_id']
  unfold relativeBetween
  dsimp only
  split
  · exact hpath
  · have hdot := composed_append_cons isSolitary_slash ['.']
      (joinSlash (ascentAndDescent (directoryOf names) target))
    rw [hpath] at hdot
    exact hdot

/-- The path is no file URL, so it is served as it is. -/
theorem resolvePath_relativeBetween (names : List (List Char)) {target : List (List Char)}
    (h : ∀ name ∈ target, composed name = name) (mount : Option String) :
    resolvePath (String.ofList (relativeBetween names target)) mount none =
      (String.ofList (served (trimSlashes (mount.getD "").toList) (relativeBetween names target)),
        []) := by
  obtain ⟨rest, hrest⟩ := relativeBetween_start names target
  have hcomposed := composed_relativeBetween names h
  unfold resolvePath
  rw [String.toList_ofList, hcomposed, hrest]
  simp [startsWith_of_dot, afterStart?_of_dot]

/-! ## Top theorems -/

theorem resolvePath_relativePath {specifier document : String} {rest : List Char}
    {names : List (List Char)} (hfile : specifier.toList = fileUrlStart ++ rest)
    (hbase : fileUrlNames? document = some names) (hsteady : Steady (pathSegments rest))
    (mount : Option String) :
    resolvePath specifier mount (some document) =
        resolvePath (relativePath specifier (some document)).1 mount none ∧
      (resolvePath specifier mount (some document)).2 = [] ∧
      (relativePath specifier (some document)).2 = [] := by
  have hspecifier : specifier = String.ofList (fileUrlStart ++ rest) := by
    rw [← hfile, String.ofList_toList]
  have hsame : fileUrlNames? (String.ofList (composed specifier.toList)) =
      fileUrlNames? specifier := by
    rw [hfile, composed_fileUrl, fileUrlNames?_composed hsteady, hspecifier]
  obtain ⟨target, htarget⟩ : ∃ target, fileUrlNames? specifier = some target := by
    rw [hspecifier]
    exact ⟨_, fileUrlNames?_fileUrlStart rest⟩
  have hrelative := relativePath_of_names htarget hbase
  have hresolved := resolvePath_of_names ((startsWith_iff _ _).2 ⟨rest, hfile⟩)
    (hsame.trans htarget) hbase mount
  have hserved := resolvePath_relativeBetween names
    (composed_of_mem_fileUrlNames? htarget) mount
  rw [hresolved, hrelative]
  exact ⟨hserved.symm, rfl, rfl⟩

/-- Marks behind an escape, in one, and behind a tab that keeps them from their letter. -/
theorem resolvePath_relativePath_marks :
    "file:///a/../caf%65\u0301/%C3%A9/e\t\u0301%CC%81.png".toList =
      fileUrlStart ++ "a/../caf%65\u0301/%C3%A9/e\t\u0301%CC%81.png".toList ∧
    fileUrlNames? "file:///b/c.mdx" = some ["b".toList, "c.mdx".toList] ∧
    Steady (pathSegments "a/../caf%65\u0301/%C3%A9/e\t\u0301%CC%81.png".toList) ∧
    resolvePath "file:///a/../caf%65\u0301/%C3%A9/e\t\u0301%CC%81.png" (some "m")
        (some "file:///b/c.mdx") =
      resolvePath (relativePath "file:///a/../caf%65\u0301/%C3%A9/e\t\u0301%CC%81.png"
        (some "file:///b/c.mdx")).1 (some "m") none := by
  have hfile : "file:///a/../caf%65\u0301/%C3%A9/e\t\u0301%CC%81.png".toList =
      fileUrlStart ++ "a/../caf%65\u0301/%C3%A9/e\t\u0301%CC%81.png".toList := by
    decide
  have hbase : fileUrlNames? "file:///b/c.mdx" = some ["b".toList, "c.mdx".toList] := by
    decide +kernel
  have hsteady : Steady (pathSegments "a/../caf%65\u0301/%C3%A9/e\t\u0301%CC%81.png".toList) := by
    decide +kernel
  exact ⟨hfile, hbase, hsteady, (resolvePath_relativePath hfile hbase hsteady (some "m")).1⟩

/-- A mark takes the last digit of an escape, and the Kelvin sign becomes a drive's letter. -/
theorem resolvePath_ne_relativePath_broken :
    (startsWith fileUrlStart "file:///a/%6E\u0301.png".toList = true ∧
      startsWith fileUrlStart "file:///a/\u212A:/../x.png".toList = true ∧
      fileUrlNames? "file:///a/" = some ["a".toList]) ∧
    resolvePath "file:///a/%6E\u0301.png" none (some "file:///a/") ≠
      resolvePath (relativePath "file:///a/%6E\u0301.png" (some "file:///a/")).1 none none ∧
    resolvePath "file:///a/\u212A:/../x.png" none (some "file:///a/") ≠
      resolvePath (relativePath "file:///a/\u212A:/../x.png" (some "file:///a/")).1 none none := by
  refine ⟨⟨by decide, by decide, by decide +kernel⟩, by decide +kernel, by decide +kernel⟩

end Resolve

end ServedMedia
