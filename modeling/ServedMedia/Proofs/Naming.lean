import Mathlib.Data.List.TakeWhile
import ServedMedia.Proofs.Escaping
import ServedMedia.Proofs.Parsing
import ServedMedia.Proofs.Serving

/-!
# Names along a file URL

The text behind "file:///" is cut into segments.  They are read onto a stack that holds an
empty segment at first, so no drive stands at its start.  What is not empty on the stack is
decoded and composed:

    fileUrlNames? (fileUrlStart ++ rest) =
      some (namesOf (read ⟨none, [[]]⟩ (pathSegments rest)).stack)     (fileUrlNames?_fileUrlStart)

Characters that end a segment or the path, and blanks, have to be encoded in a name.  Segments
without them are cut as they were joined, and pushed one after the other if none of them is a
dot segment                                                 (pathSegments_joinSlash, read_pushed).
-/

namespace ServedMedia

namespace FileUrl

/-! ## Algorithm -/

/-- The segments of the path behind "file:///", as they are written. -/
def pathSegments (rest : List Char) : List (List Char) :=
  cutPath ((trimEnd rest).takeWhile (!endsPath ·))

/-- The names that a stack of segments stands for, first one first. -/
def namesOf (stack : List (List Char)) : List (List Char) :=
  (stack.reverse.filter (· ≠ [])).map fun segment => Canonical.composed (Percent.decode segment)

/-- Whether a character has to be encoded to stand in a name: it would be cut off or taken away. -/
def isCut (c : Char) : Bool := isBlank c || isSlash c || endsPath c

/-- A segment that nothing is cut off from. -/
def IsTidy (segment : List Char) : Prop := ∀ c ∈ segment, isCut c = false

/-! ## Dot segments -/

theorem toNat_lt_of_toLower {c : Char} (h : c.toLower.toNat < 0x80) : c.toNat < 0x80 := by
  unfold Char.toLower at h
  split at h
  · next hupper =>
    have hle : c.toNat ≤ 'Z'.toNat := hupper.2
    exact Nat.lt_of_le_of_lt hle (by decide)
  · exact h

/-- The characters of dot segments that are no letters. -/
theorem eq_of_toLower {c d : Char} (hd : d ∈ ".%2".toList) (h : c.toLower = d) : c = d := by
  have hlow : ∀ d ∈ ".%2".toList, decide (d.toNat < 0x80) = true := List.all_eq_true.1 (by decide)
  subst h
  exact forall_ascii (P := fun c => c.toLower ∈ ".%2".toList → c = c.toLower) (by decide) c
    (toNat_lt_of_toLower (of_decide_eq_true (hlow _ hd))) hd

theorem hexValue?_of_toLower {c : Char} (h : c.toLower = 'e') : hexValue? c = some 14 := by
  have hc : c.toNat < 0x80 := toNat_lt_of_toLower (by rw [h]; decide)
  exact forall_ascii (P := fun c => c.toLower = 'e' → hexValue? c = some 14) (by decide) c hc h

theorem octets_of_dot {segment : List Char} (h : segment.map Char.toLower ∈ dot)
    (rest : List Char) :
    Percent.octets (segment ++ rest) = '.'.toNat :: Percent.octets rest := by
  rcases List.mem_cons.1 h with hplain | hencoded
  · obtain ⟨c, rfl, hc⟩ := List.map_eq_singleton_iff.1 hplain
    obtain rfl : c = '.' := eq_of_toLower (by decide) hc
    exact Percent.octets_cons_of_ne (by decide) rest
  · obtain ⟨a, segment, rfl, ha, hsegment⟩ := List.map_eq_cons_iff.1 (List.mem_singleton.1 hencoded)
    obtain ⟨b, segment, rfl, hb, hsegment⟩ := List.map_eq_cons_iff.1 hsegment
    obtain ⟨c, rfl, hc⟩ := List.map_eq_singleton_iff.1 hsegment
    obtain rfl : a = '%' := eq_of_toLower (by decide) ha
    obtain rfl : b = '2' := eq_of_toLower (by decide) hb
    exact Percent.octets_percent_of_some
      (Percent.escape?_eq_some_iff.2 ⟨'2', c, rest, 2, 14, rfl, rfl, hexValue?_of_toLower hc, rfl⟩)

theorem decode_of_isHere {segment : List Char} (h : isHere segment = true) :
    Percent.decode segment = Path.here := by
  have hoctets := octets_of_dot (List.contains_iff_mem.1 h) []
  rw [List.append_nil] at hoctets
  rw [Percent.decode, hoctets]
  decide

theorem decode_of_isUp {segment : List Char} (h : isUp segment = true) :
    Percent.decode segment = Path.up := by
  obtain ⟨a, ha, hmem⟩ := List.mem_flatMap.1 (List.contains_iff_mem.1 h)
  obtain ⟨b, hb, heq⟩ := List.mem_map.1 hmem
  obtain ⟨front, back, rfl, rfl, rfl⟩ := List.map_eq_append_iff.1 heq.symm
  have hoctets := octets_of_dot hb []
  rw [List.append_nil] at hoctets
  rw [Percent.decode, octets_of_dot ha, hoctets]
  decide

/-! ## Drives -/

section
variable {segment : List Char} (h : isDrive segment = true)
include h

theorem exists_of_isDrive : ∃ letter mark, segment = [letter, mark] ∧ letter.isAlpha = true ∧
    (mark = ':' ∨ mark = '|') := by
  unfold isDrive at h
  split at h
  · next letter mark =>
    obtain ⟨hletter, hmark⟩ := Bool.and_eq_true_iff.1 h
    exact ⟨letter, mark, rfl, hletter, by simpa using hmark⟩
  · cases h

theorem percent_not_mem_of_isDrive : '%' ∉ segment := by
  obtain ⟨letter, mark, rfl, hletter, hmark⟩ := exists_of_isDrive h
  intro hmem
  rcases List.mem_cons.1 hmem with rfl | hmem
  · cases hletter
  · obtain rfl := List.mem_singleton.1 hmem
    rcases hmark with hmark | hmark <;> cases hmark

theorem toNat_lt_of_isDrive : ∀ c ∈ segment, c.toNat < 0x80 := by
  obtain ⟨letter, mark, rfl, hletter, hmark⟩ := exists_of_isDrive h
  refine List.forall_mem_cons.2 ⟨toNat_lt_of_isAlphanum (by simp [Char.isAlphanum, hletter]),
    List.forall_mem_singleton.2 ?_⟩
  rcases hmark with rfl | rfl <;> decide

end

/-! ## Cutting -/

theorem isBlank_of_isBreak {c : Char} (h : isBreak c = true) : isBlank c = true := by
  rcases Bool.or_eq_true_iff.1 h with htab | hreturn
  · rcases Bool.or_eq_true_iff.1 htab with htab | hline
    · rw [eq_of_beq htab]
      rfl
    · rw [eq_of_beq hline]
      rfl
  · rw [eq_of_beq hreturn]
    rfl

section
variable {segment : List Char} (h : IsTidy segment) {c : Char} (hc : c ∈ segment)
include h hc

theorem IsTidy.isBlank : isBlank c = false :=
  (Bool.or_eq_false_iff.1 (Bool.or_eq_false_iff.1 (h c hc)).1).1

theorem IsTidy.isSlash : isSlash c = false :=
  (Bool.or_eq_false_iff.1 (Bool.or_eq_false_iff.1 (h c hc)).1).2

theorem IsTidy.endsPath : endsPath c = false :=
  (Bool.or_eq_false_iff.1 (h c hc)).2

theorem IsTidy.isBreak : isBreak c = false := by
  rw [Bool.eq_false_iff]
  intro hbreak
  have hblank := h.isBlank hc
  rw [isBlank_of_isBreak hbreak] at hblank
  cases hblank

end

theorem mem_joinSlash {pieces : List (List Char)} {c : Char} (h : c ∈ joinSlash pieces) :
    c = '/' ∨ ∃ piece ∈ pieces, c ∈ piece := by
  induction pieces with
  | nil => cases h
  | cons piece rest ih =>
    by_cases hrest : rest = []
    · subst hrest
      exact .inr ⟨piece, List.mem_cons_self, h⟩
    · rw [joinSlash_cons_of_ne_nil piece hrest] at h
      rcases List.mem_append.1 h with hpiece | hmem
      · exact .inr ⟨piece, List.mem_cons_self, hpiece⟩
      · rcases List.mem_cons.1 hmem with rfl | hmem
        · exact .inl rfl
        · obtain hslash | ⟨other, hother, hc⟩ := ih hmem
          · exact .inl hslash
          · exact .inr ⟨other, List.mem_cons_of_mem _ hother, hc⟩

theorem trimEnd_of_getLast? {text : List Char}
    (h : ∀ c, text.getLast? = some c → isBlank c = false) : trimEnd text = text := by
  rcases List.eq_nil_or_concat text with rfl | ⟨front, c, rfl⟩
  · rfl
  · rw [List.concat_eq_append] at h ⊢
    exact trimEnd_append_singleton (h c (by simp)) front

theorem pathSegments_joinSlash {segments : List (List Char)} (hne : segments ≠ [])
    (h : ∀ segment ∈ segments, IsTidy segment) : pathSegments (joinSlash segments) = segments := by
  have hchar : ∀ c ∈ joinSlash segments,
      isBlank c = false ∧ endsPath c = false ∧ (if isSlash c then '/' else c) = c := by
    intro c hc
    rcases mem_joinSlash hc with rfl | ⟨segment, hsegment, hmem⟩
    · decide
    · have htidy := h segment hsegment
      refine ⟨htidy.isBlank hmem, htidy.endsPath hmem, ?_⟩
      rw [htidy.isSlash hmem]
      rfl
  have htake : (joinSlash segments).takeWhile (!endsPath ·) = joinSlash segments :=
    List.takeWhile_eq_self_iff.2 fun c hc => by rw [(hchar c hc).2.1]; rfl
  have hmap : (joinSlash segments).map (fun c => if isSlash c then '/' else c) =
      joinSlash segments :=
    (List.map_congr_left fun c hc => (hchar c hc).2.2).trans (List.map_id _)
  have hslash : ∀ segment ∈ segments, '/' ∉ segment := by
    intro segment hsegment hmem
    exact absurd ((h segment hsegment).isSlash hmem) (by decide)
  have htrim : trimEnd (joinSlash segments) = joinSlash segments :=
    trimEnd_of_getLast? fun c hc => (hchar c (List.mem_of_getLast? hc)).1
  rw [pathSegments, htrim, htake, cutPath, hmap, cutSlash_joinSlash hne hslash]

/-! ## Reading -/

/-- Behind the first segment no drive is looked for. -/
theorem read_cons_of_ne_nil {reading : Reading} (h : reading.stack ≠ []) (segment : List Char)
    (rest : List (List Char)) :
    read reading (segment :: rest) = read (reading.step (unbroken segment) rest.isEmpty) rest := by
  rw [read]
  split
  · next hstack _ => exact absurd hstack h
  · rfl

/-- Without a break nothing is cut off behind a drive either. -/
theorem brokenDrive?_of_isTidy {segment : List Char} (h : IsTidy segment) :
    brokenDrive? segment = none := by
  unfold brokenDrive?
  split
  · next behind _ _ hbehind =>
    have hmem : behind ∈ segment := by
      have hdrop : behind ∈ (segment.dropWhile (· != ':')).drop 1 := by
        rw [hbehind]
        exact List.mem_cons_self
      exact (List.dropWhile_sublist _).mem (List.mem_of_mem_drop hdrop)
    rw [h.isBreak hmem, Bool.and_false]
    rfl
  · rfl

theorem read_cons_of_isTidy {segment : List Char} (h : IsTidy segment) (reading : Reading)
    (rest : List (List Char)) :
    read reading (segment :: rest) = read (reading.step segment rest.isEmpty) rest := by
  rw [read, brokenDrive?_of_isTidy h, unbroken_eq_self fun c hc => h.isBreak hc]
  split
  · next hnone => cases hnone
  · rfl

theorem push_of_ne_nil {reading : Reading} (h : reading.stack ≠ []) (segment : List Char) :
    reading.push segment = { reading with stack := segment :: reading.stack } := by
  rw [Reading.push]
  simp [h]

theorem read_pushed {segments : List (List Char)} (htidy : ∀ segment ∈ segments, IsTidy segment)
    (hdots : ∀ segment ∈ segments, isHere segment = false ∧ isUp segment = false)
    {reading : Reading} (h : reading.stack ≠ []) :
    (read reading segments).stack = segments.reverse ++ reading.stack := by
  induction segments generalizing reading with
  | nil => rfl
  | cons segment rest ih =>
    obtain ⟨hhere, hup⟩ := hdots segment List.mem_cons_self
    have hstep : reading.step segment rest.isEmpty =
        { reading with stack := segment :: reading.stack } := by
      simp [Reading.step, hhere, hup, push_of_ne_nil h]
    rw [read_cons_of_isTidy (htidy segment List.mem_cons_self), hstep,
      ih (fun s hs => htidy s (List.mem_cons_of_mem _ hs))
        (fun s hs => hdots s (List.mem_cons_of_mem _ hs)) (by simp),
      List.reverse_cons, List.append_assoc]
    rfl

/-! ## Names -/

theorem filter_dropEmpty (segments : List (List Char)) :
    (dropEmpty segments).filter (· ≠ []) = segments.filter (· ≠ []) := by
  fun_induction dropEmpty segments with
  | case1 next rest ih => rw [ih]; simp
  | case2 => rfl

theorem namesOf_reverse_append (segments : List (List Char)) :
    namesOf (segments.reverse ++ [[]]) = (segments.filter (· ≠ [])).map
      fun segment => Canonical.composed (Percent.decode segment) := by
  rw [namesOf, List.reverse_append, List.reverse_reverse]
  rfl

theorem names_ofPathText_slash (text : List Char) :
    (ofPathText none ('/' :: text)).names =
      namesOf (read ⟨none, [[]]⟩ (cutPath (text.takeWhile (!endsPath ·)))).stack := by
  have hcut : cutPath (('/' :: text).takeWhile (!endsPath ·)) =
      [] :: cutPath (text.takeWhile (!endsPath ·)) := by
    rw [List.takeWhile_cons_of_pos (by decide)]
    exact cutSlash_slash _
  have hread : ∀ segments, read ⟨none, []⟩ ([] :: segments) = read ⟨none, [[]]⟩ segments :=
    fun segments => rfl
  have hkept : ∀ segments : List (List Char),
      (segments.map (Percent.encode encodedInPath)).filter (· ≠ []) =
        (segments.filter (· ≠ [])).map (Percent.encode encodedInPath) := by
    intro segments
    rw [List.filter_map]
    refine congrArg _ (List.filter_congr fun segment _ => ?_)
    exact decide_eq_decide.2 (not_congr Percent.encode_eq_nil_iff)
  rw [names, ofPathText]
  simp only [hcut, hread, hkept, filter_dropEmpty, List.map_map]
  rw [namesOf]
  exact List.map_congr_left fun segment _ => congrArg _ (decode_encodedInPath segment)

end FileUrl

namespace Resolve

open FileUrl

/-! ## Top theorems -/

theorem fileUrlNames?_fileUrlStart (rest : List Char) :
    fileUrlNames? (String.ofList (fileUrlStart ++ rest)) =
      some (namesOf (read ⟨none, [[]]⟩ (pathSegments rest)).stack) := by
  rw [fileUrlNames?, String.toList_ofList, parse?_fileUrlStart, Option.map_some,
    names_ofPathText_slash, pathSegments]

theorem relativePath_of_names {url document : String} {names target : List (List Char)}
    (htarget : fileUrlNames? url = some target) (hbase : fileUrlNames? document = some names) :
    relativePath url (some document) = (String.ofList (relativeBetween names target), []) := by
  simp [relativePath, htarget, hbase]

theorem resolvePath_of_names {specifier document : String} {names target : List (List Char)}
    (hfile : startsWith fileUrlStart specifier.toList = true)
    (htarget : fileUrlNames? (String.ofList (Canonical.composed specifier.toList)) = some target)
    (hbase : fileUrlNames? document = some names) (mount : Option String) :
    resolvePath specifier mount (some document) =
      (String.ofList (served (trimSlashes (mount.getD "").toList) (relativeBetween names target)),
        []) := by
  obtain ⟨rest, hrest⟩ := (startsWith_iff _ _).1 hfile
  rcases resolvePath_cases hrest mount (some document) with
    ⟨document', names', target', hsome, hbase', htarget', hresolved⟩ | ⟨hnone, -⟩
  · obtain rfl : document = document' := Option.some.inj hsome
    obtain rfl : names = names' := Option.some.inj (hbase.symm.trans hbase')
    obtain rfl : target = target' := Option.some.inj (htarget.symm.trans htarget')
    exact hresolved
  · rcases hnone document rfl with h | h
    · rw [hbase] at h
      cases h
    · rw [htarget] at h
      cases h

end Resolve

end ServedMedia
