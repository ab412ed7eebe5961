import Mathlib.Data.List.Induction
import ServedMedia.Proofs.Spelling

/-!
# Segments of a composed text

The characters that have to be escaped in a name are plain, they begin no composite, and no
other character is decomposed to one of them.  So composition leaves them where they are and
brings no new one, and what they separate is composed piece by piece:

    pathSegments (composed text) = (pathSegments text).map composed     (pathSegments_composed)

Tabs and line breaks, which are taken out of a segment only afterwards, can keep a mark from
its letter while the segment is composed.  What is left is still equivalent:

    decomposed (unbroken (composed text)) = decomposed (unbroken text)
                                                           (decomposed_unbroken_composed)
-/

namespace ServedMedia

namespace Canonical

/-! ## Algorithm -/

/-- Whether a character might begin a composite, or be what another one is decomposed to: none
below the semicolon does, and neither question mark nor backslash. -/
def mayTurn (n : Nat) : Bool := 0x3B ≤ n && n != 0x3F && n != 0x5C

/-- Whether a plain character is equivalent to no other one.  The five left out have one: they
are what U+037E, U+212A, U+1FEF, U+1FFD and U+0387 are decomposed to. -/
def isSole (n : Nat) : Bool := n < 0xC0 && !([0x3B, 0x4B, 0x60, 0xB4, 0xB7].contains n)

/-! ## Tables -/

theorem all_firstPart : (composites.all fun composite => mayTurn (firstPart composite)) = true := by
  decide +kernel

theorem all_codes_mayTurn :
    ((ideographs ++ letters).all fun entry => (Table.codes entry).all mayTurn) = true := by
  decide +kernel

theorem all_codes_isSole : ((ideographs ++ letters).all fun entry =>
    (Table.codes entry).any fun n => !isSole n) = true := by
  decide +kernel

theorem exists_code_of_mem_unpack {entry : Nat} (hentry : entry ∈ ideographs ++ letters) {c : Char}
    (h : c ∈ Table.unpack 6 (entry / 0x1000000)) : ∃ n ∈ Table.codes entry, c.toNat = n := by
  rw [Table.unpack_eq_map] at h
  obtain ⟨n, hn, rfl⟩ := List.mem_map.1 h
  have hletter := List.all_eq_true.1 (List.all_eq_true.1 all_codes entry hentry) n hn
  exact ⟨n, hn, toNat_ofNat_of_isLetter (Bool.and_eq_true_iff.1 hletter).1⟩

/-! ## Plain text -/

theorem decompose_of_isSole {c : Char} (h : ∀ d ∈ decompose c, isSole d.toNat = true) :
    decompose c = [c] := by
  rcases decompose_cases c with hself | ⟨hrange, hsyllable⟩ | ⟨entry, hentry, hcodes⟩
  · exact hself
  · obtain ⟨d, rest, hd⟩ := List.exists_cons_of_ne_nil (decompose_ne_nil c)
    have hmem : d ∈ decompose c := by
      rw [hd]
      exact List.mem_cons_self
    have hplain : d.toNat < 0xC0 := of_decide_eq_true (Bool.and_eq_true_iff.1 (h d hmem)).1
    rw [hsyllable] at hmem
    have hjamo : 0xC0 ≤ d.toNat := lt_of_mem_decomposeHangul hrange.2 hmem
    omega
  · obtain ⟨n, hn, hother⟩ := List.any_eq_true.1 (List.all_eq_true.1 all_codes_isSole entry hentry)
    have hletter := List.all_eq_true.1 (List.all_eq_true.1 all_codes entry hentry) n hn
    have hsole := h (Char.ofNat n) (by rw [hcodes]; exact List.mem_map_of_mem hn)
    rw [toNat_ofNat_of_isLetter (Bool.and_eq_true_iff.1 hletter).1] at hsole
    rw [hsole] at hother
    cases hother

/-- A text of such characters is equivalent to itself alone. -/
theorem eq_of_decomposed_eq {text other : List Char} (h : ∀ c ∈ other, isSole c.toNat = true)
    (heq : decomposed text = other) : text = other := by
  have hsole : ∀ c ∈ text.flatMap decompose, isSole c.toNat = true := by
    intro c hc
    apply h
    rw [← heq]
    exact (order_perm _).mem_iff.2 hc
  have hsettled : ∀ c ∈ text, decompose c = [c] := fun c hc =>
    decompose_of_isSole fun d hd => hsole d (List.mem_flatMap.2 ⟨c, hc, hd⟩)
  have hflat : text.flatMap decompose = text := flatMap_of_settled hsettled
  rw [hflat] at hsole
  have hplain : ∀ c ∈ text, c.toNat < 0xC0 := fun c hc =>
    of_decide_eq_true (Bool.and_eq_true_iff.1 (hsole c hc)).1
  rw [← heq, decomposed_of_plain hplain]

end Canonical

namespace FileUrl

open Canonical

/-! ## Cutting -/

/-- A text is cut at certain characters, the first one first. -/
theorem inductionOnCuts (cut : Char → Bool) {motive : List Char → Prop} (text : List Char)
    (whole : ∀ text, (∀ c ∈ text, cut c = false) → motive text)
    (parts : ∀ before c after, (∀ d ∈ before, cut d = false) → cut c = true → motive after →
      motive (before ++ c :: after)) : motive text := by
  have hall : ∀ before, (∀ c ∈ before, cut c = false) → motive (before ++ text) := by
    induction text with
    | nil =>
      intro before hbefore
      rw [List.append_nil]
      exact whole before hbefore
    | cons c rest ih =>
      intro before hbefore
      cases hc : cut c with
      | true => exact parts before c rest hbefore hc (ih [] (List.forall_mem_nil _))
      | false =>
        have hlonger : ∀ d ∈ before ++ [c], cut d = false :=
          List.forall_mem_append.2 ⟨hbefore, List.forall_mem_singleton.2 hc⟩
        have hnext := ih (before ++ [c]) hlonger
        rwa [List.append_assoc] at hnext
  exact hall [] (List.forall_mem_nil _)

/-! ## Characters that stay -/

theorem mayTurn_of_mustEscape {c : Char} (h : mustEscape c = true) : mayTurn c.toNat = false := by
  simp only [mustEscape, isCut, isBlank, isSlash, endsPath, Bool.or_eq_true, beq_iff_eq,
    decide_eq_true_eq] at h
  rcases h with rfl | ((hblank | rfl | rfl) | rfl | rfl)
  · decide
  · have hlow : ¬ 0x3B ≤ c.toNat := by omega
    rw [mayTurn, decide_eq_false hlow]
    rfl
  all_goals decide

theorem toNat_lt_of_mustEscape {c : Char} (h : mustEscape c = true) : c.toNat < 0xC0 := by
  have hturn := mayTurn_of_mustEscape h
  simp only [mayTurn, Bool.and_eq_false_iff, decide_eq_false_iff_not, bne_eq_false_iff_eq] at hturn
  omega

theorem isSolitary_of_mustEscape {c : Char} (h : mustEscape c = true) : IsSolitary c := by
  have hlow := toNat_lt_of_mustEscape h
  refine ⟨hlow, compose?_eq_none hlow fun composite hmem heq => ?_⟩
  have hturn : mayTurn (firstPart composite) = true :=
    List.all_eq_true.1 all_firstPart composite hmem
  rw [firstPart, heq, mayTurn_of_mustEscape h] at hturn
  cases hturn

theorem isOriginal_of_mustEscape {c : Char} (h : mustEscape c = true) : IsOriginal c := by
  refine ⟨toNat_lt_of_mustEscape h, fun entry hentry hmem => ?_⟩
  obtain ⟨n, hn, hturn⟩ := exists_code_of_mem_unpack hentry hmem
  have hfree : mayTurn n = true :=
    List.all_eq_true.1 (List.all_eq_true.1 all_codes_mayTurn entry hentry) n hn
  rw [← hturn, mayTurn_of_mustEscape h] at hfree
  cases hfree

theorem mustEscape_of_isBlank {c : Char} (h : isBlank c = true) : mustEscape c = true := by
  simp [mustEscape, isCut, h]

theorem mustEscape_of_isSlash {c : Char} (h : isSlash c = true) : mustEscape c = true := by
  simp [mustEscape, isCut, h]

theorem mustEscape_of_endsPath {c : Char} (h : endsPath c = true) : mustEscape c = true := by
  simp [mustEscape, isCut, h]

theorem mustEscape_of_isBreak {c : Char} (h : isBreak c = true) : mustEscape c = true :=
  mustEscape_of_isBlank (isBlank_of_isBreak h)

section
variable {cut : Char → Bool} (hcut : ∀ c, cut c = true → mustEscape c = true)
include hcut

theorem forall_mem_composed {text : List Char} (h : ∀ c ∈ text, cut c = false) :
    ∀ c ∈ composed text, cut c = false := by
  intro c hc
  rw [Bool.eq_false_iff]
  intro htrue
  have hmem : c ∈ text := mem_of_mem_composed (isOriginal_of_mustEscape (hcut c htrue)) hc
  rw [h c hmem] at htrue
  cases htrue

theorem composed_parts {c : Char} (hc : cut c = true) (before after : List Char) :
    composed (before ++ c :: after) = composed before ++ c :: composed after :=
  composed_append_cons (isSolitary_of_mustEscape (hcut c hc)) before after

theorem takeWhile_composed (text : List Char) :
    (composed text).takeWhile (!cut ·) = composed (text.takeWhile (!cut ·)) := by
  have hself : ∀ {text : List Char}, (∀ c ∈ text, cut c = false) →
      text.takeWhile (!cut ·) = text := fun h =>
    List.takeWhile_eq_self_iff.2 fun c hc => by rw [h c hc]; rfl
  have hstop : ∀ {before : List Char} {c : Char} (after : List Char),
      (∀ d ∈ before, cut d = false) → cut c = true →
        (before ++ c :: after).takeWhile (!cut ·) = before := by
    intro before c after hbefore hc
    rw [List.takeWhile_append_of_pos fun d hd => by rw [hbefore d hd]; rfl,
      List.takeWhile_cons_of_neg (by simp [hc]), List.append_nil]
  induction text using inductionOnCuts cut with
  | whole text h => rw [hself h, hself (forall_mem_composed hcut h)]
  | parts before c after hbefore hc _ =>
    rw [composed_parts hcut hc, hstop _ hbefore hc, hstop _ (forall_mem_composed hcut hbefore) hc]

/-- The last character is of the same kind. -/
theorem getLast?_composed {text : List Char} (h : ∀ c, text.getLast? = some c → cut c = false) :
    ∀ c, (composed text).getLast? = some c → cut c = false := by
  induction text using inductionOnCuts cut with
  | whole text hfree =>
    exact fun c hc => forall_mem_composed hcut hfree c (List.mem_of_getLast? hc)
  | parts before c after hbefore hc ih =>
    have hne : after ≠ [] := by
      rintro rfl
      have hlast := h c (by simp)
      rw [hc] at hlast
      cases hlast
    have hlast : ∀ (front : List Char) {back : List Char}, back ≠ [] →
        (front ++ c :: back).getLast? = back.getLast? := by
      intro front back hback
      rw [List.getLast?_append_of_ne_nil _ (List.cons_ne_nil c back),
        List.getLast?_cons_of_ne_nil hback]
    rw [composed_parts hcut hc, hlast _ (composed_ne_nil hne)]
    exact ih fun d hd => h d (by rw [hlast before hne]; exact hd)

end

/-! ## Breaks -/

theorem unbroken_append (before after : List Char) :
    unbroken (before ++ after) = unbroken before ++ unbroken after :=
  List.filter_append _ _

theorem unbroken_cons_of_isBreak {c : Char} (h : isBreak c = true) (text : List Char) :
    unbroken (c :: text) = unbroken text :=
  List.filter_cons_of_neg (by simp [h])

theorem decomposed_unbroken_composed (text : List Char) :
    decomposed (unbroken (composed text)) = decomposed (unbroken text) := by
  have hcut : ∀ c, isBreak c = true → mustEscape c = true := fun c => mustEscape_of_isBreak
  have hwhole : ∀ {text : List Char}, (∀ c ∈ text, isBreak c = false) →
      decomposed (unbroken (composed text)) = decomposed (unbroken text) := by
    intro text h
    rw [unbroken_eq_self h, unbroken_eq_self (forall_mem_composed hcut h), decomposed_composed]
  induction text using inductionOnCuts isBreak with
  | whole text h => exact hwhole h
  | parts before c after hbefore hc ih =>
    rw [composed_parts hcut hc, unbroken_append, unbroken_append, unbroken_cons_of_isBreak hc,
      unbroken_cons_of_isBreak hc]
    exact decomposed_append_congr (hwhole hbefore) ih

/-! ## Segments -/

theorem trimEnd_append_blank {c : Char} (hc : isBlank c = true) (text : List Char) :
    trimEnd (text ++ [c]) = trimEnd text := by
  rw [trimEnd, List.reverse_append, List.reverse_singleton, List.singleton_append,
    List.dropWhile_cons_of_pos hc, trimEnd]

theorem trimEnd_composed (text : List Char) :
    trimEnd (composed text) = composed (trimEnd text) := by
  have hcut : ∀ c, isBlank c = true → mustEscape c = true := fun c => mustEscape_of_isBlank
  induction text using List.reverseRecOn with
  | nil => rfl
  | append_singleton front c ih =>
    cases hc : isBlank c with
    | true =>
      have hempty : composed [] = [] := rfl
      rw [composed_parts hcut hc, hempty, trimEnd_append_blank hc, ih, trimEnd_append_blank hc]
    | false =>
      have hlast : ∀ d, (front ++ [c]).getLast? = some d → isBlank d = false := by
        intro d hd
        obtain rfl : c = d := by simpa using hd
        exact hc
      rw [trimEnd_of_getLast? (getLast?_composed hcut hlast), trimEnd_of_getLast? hlast]

theorem cutPath_of_not_isSlash {text : List Char} (h : ∀ c ∈ text, isSlash c = false) :
    cutPath text = [text] := by
  have hmap : text.map (fun c => if isSlash c then '/' else c) = text :=
    (List.map_congr_left fun c hc => by rw [h c hc]; rfl).trans (List.map_id _)
  have hslash : '/' ∉ text := fun hmem => absurd (h '/' hmem) (by decide)
  rw [cutPath, hmap, cutSlash_of_not_mem hslash]

theorem cutPath_append_cons {before : List Char} {c : Char}
    (h : ∀ d ∈ before, isSlash d = false) (hc : isSlash c = true) (after : List Char) :
    cutPath (before ++ c :: after) = before :: cutPath after := by
  have hbefore := cutPath_of_not_isSlash h
  rw [cutPath] at hbefore
  rw [cutPath, List.map_append, List.map_cons, if_pos hc, cutSlash_append_slash, hbefore]
  rfl

theorem cutPath_composed (text : List Char) :
    cutPath (composed text) = (cutPath text).map composed := by
  have hcut : ∀ c, isSlash c = true → mustEscape c = true := fun c => mustEscape_of_isSlash
  induction text using inductionOnCuts isSlash with
  | whole text h =>
    rw [cutPath_of_not_isSlash h, cutPath_of_not_isSlash (forall_mem_composed hcut h)]
    rfl
  | parts before c after hbefore hc ih =>
    rw [composed_parts hcut hc, cutPath_append_cons hbefore hc,
      cutPath_append_cons (forall_mem_composed hcut hbefore) hc, ih]
    rfl

/-! ## Top theorems -/

theorem pathSegments_composed (text : List Char) :
    pathSegments (composed text) = (pathSegments text).map composed := by
  rw [pathSegments, trimEnd_composed, takeWhile_composed fun c => mustEscape_of_endsPath,
    cutPath_composed, pathSegments]

end FileUrl

end ServedMedia
