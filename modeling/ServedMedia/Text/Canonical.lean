import ServedMedia.Text.Canonical.CombiningClass
import ServedMedia.Text.Canonical.Composition
import ServedMedia.Text.Canonical.Decomposition

/-!
# Canonical composition of text

Normalization form C of the Unicode standard: every character is decomposed,
the combining marks behind each starter are sorted by class without changing
the order within a class, and a starter then absorbs each mark that is not
blocked and composes with it.  Texts that are canonically equivalent have the
same decomposed form, hence the same composed form.

    decomposed a = decomposed b → composed a = composed b     (composed_eq_of_equivalent)
    composed text = text   for text below U+00C0              (composed_of_plain)
-/

namespace ServedMedia.Canonical

/-! ## Algorithm -/

/-- Puts a character in front of an ordered text: a mark moves behind the marks
of a smaller class. -/
def insertMark (c : Char) : List Char → List Char
  | [] => [c]
  | d :: rest =>
    if 0 < combiningClass d ∧ combiningClass d < combiningClass c then d :: insertMark c rest
    else c :: d :: rest

/-- The text with the marks behind each starter sorted by class. -/
def order (text : List Char) : List Char := text.foldr insertMark []

/-- Normalization form D. -/
def decomposed (text : List Char) : List Char := order (text.flatMap decompose)

/-- Composes the rest of a text onto a starter.  `marks` are the marks kept since
the starter, last one first; a character is blocked if the last of them has its
class or a greater one. -/
def composeOnto (starter : Char) (marks : List Char) : List Char → List Char
  | [] => starter :: marks.reverse
  | c :: rest =>
    let blocked := match marks with
      | [] => false
      | last :: _ => combiningClass c ≤ combiningClass last
    match if blocked then none else compose? starter c with
    | some composite => composeOnto composite marks rest
    | none =>
      if combiningClass c = 0 then starter :: marks.reverse ++ composeOnto c [] rest
      else composeOnto starter (c :: marks) rest

/-- Composes an ordered text; marks before the first starter stay as they are. -/
def recompose : List Char → List Char
  | [] => []
  | c :: rest => if combiningClass c = 0 then composeOnto c [] rest else c :: recompose rest

/-- Normalization form C. -/
def composed (text : List Char) : List Char := recompose (decomposed text)

/-! ## Lemmas -/

theorem composed_eq_of_equivalent {a b : List Char} (h : decomposed a = decomposed b) :
    composed a = composed b := by
  rw [composed, h, composed]

theorem combiningClass_of_lt {c : Char} (h : c.toNat < 0x300) : combiningClass c = 0 := by
  simp [combiningClass, h]

theorem compose?_of_lt (first : Char) {second : Char} (h : second.toNat < 0x300) :
    compose? first second = none := by
  simp [compose?, h]

theorem decompose_of_lt {c : Char} (h : c.toNat < 0xC0) : decompose c = [c] := by
  simp [decompose, h]

theorem insertMark_starter {c : Char} (h : combiningClass c = 0) (text : List Char) :
    insertMark c text = c :: text := by
  cases text <;> simp [insertMark, h]

theorem decomposed_of_plain {text : List Char} (h : ∀ c ∈ text, c.toNat < 0xC0) :
    decomposed text = text := by
  induction text with
  | nil => rfl
  | cons c rest ih =>
    have hc := h c (by simp)
    have hs : combiningClass c = 0 := combiningClass_of_lt (by omega)
    have hr := ih fun d hd => h d (by simp [hd])
    rw [decomposed, List.flatMap_cons, decompose_of_lt hc, order, List.singleton_append,
      List.foldr_cons, ← order, ← decomposed, hr, insertMark_starter hs]

theorem composeOnto_of_plain (c : Char) {rest : List Char} (h : ∀ d ∈ rest, d.toNat < 0xC0) :
    composeOnto c [] rest = c :: rest := by
  induction rest generalizing c with
  | nil => rfl
  | cons d rest ih =>
    have hd := h d (by simp)
    have hs : combiningClass d = 0 := combiningClass_of_lt (by omega)
    have hn : compose? c d = none := compose?_of_lt c (by omega)
    simp [composeOnto, hs, hn, ih d fun e he => h e (by simp [he])]

theorem composed_of_plain {text : List Char} (h : ∀ c ∈ text, c.toNat < 0xC0) :
    composed text = text := by
  rw [composed, decomposed_of_plain h]
  cases text with
  | nil => rfl
  | cons c rest =>
    have hs : combiningClass c = 0 := combiningClass_of_lt (by have := h c (by simp); omega)
    rw [recompose, if_pos hs]
    exact composeOnto_of_plain c fun d hd => h d (by simp [hd])

end ServedMedia.Canonical
