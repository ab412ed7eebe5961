/-!
# UTF-8

Octets are natural numbers below 256.  Reading never fails: an octet sequence is
read as characters and faults, a fault being a longest beginning of a character
that the next octet does not continue, or an octet that begins none.

    decodeLossy (encode text) = text        (decodeLossy_encode)

An octet below 0x80 is a character wherever it stands   (decodeLossy_append_cons).
-/

namespace ServedMedia.Utf8

/-! ## Algorithm -/

/-- The octets of a character. -/
def encodeChar (c : Char) : List Nat :=
  let n := c.toNat
  if n < 0x80 then [n]
  else if n < 0x800 then [0xC0 + n / 64, 0x80 + n % 64]
  else if n < 0x10000 then [0xE0 + n / 4096, 0x80 + n / 64 % 64, 0x80 + n % 64]
  else [0xF0 + n / 262144, 0x80 + n / 4096 % 64, 0x80 + n / 64 % 64, 0x80 + n % 64]

def encode (text : List Char) : List Nat := text.flatMap encodeChar

/-- A character under way: how many octets are missing, the value so far, and the
least and the greatest octet that may come next. -/
structure Pending where
  missing : Nat
  value : Nat
  low : Nat
  high : Nat
  deriving Repr, DecidableEq

/-- What the first octet of a character gives: all of it, a fault, or a character under way. -/
def begin (b : Nat) : List (Option Char) × Option Pending :=
  if b < 0x80 then ([some (Char.ofNat b)], none)
  else if 0xC2 ≤ b ∧ b ≤ 0xDF then ([], some ⟨1, b - 0xC0, 0x80, 0xBF⟩)
  else if b = 0xE0 then ([], some ⟨2, 0, 0xA0, 0xBF⟩)
  else if b = 0xED then ([], some ⟨2, 0xD, 0x80, 0x9F⟩)
  else if 0xE1 ≤ b ∧ b ≤ 0xEF then ([], some ⟨2, b - 0xE0, 0x80, 0xBF⟩)
  else if b = 0xF0 then ([], some ⟨3, 0, 0x90, 0xBF⟩)
  else if b = 0xF4 then ([], some ⟨3, 4, 0x80, 0x8F⟩)
  else if 0xF1 ≤ b ∧ b ≤ 0xF3 then ([], some ⟨3, b - 0xF0, 0x80, 0xBF⟩)
  else ([none], none)

/-- The characters and faults (`none`) of an octet sequence. -/
def read : Option Pending → List Nat → List (Option Char)
  | none, [] => []
  | some _, [] => [none]
  | none, b :: rest => (begin b).1 ++ read (begin b).2 rest
  | some p, b :: rest =>
    if p.low ≤ b ∧ b ≤ p.high then
      let value := p.value * 64 + (b - 0x80)
      if p.missing ≤ 1 then some (Char.ofNat value) :: read none rest
      else read (some ⟨p.missing - 1, value, 0x80, 0xBF⟩) rest
    else none :: (begin b).1 ++ read (begin b).2 rest

/-- The text with U+FFFD for every fault. -/
def decodeLossy (octets : List Nat) : List Char :=
  (read none octets).map fun c => c.getD '\ufffd'

/-! ## Lemmas -/

theorem encode_cons (c : Char) (text : List Char) :
    encode (c :: text) = encodeChar c ++ encode text := rfl

theorem read_encodeChar (c : Char) (rest : List Nat) :
    read none (encodeChar c ++ rest) = some c :: read none rest := by
  have hv : c.toNat < 0xD800 ∨ (0xDFFF < c.toNat ∧ c.toNat < 0x110000) := c.valid
  have hc : Char.ofNat c.toNat = c := Char.ofNat_toNat c
  unfold encodeChar
  simp only []
  generalize c.toNat = n at *
  split
  · rename_i h
    simp [read, begin, h, hc]
  · split
    · have h1 : 0xC2 ≤ 0xC0 + n / 64 ∧ 0xC0 + n / 64 ≤ 0xDF := by omega
      have h2 : ¬ 0xC0 + n / 64 < 0x80 := by omega
      have h3 : 0x80 ≤ 0x80 + n % 64 ∧ 0x80 + n % 64 ≤ 0xBF := by omega
      have h4 : n / 64 * 64 + n % 64 = n := by omega
      simp only [List.cons_append, List.nil_append, read, begin, if_neg h2, if_pos h1, if_pos h3,
        Nat.add_sub_cancel_left, h4, hc]
      simp
    · split
      · have h4 : (n / 4096 * 64 + n / 64 % 64) * 64 + n % 64 = n := by omega
        have h3 : 0x80 ≤ 0x80 + n % 64 ∧ 0x80 + n % 64 ≤ 0xBF := by omega
        have ha : ¬ 0xE0 + n / 4096 < 0x80 := by omega
        have hb : ¬ (0xC2 ≤ 0xE0 + n / 4096 ∧ 0xE0 + n / 4096 ≤ 0xDF) := by omega
        by_cases h0 : n / 4096 = 0
        · have h2 : 0xA0 ≤ 0x80 + n / 64 % 64 ∧ 0x80 + n / 64 % 64 ≤ 0xBF := by omega
          have h5 : n / 64 % 64 * 64 + n % 64 = n := by omega
          simp [read, begin, h0, h2, h3, h5, hc]
        · by_cases hd : n / 4096 = 0xD
          · have h2 : 0x80 ≤ 0x80 + n / 64 % 64 ∧ 0x80 + n / 64 % 64 ≤ 0x9F := by omega
            have h5 : (13 * 64 + n / 64 % 64) * 64 + n % 64 = n := by omega
            simp [read, begin, hd, h2, h3, h5, hc]
          · have h2 : 0x80 ≤ 0x80 + n / 64 % 64 ∧ 0x80 + n / 64 % 64 ≤ 0xBF := by omega
            have h6 : 0xE1 ≤ 0xE0 + n / 4096 ∧ 0xE0 + n / 4096 ≤ 0xEF := by omega
            have h7 : ¬ 0xE0 + n / 4096 = 0xE0 := by omega
            have h8 : ¬ 0xE0 + n / 4096 = 0xED := by omega
            simp only [List.cons_append, List.nil_append, read, begin, if_neg ha, if_neg hb,
              if_neg h7, if_neg h8, if_pos h6, if_pos h2, if_pos h3, Nat.add_sub_cancel_left, h4,
              hc]
            simp
      · have h4 : ((n / 262144 * 64 + n / 4096 % 64) * 64 + n / 64 % 64) * 64 + n % 64 = n := by
          omega
        have h3 : 0x80 ≤ 0x80 + n % 64 ∧ 0x80 + n % 64 ≤ 0xBF := by omega
        have h3' : 0x80 ≤ 0x80 + n / 64 % 64 ∧ 0x80 + n / 64 % 64 ≤ 0xBF := by omega
        by_cases h0 : n / 262144 = 0
        · have h2 : 0x90 ≤ 0x80 + n / 4096 % 64 ∧ 0x80 + n / 4096 % 64 ≤ 0xBF := by omega
          have h5 : (n / 4096 % 64 * 64 + n / 64 % 64) * 64 + n % 64 = n := by omega
          simp [read, begin, h0, h2, h3, h3', h5, hc]
        · by_cases hd : n / 262144 = 4
          · have h2 : 0x80 ≤ 0x80 + n / 4096 % 64 ∧ 0x80 + n / 4096 % 64 ≤ 0x8F := by omega
            have h5 : ((4 * 64 + n / 4096 % 64) * 64 + n / 64 % 64) * 64 + n % 64 = n := by omega
            simp [read, begin, hd, h2, h3, h3', h5, hc]
          · have h2 : 0x80 ≤ 0x80 + n / 4096 % 64 ∧ 0x80 + n / 4096 % 64 ≤ 0xBF := by omega
            have h6 : 0xF1 ≤ 0xF0 + n / 262144 ∧ 0xF0 + n / 262144 ≤ 0xF3 := by omega
            have ha : ¬ 0xF0 + n / 262144 < 0x80 := by omega
            have hb : ¬ (0xC2 ≤ 0xF0 + n / 262144 ∧ 0xF0 + n / 262144 ≤ 0xDF) := by omega
            have h7 : ¬ 0xF0 + n / 262144 = 0xE0 := by omega
            have h8 : ¬ 0xF0 + n / 262144 = 0xED := by omega
            have h9 : ¬ (0xE1 ≤ 0xF0 + n / 262144 ∧ 0xF0 + n / 262144 ≤ 0xEF) := by omega
            have h10 : ¬ 0xF0 + n / 262144 = 0xF0 := by omega
            have h11 : ¬ 0xF0 + n / 262144 = 0xF4 := by omega
            simp only [List.cons_append, List.nil_append, read, begin, if_neg ha, if_neg hb,
              if_neg h7, if_neg h8, if_neg h9, if_neg h10, if_neg h11, if_pos h6, if_pos h2,
              if_pos h3, if_pos h3', Nat.add_sub_cancel_left, h4, hc]
            simp

theorem read_encode_append (text : List Char) (rest : List Nat) :
    read none (encode text ++ rest) = text.map some ++ read none rest := by
  induction text with
  | nil => rfl
  | cons c text ih =>
    rw [encode_cons, List.append_assoc, read_encodeChar, ih]
    rfl

/-- Octets that begin a character give at least a fault. -/
theorem read_some_ne_nil (p : Pending) (octets : List Nat) : read (some p) octets ≠ [] := by
  induction octets generalizing p with
  | nil => simp [read]
  | cons b rest ih =>
    rw [read]
    split
    · dsimp only
      split
      · simp
      · exact ih _
    · simp

theorem read_ne_nil {octets : List Nat} (h : octets ≠ []) : read none octets ≠ [] := by
  obtain ⟨b, rest, rfl⟩ := List.exists_cons_of_ne_nil h
  have hbegin : (begin b).1 ≠ [] ∨ ∃ p, (begin b).2 = some p := by
    unfold begin
    repeat' split
    all_goals simp
  rw [read]
  rcases hbegin with hdone | ⟨p, hpending⟩
  · exact List.append_ne_nil_of_left_ne_nil hdone _
  · rw [hpending]
    exact List.append_ne_nil_of_right_ne_nil _ (read_some_ne_nil p rest)

theorem decodeLossy_ne_nil {octets : List Nat} (h : octets ≠ []) : decodeLossy octets ≠ [] := by
  rw [decodeLossy, ne_eq, List.map_eq_nil_iff]
  exact read_ne_nil h

theorem encodeChar_ne_nil (c : Char) : encodeChar c ≠ [] := by
  unfold encodeChar
  dsimp only
  repeat' split
  all_goals simp

theorem decodeLossy_encode (text : List Char) : decodeLossy (encode text) = text := by
  have := read_encode_append text []
  rw [List.append_nil] at this
  rw [decodeLossy, this, read, List.append_nil, List.map_map]
  exact List.map_id text

/-- No octet below 0x80 continues a character. -/
theorem low_of_begin {b : Nat} {p : Pending} (h : (begin b).2 = some p) : 0x80 ≤ p.low := by
  unfold begin at h
  repeat' split at h
  all_goals cases h
  all_goals simp

theorem read_append_cons {b : Nat} (hb : b < 0x80) (before after : List Nat) (p : Option Pending)
    (hp : ∀ q, p = some q → 0x80 ≤ q.low) :
    read p (before ++ b :: after) = read p before ++ some (Char.ofNat b) :: read none after := by
  have hbegin : begin b = ([some (Char.ofNat b)], none) := if_pos hb
  induction before generalizing p with
  | nil =>
    cases p with
    | none => simp [read, hbegin]
    | some q =>
      have hlow := hp q rfl
      have hfault : ¬ (q.low ≤ b ∧ b ≤ q.high) := by omega
      simp [read, hbegin, hfault]
  | cons d rest ih =>
    have hnext := ih (begin d).2 fun q hq => low_of_begin hq
    cases p with
    | none => rw [List.cons_append, read, read, hnext, List.append_assoc]
    | some q =>
      rw [List.cons_append, read, read]
      split
      · dsimp only
        split
        · rw [ih none (by simp), List.cons_append]
        · exact ih _ (by rintro _ ⟨⟩; exact Nat.le_refl _)
      · rw [hnext, List.cons_append, List.cons_append, ← List.append_assoc, List.cons_append]

/-- An octet below 0x80 is a character of its own. -/
theorem decodeLossy_append_cons {b : Nat} (hb : b < 0x80) (before after : List Nat) :
    decodeLossy (before ++ b :: after) =
      decodeLossy before ++ Char.ofNat b :: decodeLossy after := by
  rw [decodeLossy, read_append_cons hb before after none (by simp), List.map_append, List.map_cons]
  rfl

end ServedMedia.Utf8
