/-!
# Tables of characters

A table is a list of numbers, for long lists of numbers are quick to check.
Ranges give all their characters one value: from the lowest bits up, eight bits
hold the value, 24 the last character and 24 the first.  Entries give a text to
one character each: 24 bits hold the character, and 24 more each character of
its text, the first one lowest.
-/

namespace ServedMedia.Table

/-! ## Algorithm -/

/-- The value of the first range that a character is in; zero outside all ranges. -/
def valueIn (ranges : List Nat) (c : Char) : Nat :=
  match ranges.find? fun range =>
      range / 0x100000000 ≤ c.toNat && c.toNat ≤ range / 0x100 % 0x1000000 with
  | some range => range % 0x100
  | none => 0

/-- The characters packed into a number, 24 bits each, at most `count`. -/
def unpack : (count packed : Nat) → List Char
  | 0, _ => []
  | count + 1, packed =>
    if packed = 0 then []
    else Char.ofNat (packed % 0x1000000) :: unpack count (packed / 0x1000000)

/-- The text of a character, which has at most six characters. -/
def textOf? (entries : List Nat) (c : Char) : Option (List Char) :=
  (entries.find? fun entry => entry % 0x1000000 == c.toNat).map fun entry =>
    unpack 6 (entry / 0x1000000)

/-! ## Lemmas -/

theorem unpack_ne_nil {packed : Nat} (h : packed ≠ 0) (count : Nat) :
    unpack (count + 1) packed ≠ [] := by
  rw [unpack, if_neg h]
  simp

theorem length_unpack_le (count packed : Nat) : (unpack count packed).length ≤ count := by
  induction count generalizing packed with
  | zero => simp [unpack]
  | succ count ih =>
    rw [unpack]
    split
    · simp
    · simpa using ih _

end ServedMedia.Table
