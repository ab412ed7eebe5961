/-!
# Hexadecimal digits

    hexValue? (upperHex n) = some n   and   hexValue? (lowerHex n) = some n,   for n < 16
-/

namespace ServedMedia

/-! ## Algorithm -/

/-- The value of a hexadecimal digit of either case. -/
def hexValue? (c : Char) : Option Nat :=
  if c.isDigit then some (c.toNat - '0'.toNat)
  else if 'a' ≤ c ∧ c ≤ 'f' then some (c.toNat - 'a'.toNat + 10)
  else if 'A' ≤ c ∧ c ≤ 'F' then some (c.toNat - 'A'.toNat + 10)
  else none

def lowerHex (n : Nat) : Char := Char.ofNat (if n < 10 then 0x30 + n else 0x57 + n)

def upperHex (n : Nat) : Char := Char.ofNat (if n < 10 then 0x30 + n else 0x37 + n)

/-! ## Lemmas -/

theorem hexValue?_lowerHex : ∀ n, n < 16 → hexValue? (lowerHex n) = some n := by decide

theorem hexValue?_upperHex : ∀ n, n < 16 → hexValue? (upperHex n) = some n := by decide

end ServedMedia
