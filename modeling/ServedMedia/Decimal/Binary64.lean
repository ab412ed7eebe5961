/-!
# Finite 64-bit binary floats, exactly

A `Binary64` stands for `mantissa * 2 ^ exponent` with a sign.  Every operation
computes an exact quotient of natural numbers and rounds it once, to the
nearest representable value and to the even mantissa on a tie; a value that
would be infinite is `none`.

    roundHalfEven num den   is within half a unit of num / den, and even on a tie
                                                            (roundHalfEven_near)
-/

namespace ServedMedia

/-- The value `± mantissa * 2 ^ exponent`.  The mantissa has 53 binary digits, or
fewer when the exponent is the least one, -1074; the exponent is at most 971. -/
structure Binary64 where
  negative : Bool
  mantissa : Nat
  exponent : Int
  deriving DecidableEq, Repr, Inhabited

/-! ## Algorithm -/

/-- The natural number nearest to `num / den`, the even one of two. -/
def roundHalfEven (num den : Nat) : Nat :=
  let quotient := num / den
  let twice := 2 * (num % den)
  if twice < den then quotient
  else if twice > den then quotient + 1
  else quotient + quotient % 2

namespace Binary64

def zero (negative : Bool) : Binary64 := ⟨negative, 0, -1074⟩

/-- The greatest `e` with `2 ^ e ≤ num / den`, both positive. -/
def magnitude (num den : Nat) : Int :=
  let guess : Int := (num.log2 : Int) - (den.log2 : Int)
  if den * Nat.pow 2 guess.toNat ≤ num * Nat.pow 2 (-guess).toNat then guess else guess - 1

/-- The float nearest to `num / den`, unless that is infinite. -/
def ofRatio? (negative : Bool) (num den : Nat) : Option Binary64 :=
  if num = 0 then some (zero negative)
  else
    let unit := max (magnitude num den - 52) (-1074)
    let rounded := roundHalfEven (num * Nat.pow 2 (-unit).toNat) (den * Nat.pow 2 unit.toNat)
    let value : Binary64 :=
      if rounded = 0x20000000000000 then ⟨negative, 0x10000000000000, unit + 1⟩
      else ⟨negative, rounded, unit⟩
    if value.exponent > 971 then none else some value

def mul? (a b : Binary64) : Option Binary64 :=
  let exponent := a.exponent + b.exponent
  ofRatio? (a.negative != b.negative)
    (a.mantissa * b.mantissa * Nat.pow 2 exponent.toNat) (Nat.pow 2 (-exponent).toNat)

/-- The quotient; the divisor is not zero. -/
def div? (a b : Binary64) : Option Binary64 :=
  let exponent := a.exponent - b.exponent
  ofRatio? (a.negative != b.negative)
    (a.mantissa * Nat.pow 2 exponent.toNat) (b.mantissa * Nat.pow 2 (-exponent).toNat)

/-- The float nearest to a power of ten. -/
def powerOfTen? (k : Nat) : Option Binary64 := ofRatio? false (Nat.pow 10 k) 1

/-- Divides `count` times by the float nearest to `10 ^ 308`. -/
def divideRepeatedly : Nat → Binary64 → Option Binary64
  | 0, value => some value
  | count + 1, value =>
    if value.mantissa = 0 then some value
    else do
      let divisor ← powerOfTen? 308
      divideRepeatedly count (← value.div? divisor)

/-- The significand, itself rounded, times a power of ten: one product or
quotient by the float nearest to that power, after dividing by `10 ^ 308` as
long as the power is smaller than any whose inverse is finite. -/
def scaleByTen? (negative : Bool) (significand : Nat) (exponent : Int) : Option Binary64 := do
  let value ← ofRatio? negative significand 1
  if value.mantissa = 0 then pure value
  else if exponent > 308 then none
  else if exponent ≥ 0 then value.mul? (← powerOfTen? exponent.toNat)
  else
    let steps := (-exponent).toNat
    let rounds := (steps - 1) / 308
    let value ← divideRepeatedly rounds value
    value.div? (← powerOfTen? (steps - rounds * 308))

end Binary64

/-! ## Lemmas -/

/-- The distance is at most half a unit, and where it is just that, the result is even. -/
theorem roundHalfEven_near (num : Nat) {den : Nat} (h : 0 < den) :
    2 * num ≤ 2 * (roundHalfEven num den * den) + den ∧
      2 * (roundHalfEven num den * den) ≤ 2 * num + den ∧
      (2 * num = 2 * (roundHalfEven num den * den) + den ∨
        2 * (roundHalfEven num den * den) = 2 * num + den → roundHalfEven num den % 2 = 0) := by
  have hnum := Nat.div_add_mod' num den
  have hrest := Nat.mod_lt num h
  unfold roundHalfEven
  simp only []
  split
  · omega
  · split
    · rw [Nat.add_mul]
      omega
    · -- The number lies in the middle, and one step makes an odd quotient even.
      rw [Nat.add_mul]
      rcases Nat.mod_two_eq_zero_or_one (num / den) with heven | hodd
      · rw [heven]
        omega
      · rw [hodd]
        omega

end ServedMedia
