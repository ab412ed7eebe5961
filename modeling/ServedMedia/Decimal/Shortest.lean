import ServedMedia.Decimal.Binary64

/-!
# The fewest decimal digits that read back

A positive float owns the interval of reals that round to it, ends included if
its mantissa is even.  For decimal grids from coarse to fine, the two points of
the grid around the value are tested against that interval; the first grid
with a point inside gives the digits, the nearer point if both are inside.
-/

namespace ServedMedia

/-- The value `digits * 10 ^ exponent`. -/
structure Decimal where
  digits : Nat
  exponent : Int
  deriving DecidableEq, Repr, Inhabited

namespace Binary64

/-! ## Algorithm -/

/-- The point of the grid of multiples of `10 ^ p` that stands for the value, if
one of the two around it reads back.  The value is taken in quarters of its
unit, so that the ends of its interval are whole. -/
def gridPoint? (mantissa : Nat) (exponent : Int) (p : Int) : Option Nat :=
  let scale := Nat.pow 2 (exponent - 2).toNat * Nat.pow 10 (-p).toNat
  let unit := Nat.pow 2 (2 - exponent).toNat * Nat.pow 10 p.toNat
  let value := 4 * mantissa * scale
  let closer := mantissa = 0x10000000000000 ∧ exponent > -1074
  let low := (4 * mantissa - if closer then 1 else 2) * scale
  let high := (4 * mantissa + 2) * scale
  let inside (d : Nat) : Bool :=
    if mantissa % 2 = 0 then low ≤ d * unit && d * unit ≤ high
    else low < d * unit && d * unit < high
  let below := value / unit
  let above := below + 1
  match inside below, inside above with
  | true, true => some (roundHalfEven value unit)
  | true, false => some below
  | false, true => some above
  | false, false => none

/-- Tries the grids of `10 ^ p`, `10 ^ (p - 1)`, and so on. -/
def searchGrid (mantissa : Nat) (exponent : Int) : Nat → Int → Decimal
  | 0, p => ⟨0, p⟩
  | tries + 1, p =>
    match gridPoint? mantissa exponent p with
    | some digits => ⟨digits, p⟩
    | none => searchGrid mantissa exponent tries (p - 1)

/-- The shortest decimal that rounds to the float, the nearest of that length. -/
def shortest (value : Binary64) : Decimal :=
  if value.mantissa = 0 then ⟨0, 0⟩
  else
    let bits : Int := value.mantissa.log2 + value.exponent + 1
    searchGrid value.mantissa value.exponent 24 (bits * 30103 / 100000 + 1)

end Binary64

end ServedMedia
