import ServedMedia.Json.Basic
import ServedMedia.Decimal.Shortest

/-!
# Number texts

Reading follows the grammar of RFC 8259.  A text of digits alone is a whole
number when it fits in 64 bits; "-0" and everything else is a float.  Its
significand holds the leading digits that fit in 64 bits, the digits after
those only count for the place of the point, and the result is the rounded
significand scaled once by a power of ten.

Writing uses the fewest digits that read back, positionally for decimal
exponents from -5 to 15.
-/

namespace ServedMedia.Json.Number

/-! ## Algorithm -/

def digitValue (c : Char) : Nat := c.toNat - '0'.toNat

/-- The digits at the start of a text and what follows them. -/
def spanDigits (text : List Char) : List Nat × List Char :=
  ((text.takeWhile Char.isDigit).map digitValue, text.dropWhile Char.isDigit)

/-- A decimal significand of at most 64 bits with a count of the digits that no
longer fitted. -/
structure Significand where
  value : Nat
  dropped : Nat
  deriving Repr

/-- Appends digits as long as the value stays below `2 ^ 64`; after the first
digit that does not fit all others are dropped. -/
def Significand.extend : Nat → List Nat → Significand
  | value, [] => ⟨value, 0⟩
  | value, d :: ds =>
    if value * 10 + d < 0x10000000000000000 then extend (value * 10 + d) ds
    else ⟨value, ds.length + 1⟩

def ofDigits (digits : List Nat) : Nat := digits.foldl (fun value d => value * 10 + d) 0

/-- The exponent of a number text: its sign and digits, or none at all. -/
def exponent? : List Char → Option (Bool × List Nat)
  | [] => some (false, [])
  | mark :: rest =>
    if mark = 'e' ∨ mark = 'E' then
      let signed := match rest with
        | '+' :: rest => (false, rest)
        | '-' :: rest => (true, rest)
        | rest => (false, rest)
      match spanDigits signed.2 with
      | ([], _) => none
      | (digits, []) => some (signed.1, digits)
      | (_, _ :: _) => none
    else none

/-- Exponents saturate at the ends of 32 bits. -/
def saturate (exponent : Int) : Int := max (-0x80000000) (min exponent 0x7FFFFFFF)

/-- The float with the given significand, power of ten and exponent. -/
def float? (negative : Bool) (significand : Nat) (shift : Int) (exponent : Bool × List Nat) :
    Option Number := do
  let size := ofDigits exponent.2
  if size ≥ 0x80000000 then
    if significand ≠ 0 ∧ !exponent.1 then none
    else pure (float (Binary64.zero negative))
  else
    let power := saturate (shift + if exponent.1 then -(size : Int) else (size : Int))
    pure (float (← Binary64.scaleByTen? negative significand power))

/-- A number without point or exponent. -/
def ofWhole? (negative : Bool) (digits : Significand) : Option Number :=
  if digits.dropped > 0 then
    float? negative digits.value digits.dropped (false, [])
  else if !negative then some (whole digits.value)
  else if 0 < digits.value ∧ digits.value ≤ 0x8000000000000000 then
    some (whole (-(digits.value : Int)))
  else (Binary64.ofRatio? true digits.value 1).map float

/-- The unsigned part of a number text. -/
def ofUnsigned? (negative : Bool) (text : List Char) : Option Number := do
  let (integral, rest) := spanDigits text
  if integral.isEmpty || (integral.head? == some 0 && integral.length > 1) then none
  else
    let whole := Significand.extend 0 integral
    match rest with
    | [] => ofWhole? negative whole
    | '.' :: rest => do
      let (fraction, rest) := spanDigits rest
      if fraction.isEmpty then none
      let significand := Significand.extend whole.value fraction
      let kept := fraction.length - significand.dropped
      float? negative significand.value (whole.dropped - kept) (← exponent? rest)
    | rest => do
      float? negative whole.value whole.dropped (← exponent? rest)

/-- The number that a text denotes. -/
def ofText? : List Char → Option Number
  | '-' :: text => ofUnsigned? true text
  | text => ofUnsigned? false text

/-- The digits of a decimal with the point or the exponent mark set. -/
def placePoint (digits : List Char) (exponent : Int) : List Char :=
  let leading : Int := digits.length - 1 + exponent
  if -5 ≤ leading ∧ leading ≤ 15 then
    if 0 ≤ exponent then digits ++ List.replicate exponent.toNat '0' ++ ['.', '0']
    else if 0 ≤ leading then
      digits.take (leading.toNat + 1) ++ '.' :: digits.drop (leading.toNat + 1)
    else '0' :: '.' :: (List.replicate (-leading - 1).toNat '0' ++ digits)
  else
    let sign := if leading < 0 then ['-'] else ['+']
    let fraction := if digits.length > 1 then '.' :: digits.drop 1 else []
    digits.take 1 ++ fraction ++ 'e' :: sign ++ Nat.toDigits 10 leading.natAbs

def render : Number → List Char
  | whole value => (if value < 0 then ['-'] else []) ++ Nat.toDigits 10 value.natAbs
  | float value =>
    let sign := if value.negative then ['-'] else []
    if value.mantissa = 0 then sign ++ ['0', '.', '0']
    else
      let decimal := value.shortest
      sign ++ placePoint (Nat.toDigits 10 decimal.digits) decimal.exponent

end ServedMedia.Json.Number
