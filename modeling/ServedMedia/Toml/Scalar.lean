import ServedMedia.Decimal.Binary64
import ServedMedia.Text.Hex
import ServedMedia.Text.Segments
import ServedMedia.Toml.Basic

/-!
# Scalars of TOML without quotes

Booleans, integers of 64 bits, floats, dates and times are told apart by their
whole text.  Underscores may stand between digits.
-/

namespace ServedMedia.Toml

/-! ## Digits -/

/-- The pieces between underscores. -/
def cutUnderscores (text : List Char) : List (List Char) :=
  text.foldr (fun c pieces =>
    match pieces with
    | piece :: rest => if c = '_' then [] :: piece :: rest else (c :: piece) :: rest
    | [] => [[c]]) [[]]

/-- The digits of a text in which single underscores may separate them. -/
def digits? (base : Nat) (text : List Char) : Option (List Nat) := do
  let pieces := cutUnderscores text
  if pieces.any List.isEmpty then none
  else pieces.flatten.mapM fun c => do
    let d ← hexValue? c
    if d < base then some d else none

def value (base : Nat) (digits : List Nat) : Nat := digits.foldl (fun v d => v * base + d) 0

/-- Decimal digits with no zero in front of others. -/
def plainDigits? (text : List Char) : Option (List Nat) := do
  let digits ← digits? 10 text
  if digits.length > 1 ∧ digits.head? = some 0 then none else some digits

/-- Whether a number is negative, and its text without the sign. -/
def cutSign : List Char → Bool × List Char
  | '-' :: rest => (true, rest)
  | '+' :: rest => (false, rest)
  | text => (false, text)

/-! ## Numbers -/

def inRange (n : Int) : Option Int :=
  if -0x8000000000000000 ≤ n ∧ n < 0x8000000000000000 then some n else none

def integer? (text : List Char) : Option Int :=
  match text with
  | '0' :: 'x' :: rest => (digits? 16 rest).bind fun ds => inRange (value 16 ds)
  | '0' :: 'o' :: rest => (digits? 8 rest).bind fun ds => inRange (value 8 ds)
  | '0' :: 'b' :: rest => (digits? 2 rest).bind fun ds => inRange (value 2 ds)
  | text => do
    let (negative, unsigned) := cutSign text
    let size := value 10 (← plainDigits? unsigned)
    inRange (if negative then -(size : Int) else size)

/-- Whether `digits * 10 ^ exponent` is too large for a float. -/
def overflows (digits : List Nat) (exponent : Int) : Bool :=
  let significant := digits.dropWhile (· == 0)
  let places : Int := significant.length + exponent
  if significant.isEmpty || places < 300 then false
  else if places > 310 then true
  else (Binary64.ofRatio? false (value 10 significant * Nat.pow 10 exponent.toNat)
    (Nat.pow 10 (-exponent).toNat)).isNone

def isFloat (text : List Char) : Bool :=
  let (negative, unsigned) := cutSign text
  if unsigned = "inf".toList ∨ unsigned = "nan".toList then true
  else
    let mantissa := unsigned.takeWhile fun c => c != 'e' && c != 'E'
    let power := unsigned.dropWhile fun c => c != 'e' && c != 'E'
    let whole := mantissa.takeWhile (· != '.')
    let fraction := mantissa.dropWhile (· != '.')
    let fractionDigits? := match fraction with
      | [] => some []
      | _ :: rest => digits? 10 rest
    let exponent? := match power with
      | [] => some 0
      | _ :: rest =>
        let (negative, unsigned) := cutSign rest
        (digits? 10 unsigned).map fun ds =>
          if negative then -(value 10 ds : Int) else (value 10 ds : Int)
    match plainDigits? whole, fractionDigits?, exponent? with
    | some whole, some fraction', some exponent =>
      (!fraction.isEmpty || !power.isEmpty) &&
        (negative || !overflows (whole ++ fraction') (exponent - fraction'.length))
    | _, _, _ => false

/-! ## Dates and times -/

/-- The number of `count` digits in front and what follows them. -/
def fixed? (count : Nat) (text : List Char) : Option (Nat × List Char) :=
  let front := text.take count
  if front.length = count ∧ front.all Char.isDigit then
    some (value 10 (front.map fun c => c.toNat - '0'.toNat), text.drop count)
  else none

def mark? (c : Char) : List Char → Option (List Char)
  | d :: rest => if c = d then some rest else none
  | [] => none

def daysIn (year month : Nat) : Nat :=
  if month = 2 then if year % 4 = 0 ∧ (year % 100 ≠ 0 ∨ year % 400 = 0) then 29 else 28
  else if month ∈ [4, 6, 9, 11] then 30
  else 31

/-- What follows a date. -/
def afterDate? (text : List Char) : Option (List Char) := do
  let (year, rest) ← fixed? 4 text
  let (month, rest) ← fixed? 2 (← mark? '-' rest)
  let (day, rest) ← fixed? 2 (← mark? '-' rest)
  if 1 ≤ month ∧ month ≤ 12 ∧ 1 ≤ day ∧ day ≤ daysIn year month then some rest else none

/-- What follows hours and minutes. -/
def afterClock? (text : List Char) : Option (List Char) := do
  let (hour, rest) ← fixed? 2 text
  let (minute, rest) ← fixed? 2 (← mark? ':' rest)
  if hour ≤ 23 ∧ minute ≤ 59 then some rest else none

/-- What follows a time, a fraction of a second included. -/
def afterTime? (text : List Char) : Option (List Char) := do
  let (second, rest) ← fixed? 2 (← mark? ':' (← afterClock? text))
  if second > 60 then none
  else match rest with
    | '.' :: fraction =>
      if (fraction.takeWhile Char.isDigit).isEmpty then none
      else some (fraction.dropWhile Char.isDigit)
    | rest => some rest

/-- Whether a text is an offset from universal time, or nothing. -/
def isOffset : List Char → Bool
  | [] => true
  | [c] => c == 'Z' || c == 'z'
  | c :: rest => (c == '+' || c == '-') && afterClock? rest == some []

/-- Whether a text is a date, a time, or both with a "T" or a space between. -/
def isMoment (text : List Char) : Bool :=
  match afterDate? text with
  | some [] => true
  | some (mark :: time) =>
    (mark == 'T' || mark == 't' || mark == ' ') && (afterTime? time).any isOffset
  | none => afterTime? text == some []

/-- The node of a text without quotes. -/
def scalar? (text : List Char) : Option Node :=
  if text = "true".toList then some (.boolean true)
  else if text = "false".toList then some (.boolean false)
  else if isMoment text then some (.moment (String.ofList text))
  else match integer? text with
    | some n => some (.integer n)
    | none => if isFloat text then some (.float (String.ofList text)) else none

end ServedMedia.Toml
