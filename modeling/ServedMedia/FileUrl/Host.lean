import ServedMedia.Domain.Ascii
import ServedMedia.Text.Hex
import ServedMedia.Text.Percent

/-!
# Hosts of file URLs

A host is an IPv6 address in brackets, a domain whose last label is a number and
which therefore must be an IPv4 address, or a plain domain.  Domains are
percent-decoded and written in ASCII.
-/

namespace ServedMedia.FileUrl.Host

/-! ## Numbers -/

/-- The value of the digits in a base, if all of them are digits. -/
def digits? (base : Nat) (text : List Char) : Option Nat :=
  text.foldlM (fun value c => do
    let d ← hexValue? c
    if d < base then pure (value * base + d) else none) 0

/-- A part of an IPv4 address: decimal, octal after "0", hexadecimal after "0x". -/
def ipv4Part? : List Char → Option Nat
  | [] => none
  | ['0'] => some 0
  | '0' :: mark :: rest =>
    if mark = 'x' ∨ mark = 'X' then digits? 16 rest else digits? 8 (mark :: rest)
  | text => digits? 10 text

def decimal (n : Nat) : List Char := Nat.toDigits 10 n

/-! ## IPv4 -/

/-- The labels of a domain without the empty one that a final dot leaves. -/
def labels (domain : List Char) : List (List Char) :=
  let all := cutAt '.' domain
  if all.length > 1 ∧ all.getLast? = some [] then all.dropLast else all

/-- Whether the last label is a number. -/
def endsInNumber (domain : List Char) : Bool :=
  match (labels domain).getLast? with
  | none => false
  | some last => (!last.isEmpty && last.all Char.isDigit) || (ipv4Part? last).isSome

/-- The address that the parts make: each is one octet, the last one all that remain. -/
def ipv4Value? (parts : List Nat) : Option Nat :=
  match parts.reverse with
  | [] => none
  | last :: leading =>
    if parts.length > 4 ∨ leading.any (· > 255) ∨ last ≥ Nat.pow 256 (4 - leading.length) then none
    else some (leading.reverse.foldl (fun value part => value * 256 + part) 0
      * Nat.pow 256 (4 - leading.length) + last)

def renderIpv4 (value : Nat) : List Char :=
  decimal (value / 16777216) ++ '.' :: decimal (value / 65536 % 256) ++
    '.' :: decimal (value / 256 % 256) ++ '.' :: decimal (value % 256)

def ipv4? (domain : List Char) : Option (List Char) := do
  let parts ← (labels domain).mapM ipv4Part?
  pure (renderIpv4 (← ipv4Value? parts))

/-! ## IPv6 -/

/-- Four decimal octets as two pieces. -/
def dotted? (text : List Char) : Option (List Nat) := do
  let parts ← (cutAt '.' text).mapM fun part =>
    if part.isEmpty ∨ part.length > 3 ∨ (part.length > 1 ∧ part.head? = some '0') then none
    else digits? 10 part
  match parts with
  | [a, b, c, d] =>
    if a < 256 ∧ b < 256 ∧ c < 256 ∧ d < 256 then some [a * 256 + b, c * 256 + d] else none
  | _ => none

def piece? (text : List Char) : Option Nat :=
  if text.isEmpty ∨ text.length > 4 then none else digits? 16 text

/-- Pieces between colons; the last one may be dotted if `mayDot`. -/
def pieces? (mayDot : Bool) (text : List Char) : Option (List Nat) :=
  if text.isEmpty then some []
  else do
    let parts := cutAt ':' text
    let last := parts.getLast?.getD []
    let leading ← parts.dropLast.mapM piece?
    if mayDot ∧ last.contains '.' then pure (leading ++ (← dotted? last))
    else pure (leading ++ [← piece? last])

/-- What stands before and after the first "::". -/
def cutGap? : List Char → Option (List Char × List Char)
  | [] => none
  | ':' :: ':' :: rest => some ([], rest)
  | c :: rest => (cutGap? rest).map fun r => (c :: r.1, r.2)

/-- The eight pieces of an address. -/
def ipv6Value? (text : List Char) : Option (List Nat) :=
  match cutGap? text with
  | none => do
    let pieces ← pieces? true text
    if pieces.length = 8 then some pieces else none
  | some (before, after) => do
    let front ← pieces? false before
    let back ← pieces? true after
    if front.length + back.length ≤ 7 then
      some (front ++ List.replicate (8 - front.length - back.length) 0 ++ back)
    else none

/-- How many zeros a list begins with. -/
def zeroRun (pieces : List Nat) : Nat := (pieces.takeWhile (· == 0)).length

/-- The longest run of zeros, the first of equals: where it starts and how long it is. -/
def longestRun (pieces : List Nat) : Nat × Nat :=
  (List.range pieces.length).foldl (fun best start =>
    let run := zeroRun (pieces.drop start)
    if run > best.2 then (start, run) else best) (0, 0)

def hexPieces (pieces : List Nat) : List Char :=
  [':'].intercalate (pieces.map (Nat.toDigits 16))

def renderIpv6 (pieces : List Nat) : List Char :=
  let run := longestRun pieces
  if run.2 < 2 then '[' :: hexPieces pieces ++ [']']
  else '[' :: hexPieces (pieces.take run.1) ++ [':', ':'] ++
    hexPieces (pieces.drop (run.1 + run.2)) ++ [']']

/-! ## Hosts -/

/-- The host that a text denotes, as it is written in a URL. -/
def parse? (text : List Char) : Option (List Char) :=
  match text with
  | '[' :: rest =>
    if rest.getLast? = some ']' then (ipv6Value? rest.dropLast).map renderIpv6 else none
  | text => do
    let domain ← Domain.toAscii? (Percent.decode text)
    if endsInNumber domain then ipv4? domain else pure domain

end ServedMedia.FileUrl.Host
