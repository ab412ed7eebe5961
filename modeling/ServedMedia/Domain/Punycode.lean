/-!
# Punycode

A label beyond ASCII is written in ASCII: first its ASCII characters, then a
hyphen if there are any, then the others.  Those are taken by code point and
position, and each is given by its distance from the one before.  Distances are
numbers to base 36 of varying length: a digit below the threshold of its place
ends the number, and the thresholds follow the distances seen so far.

    d < 36 → digitValue? (digit d) = some d                      (digitValue?_digit)
    1 ≤ threshold k bias ≤ 26                                    (threshold_bounds)
    encode? label = some code → code is ASCII                    (encode?_ascii)
    readNumber? … text = some (value, rest) → rest is shorter    (readNumber?_length)
-/

namespace ServedMedia.Domain.Punycode

/-! ## Digits -/

/-- The digit of a value: a letter below 26, then a decimal digit. -/
def digit (d : Nat) : Char := Char.ofNat (if d < 26 then 0x61 + d else 0x30 + (d - 26))

/-- The value of a digit. -/
def digitValue? (c : Char) : Option Nat :=
  if c.isLower then some (c.toNat - 0x61)
  else if c.isUpper then some (c.toNat - 0x41)
  else if c.isDigit then some (c.toNat - 0x30 + 26)
  else none

/-- The least value of a digit that does not end a number, at the place `k`. -/
def threshold (k bias : Nat) : Nat :=
  if k ≤ bias then 1 else if bias + 26 ≤ k then 26 else k - bias

theorem digitValue?_digit {d : Nat} (h : d < 36) : digitValue? (digit d) = some d := by
  have hall : ∀ e ∈ List.range 36, digitValue? (digit e) = some e := by decide
  exact hall d (List.mem_range.mpr h)

theorem threshold_bounds (k bias : Nat) : 1 ≤ threshold k bias ∧ threshold k bias ≤ 26 := by
  unfold threshold
  split
  · omega
  · split <;> omega

/-- Divides a distance until it is small, and counts the places. -/
def reduce (delta k : Nat) : Nat × Nat :=
  if 455 < delta then reduce (delta / 35) (k + 36) else (delta, k)
termination_by delta
decreasing_by exact Nat.div_lt_self (by omega) (by omega)

/-- The bias after a distance, with `count` characters written. -/
def adapt (first : Bool) (delta count : Nat) : Nat :=
  let delta := if first then delta / 700 else delta / 2
  let reduced := reduce (delta + delta / count) 0
  reduced.2 + 36 * reduced.1 / (reduced.1 + 38)

/-! ## Writing -/

/-- A number, from the place `k`. -/
def writeNumber (bias k value : Nat) : List Char :=
  let t := threshold k bias
  if value < t then [digit value]
  else digit (t + (value - t) % (36 - t)) ::
    writeNumber bias (k + 36) ((value - t) / (36 - t))
termination_by value
decreasing_by
  have := threshold_bounds k bias
  exact Nat.lt_of_le_of_lt (Nat.div_le_self _ _) (by omega)

structure Writing where
  delta : Nat
  bias : Nat
  written : Nat
  output : List Char

/-- Writes every occurrence of one code point. -/
def writePoint (label : List Char) (basic point : Nat) (start : Writing) : Writing :=
  label.foldl (fun w c =>
    if c.toNat < point then { w with delta := w.delta + 1 }
    else if c.toNat = point then
      ⟨0, adapt (w.written == basic) w.delta (w.written + 1), w.written + 1,
        w.output ++ writeNumber w.bias 36 w.delta⟩
    else w) start

/-- Writes the code points of an ascending list; all below `next` are written. -/
def writePoints (label : List Char) (basic : Nat) : List Nat → (next : Nat) → Writing → Writing
  | [], _, w => w
  | point :: points, next, w =>
    let w := { w with delta := w.delta + (point - next) * (w.written + 1) }
    let w := writePoint label basic point w
    writePoints label basic points (point + 1) { w with delta := w.delta + 1 }

/-- The Punycode of a label of at most 1000 characters. -/
def encode? (label : List Char) : Option (List Char) :=
  let basic := label.filter fun c => c.toNat < 0x80
  let points := ((label.map Char.toNat).filter (0x80 ≤ ·)).mergeSort.eraseDups
  let start := basic ++ if basic.isEmpty then [] else ['-']
  if 1000 < label.length then none
  else some (writePoints label basic.length points 0x80 ⟨0, 72, basic.length, start⟩).output

theorem digit_ascii {d : Nat} (h : d < 36) : (digit d).toNat < 0x80 := by
  have hall : ∀ e ∈ List.range 36, (digit e).toNat < 0x80 := by decide
  exact hall d (List.mem_range.mpr h)

theorem writeNumber_ascii (bias k value : Nat) :
    ∀ c ∈ writeNumber bias k value, c.toNat < 0x80 := by
  fun_induction writeNumber bias k value with
  | case1 k value t h =>
    have ht : t ≤ 26 := (threshold_bounds k bias).2
    simpa using digit_ascii (by omega)
  | case2 k value t h ih =>
    have ht : 1 ≤ t ∧ t ≤ 26 := threshold_bounds k bias
    have hlt : (value - t) % (36 - t) < 36 - t := Nat.mod_lt _ (by omega)
    intro c hc
    rcases List.mem_cons.1 hc with rfl | hc
    · exact digit_ascii (by omega)
    · exact ih c hc

theorem writePoint_ascii (label : List Char) (basic point : Nat) {w : Writing}
    (h : ∀ c ∈ w.output, c.toNat < 0x80) :
    ∀ c ∈ (writePoint label basic point w).output, c.toNat < 0x80 := by
  rw [writePoint]
  induction label generalizing w with
  | nil => exact h
  | cons d rest ih =>
    rw [List.foldl_cons]
    apply ih
    split
    · exact h
    · split
      · intro c hc
        rcases List.mem_append.1 hc with hc | hc
        · exact h c hc
        · exact writeNumber_ascii _ _ _ c hc
      · exact h

theorem writePoints_ascii (label : List Char) (basic : Nat) (points : List Nat) (next : Nat)
    {w : Writing} (h : ∀ c ∈ w.output, c.toNat < 0x80) :
    ∀ c ∈ (writePoints label basic points next w).output, c.toNat < 0x80 := by
  induction points generalizing next w with
  | nil => exact h
  | cons point points ih => exact ih _ (writePoint_ascii label basic point h)

theorem encode?_ascii {label code : List Char} (h : encode? label = some code) :
    ∀ c ∈ code, c.toNat < 0x80 := by
  rw [encode?] at h
  split at h
  · simp at h
  · rw [← Option.some.inj h]
    apply writePoints_ascii
    intro c hc
    rcases List.mem_append.1 hc with hc | hc
    · simpa using (List.mem_filter.1 hc).2
    · split at hc
      · simp at hc
      · simp_all

/-! ## Reading -/

/-- Numbers and weights have 32 bits. -/
def limit : Nat := 0x100000000

/-- Reads a number from the place `k` with its weight, and adds it to a value. -/
def readNumber? (bias : Nat) : (k weight value : Nat) → List Char → Option (Nat × List Char)
  | _, _, _, [] => none
  | k, weight, value, c :: rest =>
    match digitValue? c with
    | none => none
    | some d =>
      let t := threshold k bias
      if limit ≤ value + d * weight then none
      else if d < t then some (value + d * weight, rest)
      else if limit ≤ weight * (36 - t) then none
      else readNumber? bias (k + 36) (weight * (36 - t)) (value + d * weight) rest

theorem readNumber?_length {bias : Nat} {text : List Char} {k weight value : Nat}
    {result : Nat × List Char} (h : readNumber? bias k weight value text = some result) :
    result.2.length < text.length := by
  induction text generalizing k weight value with
  | nil => simp [readNumber?] at h
  | cons c rest ih =>
    rw [readNumber?] at h
    split at h
    · simp at h
    · simp only at h
      split at h
      · simp at h
      · split at h
        · rw [← Option.some.inj h]
          simp
        · split at h
          · simp at h
          · have := ih h
            simp
            omega

/-- A label while it is read: the next character comes at `index`. -/
structure Reading where
  bias : Nat
  point : Nat
  index : Nat
  label : List Char

/-- Puts the character in its place to which a number leads. -/
def Reading.place? (reading : Reading) (value : Nat) : Option Reading :=
  let count := reading.label.length + 1
  let point := reading.point + value / count
  let index := value % count
  if point.isValidChar then
    some ⟨adapt (reading.index == 0) (value - reading.index) count, point, index + 1,
      reading.label.insertIdx index (Char.ofNat point)⟩
  else none

/-- Reads the numbers of a text up to its end. -/
def readPoints? (reading : Reading) (text : List Char) : Option (List Char) :=
  if text.isEmpty then some reading.label
  else
    match _h : readNumber? reading.bias 36 1 reading.index text with
    | none => none
    | some (value, rest) =>
      match reading.place? value with
      | none => none
      | some reading => readPoints? reading rest
termination_by text.length
decreasing_by exact readNumber?_length ‹_›

/-- What stands before and after the last hyphen; one at the start does not count. -/
def cutLastHyphen (text : List Char) : List Char × List Char :=
  let digits := (text.reverse.takeWhile (· != '-')).reverse
  if text.length ≤ digits.length + 1 then ([], text)
  else (text.take (text.length - digits.length - 1), digits)

/-- The label that a Punycode of at most 2000 characters encodes, which is not ASCII alone. -/
def decode? (text : List Char) : Option (List Char) :=
  let (basic, digits) := cutLastHyphen text
  if digits.isEmpty || 2000 < text.length then none
  else readPoints? ⟨72, 0x80, 0, basic⟩ digits

end ServedMedia.Domain.Punycode
