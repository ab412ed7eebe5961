import ServedMedia.Text.Hex

/-!
# Quoted texts of TOML

Four forms: with escapes or literal, on one line or on several.  A text of
several lines begins after the line break behind its three quotes, ends at three
quotes with at most two more in front, and holds "\n" for every line break.
Each reader gets the text behind the opening quotes and returns the content and
what follows the closing quotes.
-/

namespace ServedMedia.Toml

/-! ## Characters -/

/-- Whether a character may stand in a comment or a quoted text at all. -/
def isPrintable (c : Char) : Bool := c == '\t' || (0x20 ≤ c.toNat && c.toNat != 0x7F)

def isSpace (c : Char) : Bool := c == ' ' || c == '\t'

/-- What follows a line break. -/
def afterNewline? : List Char → Option (List Char)
  | '\n' :: rest => some rest
  | '\r' :: '\n' :: rest => some rest
  | _ => none

/-- The character of a number of hexadecimal digits. -/
def codePoint? (count : Nat) (text : List Char) : Option (Char × List Char) := do
  let digits ← (text.take count).mapM hexValue?
  let n := digits.foldl (fun v d => v * 16 + d) 0
  if digits.length = count ∧ (n < 0xD800 ∨ (0xDFFF < n ∧ n < 0x110000)) then
    some (Char.ofNat n, text.drop count)
  else none

/-- The character that the text behind a backslash denotes. -/
def escape? : List Char → Option (Char × List Char)
  | '"' :: rest => some ('"', rest)
  | '\\' :: rest => some ('\\', rest)
  | 'b' :: rest => some ('\x08', rest)
  | 'f' :: rest => some ('\x0c', rest)
  | 'n' :: rest => some ('\n', rest)
  | 'r' :: rest => some ('\r', rest)
  | 't' :: rest => some ('\t', rest)
  | 'u' :: rest => codePoint? 4 rest
  | 'U' :: rest => codePoint? 8 rest
  | _ => none

/-! ## One line -/

/-- A text with escapes; `done` is held last character first. -/
def basic? : (fuel : Nat) → (done : List Char) → List Char → Option (List Char × List Char)
  | 0, _, _ => none
  | _, _, [] => none
  | fuel + 1, done, c :: rest =>
    if c = '"' then some (done.reverse, rest)
    else if c = '\\' then (escape? rest).bind fun (d, rest) => basic? fuel (d :: done) rest
    else if isPrintable c then basic? fuel (c :: done) rest
    else none

/-- A literal text. -/
def literal? (text : List Char) : Option (List Char × List Char) :=
  let content := text.takeWhile fun c => c != '\'' && isPrintable c
  match text.dropWhile fun c => c != '\'' && isPrintable c with
  | '\'' :: rest => some (content, rest)
  | _ => none

/-! ## Several lines -/

/-- The quotes in front of a text. -/
def quoteRun (quote : Char) (text : List Char) : Nat := (text.takeWhile (· == quote)).length

/-- What follows a backslash at the end of a line: all blanks and line breaks are skipped. -/
def afterLineEnd? (text : List Char) : Option (List Char) :=
  let rest := text.dropWhile isSpace
  if (afterNewline? rest).isSome then
    some (skipBlank rest.length rest)
  else none
where
  skipBlank : Nat → List Char → List Char
    | 0, text => text
    | fuel + 1, text =>
      let rest := text.dropWhile isSpace
      match afterNewline? rest with
      | some rest => skipBlank fuel rest
      | none => rest

/-- A text of several lines; with `escapes` a backslash begins an escape. -/
def multiline? (quote : Char) (escapes : Bool) :
    (fuel : Nat) → (done : List Char) → List Char → Option (List Char × List Char)
  | 0, _, _ => none
  | _, _, [] => none
  | fuel + 1, done, c :: rest =>
    if c = quote then
      let run := quoteRun quote rest + 1
      let quotes := List.replicate (if run < 3 then run else run - 3) quote
      if run < 3 then multiline? quote escapes fuel (quotes ++ done) (rest.drop (run - 1))
      else if run ≤ 5 then some (done.reverse ++ quotes, rest.drop (run - 1))
      else none
    else if c = '\\' ∧ escapes then
      match afterLineEnd? rest with
      | some rest => multiline? quote escapes fuel done rest
      | none => (escape? rest).bind fun (d, rest) => multiline? quote escapes fuel (d :: done) rest
    else match afterNewline? (c :: rest) with
      | some rest => multiline? quote escapes fuel ('\n' :: done) rest
      | none => if isPrintable c then multiline? quote escapes fuel (c :: done) rest else none

/-- A text on one line behind its opening quote. -/
def line? (quote : Char) (text : List Char) : Option (String × List Char) :=
  (if quote = '"' then basic? (text.length + 1) [] text else literal? text).map
    fun (content, rest) => (String.ofList content, rest)

/-- A text of either form behind its first quote. -/
def quoted? (quote : Char) (text : List Char) : Option (String × List Char) :=
  match text with
  | a :: b :: rest =>
    if a = quote ∧ b = quote then
      let rest := (afterNewline? rest).getD rest
      (multiline? quote (quote == '"') (rest.length + 1) [] rest).map
        fun (content, rest) => (String.ofList content, rest)
    else line? quote text
  | text => line? quote text

end ServedMedia.Toml
