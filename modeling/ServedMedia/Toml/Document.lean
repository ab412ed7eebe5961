import ServedMedia.Toml.Quoted
import ServedMedia.Toml.Scalar

/-!
# TOML documents

A document is read line by line into statements, and the statements build the
table.  A value may span lines inside quotes and arrays.  Values nest at most 79
deep, and a key has at most 79 parts.
-/

namespace ServedMedia.Toml

/-- What one line of a document says. -/
inductive Line where
  | header (path : List String)
  | listHeader (path : List String)
  | pair (path : List String) (key : String) (value : Node)
  deriving Repr

/-- The bound on nested values and on the parts of a key. -/
def depthLimit : Nat := 80

/-! ## Keys -/

def isBareKeyChar (c : Char) : Bool := c.isAlphanum || c == '_' || c == '-'

/-- One part of a key. -/
def keyPart? : List Char → Option (String × List Char)
  | '"' :: rest => line? '"' rest
  | '\'' :: rest => line? '\'' rest
  | text =>
    let part := text.takeWhile isBareKeyChar
    if part.isEmpty then none else some (String.ofList part, text.dropWhile isBareKeyChar)

/-- The parts of a key with dots between them and blanks around them. -/
def keyParts? : (fuel : Nat) → List Char → Option (List String × List Char)
  | 0, _ => none
  | fuel + 1, text => do
    let (part, rest) ← keyPart? (text.dropWhile isSpace)
    match rest.dropWhile isSpace with
    | '.' :: rest => do
      let (parts, rest) ← keyParts? fuel rest
      pure (part :: parts, rest)
    | rest => pure ([part], rest)

def key? (text : List Char) : Option (List String × List Char) :=
  (keyParts? (text.length + 1) text).filter fun r => r.1.length < depthLimit

/-! ## Values -/

/-- What follows a comment, if one stands in front. -/
def afterComment : List Char → List Char
  | '#' :: rest => rest.dropWhile isPrintable
  | text => text

/-- Blanks, comments and line breaks between the items of an array. -/
def skipLines : (fuel : Nat) → List Char → List Char
  | 0, text => text
  | fuel + 1, text =>
    let rest := text.dropWhile isSpace
    match rest, afterNewline? (afterComment rest) with
    | '#' :: _, some rest => skipLines fuel rest
    | _, _ =>
      match afterNewline? rest with
      | some rest => skipLines fuel rest
      | none => rest

/-- The items of an array up to its closing bracket. -/
def items? (value? : List Char → Option (Node × List Char)) :
    (fuel : Nat) → List Char → Option (List Node × List Char)
  | 0, _ => none
  | fuel + 1, text =>
    match skipLines text.length text with
    | ']' :: rest => some ([], rest)
    | text => do
      let (item, rest) ← value? text
      match skipLines rest.length rest with
      | ',' :: rest => do
        let (items, rest) ← items? value? fuel rest
        pure (item :: items, rest)
      | ']' :: rest => pure ([item], rest)
      | _ => none

/-- A key, an equals sign and a value. -/
def pair? (value? : List Char → Option (Node × List Char)) (text : List Char) :
    Option ((List String × String × Node) × List Char) := do
  let (parts, rest) ← key? text
  match rest with
  | '=' :: rest => do
    let (value, rest) ← value? (rest.dropWhile isSpace)
    pure ((parts.dropLast, parts.getLast?.getD "", value), rest)
  | _ => none

/-- The pairs of an inline table up to its closing brace. -/
def pairs? (value? : List Char → Option (Node × List Char)) :
    (fuel : Nat) → List Char → Option ((List (List String × String × Node)) × List Char)
  | 0, _ => none
  | fuel + 1, text => do
    let (first, rest) ← pair? value? text
    match rest.dropWhile isSpace with
    | ',' :: rest => do
      let (others, rest) ← pairs? value? fuel rest
      pure (first :: others, rest)
    | '\x7d' :: rest => pure ([first], rest)
    | _ => none

/-- An inline table behind its opening brace. -/
def inlineTable? (value? : List Char → Option (Node × List Char)) (text : List Char) :
    Option (Node × List Char) :=
  match text.dropWhile isSpace with
  | '\x7d' :: rest => some (.inlineTable [], rest)
  | text => do
    let (pairs, rest) ← pairs? value? (text.length + 1) text
    let entries ← pairs.foldlM (fun (entries : Entries) (pair : List String × String × Node) =>
      entries.addPair? pair.1 pair.2.1 pair.2.2 .header) []
    pure (.inlineTable entries, rest)

def isScalarChar (c : Char) : Bool :=
  c.isAlphanum || c == '+' || c == '-' || c == '_' || c == '.' || c == ':'

/-- The text of a scalar; a space belongs to it between a date and a time. -/
def scalarText (text : List Char) : List Char × List Char :=
  let word := text.takeWhile isScalarChar
  let rest := text.dropWhile isScalarChar
  match rest with
  | ' ' :: d :: _ =>
    if afterDate? word = some [] ∧ d.isDigit then
      (word ++ ' ' :: (rest.drop 1).takeWhile isScalarChar,
        (rest.drop 1).dropWhile isScalarChar)
    else (word, rest)
  | rest => (word, rest)

/-- A value that may hold values nested less than `depth` deep. -/
def value? : (depth : Nat) → List Char → Option (Node × List Char)
  | 0, _ => none
  | depth + 1, text =>
    match text with
    | '"' :: rest => (quoted? '"' rest).map fun (s, rest) => (.string s, rest)
    | '\'' :: rest => (quoted? '\'' rest).map fun (s, rest) => (.string s, rest)
    | '[' :: rest =>
      if depth = 0 then none
      else (items? (value? depth) (rest.length + 1) rest).map
        fun (items, rest) => (.array items, rest)
    | '\x7b' :: rest => if depth = 0 then none else inlineTable? (value? depth) rest
    | text =>
      let (word, rest) := scalarText text
      (scalar? word).map fun node => (node, rest)

/-! ## Lines -/

/-- What follows the end of a line: blanks, a comment, and a line break or the end of the text. -/
def afterLine? (text : List Char) : Option (List Char) :=
  match afterComment (text.dropWhile isSpace) with
  | [] => some []
  | rest => afterNewline? rest

/-- One statement, which starts with a character that is no blank, and what follows it. -/
def statement? : List Char → Option (Line × List Char)
  | '[' :: '[' :: rest => do
    let (path, rest) ← key? rest
    match rest with
    | ']' :: ']' :: rest => some (.listHeader path, rest)
    | _ => none
  | '[' :: rest => do
    let (path, rest) ← key? rest
    match rest with
    | ']' :: rest => some (.header path, rest)
    | _ => none
  | text => (pair? (value? depthLimit) text).map fun ((path, key, value), rest) =>
    (.pair path key value, rest)

/-- The statements of a text. -/
def lines? : (fuel : Nat) → List Char → Option (List Line)
  | 0, _ => none
  | fuel + 1, text =>
    match text.dropWhile isSpace with
    | [] => some []
    | text =>
      match afterLine? text with
      | some rest => lines? fuel rest
      | none => do
        let (line, rest) ← statement? text
        let lines ← lines? fuel (← afterLine? rest)
        pure (line :: lines)

/-! ## Building -/

/-- The table under construction: the document so far, and the table of the last
header, which is put in its place when it is complete. -/
structure Builder where
  document : Entries
  path : List String
  isListed : Bool
  current : Entries

namespace Builder

def start : Builder := ⟨[], [], false, []⟩

/-- Puts the current table in its place. -/
def finish? (b : Builder) : Option Entries :=
  match b.path.getLast? with
  | none => some b.current
  | some key =>
    b.document.alter? false (fun _ parent =>
      if b.isListed then
        match parent.get? key with
        | some (.tables elements) => some (parent.set key (.tables (b.current :: elements)))
        | none => some (parent.set key (.tables [b.current]))
        | some _ => none
      else parent.add? key (.table .header b.current)) b.path.dropLast .header

/-- The entries of a table that its header may complete: none so far, or those
made on the way to other headers. -/
def opened? (document : Entries) (path : List String) (key : String) : Option Entries :=
  match path with
  | [] =>
    match document.get? key with
    | none => some []
    | some (.table .path entries) => some entries
    | some _ => none
  | first :: path =>
    match document.get? first with
    | none => some []
    | some (.table _ entries) => opened? entries path key
    | some (.tables (last :: _)) => opened? last path key
    | some _ => none

def header? (b : Builder) (path : List String) : Option Builder := do
  let document ← b.finish?
  let key := path.getLast?.getD ""
  let current ← opened? document path.dropLast key
  let document ← document.alter? false (fun _ parent => some (parent.remove key))
    path.dropLast .header
  pure ⟨document, path, false, current⟩

def listHeader? (b : Builder) (path : List String) : Option Builder := do
  let document ← b.finish?
  let key := path.getLast?.getD ""
  let document ← document.alter? false (fun _ parent =>
    match parent.get? key with
    | none => some (parent.set key (.tables []))
    | some (.tables _) => some parent
    | some _ => none) path.dropLast .header
  pure ⟨document, path, true, []⟩

def step? (b : Builder) : Line → Option Builder
  | .header path => b.header? path
  | .listHeader path => b.listHeader? path
  | .pair path key value =>
    (b.current.addPair? path key value .header).map fun current => { b with current }

end Builder

/-- The table of a document; a byte order mark in front is skipped. -/
def parse? (text : String) : Option Entries := do
  let chars := match text.toList with
    | '\ufeff' :: rest => rest
    | chars => chars
  let lines ← lines? (chars.length + 1) chars
  (← lines.foldlM Builder.step? Builder.start).finish?

end ServedMedia.Toml
