import ServedMedia.Json.Parser
import ServedMedia.Json.Printer

/-!
# String literals read back

Whatever characters a text has, the reader gets through what is written for each of
them in the state of plain text, with the character appended:

    read? tokens (.string .plain chars) (escapeChar c ++ rest) =
      read? tokens (.string .plain (c :: chars)) rest                    (read?_escapeChar)

So the literal of a text is one token, and the document of it the text:

    parse? (compact (.string text)) = some (.string text)            (parse?_compact_string)
-/

namespace ServedMedia.Json

namespace Token

section
variable {tokens : List Token} {chars rest : List Char}

/-- A character that does not end the string. -/
theorem read?_string_cons {escape next : Escape} {c : Char} {more : List Char}
    (hquote : ¬ (escape = .plain ∧ c = '"'))
    (h : stepString? chars c escape = some (next, more)) :
    read? tokens (.string escape chars) (c :: rest) =
      read? tokens (.string next more) rest := by
  rw [read?, step?, if_neg hquote, h]
  rfl

theorem read?_backslash (c : Char) : read? tokens (.string .plain chars) ('\\' :: c :: rest) =
    read? tokens (.string .backslash chars) (c :: rest) :=
  read?_string_cons (by decide) rfl

/-- An escape of one letter. -/
theorem read?_unescape {c d : Char} (hu : c ≠ 'u') (h : unescape? c = some d) :
    read? tokens (.string .plain chars) ('\\' :: c :: rest) =
      read? tokens (.string .plain (d :: chars)) rest := by
  rw [read?_backslash]
  apply read?_string_cons (by simp)
  rw [stepString?, if_neg hu, h]
  rfl

/-- One digit of an escape of four, the last one apart. -/
theorem read?_digit {missing value digit : Nat} (hmissing : 1 < missing) (hdigit : digit < 16) :
    read? tokens (.string (.unit missing value) chars) (lowerHex digit :: rest) =
      read? tokens (.string (.unit (missing - 1) (value * 16 + digit)) chars) rest := by
  apply read?_string_cons (by simp)
  rw [stepString?, hexValue?_lowerHex digit hdigit]
  have hmore : ¬ missing ≤ 1 := by omega
  simp [hmore]

theorem read?_lastDigit {value digit : Nat} (hdigit : digit < 16)
    (hvalue : value * 16 + digit < 0xD800) :
    read? tokens (.string (.unit 1 value) chars) (lowerHex digit :: rest) =
      read? tokens (.string .plain (Char.ofNat (value * 16 + digit) :: chars)) rest := by
  apply read?_string_cons (by simp)
  rw [stepString?, hexValue?_lowerHex digit hdigit]
  have hlow : ¬ 0xD800 ≤ value * 16 + digit := by omega
  have hhigh : ¬ 0xDC00 ≤ value * 16 + digit := by omega
  simp [finishUnit?, hlow, hhigh]

/-- A control character by its number. -/
theorem read?_unit {c : Char} (hc : c.toNat < 0x20) :
    read? tokens (.string .plain chars)
        (['\\', 'u', '0', '0', lowerHex (c.toNat / 16), lowerHex (c.toNat % 16)] ++ rest) =
      read? tokens (.string .plain (c :: chars)) rest := by
  have hzero : '0' = lowerHex 0 := by decide
  have hunit (digits : List Char) : read? tokens (.string .backslash chars) ('u' :: digits) =
      read? tokens (.string (.unit 4 0) chars) digits := read?_string_cons (by decide) rfl
  have hvalue : (0 * 16 + c.toNat / 16) * 16 + c.toNat % 16 = c.toNat := by omega
  simp only [List.cons_append, List.nil_append]
  rw [read?_backslash, hunit, hzero, read?_digit (by decide) (by decide),
    read?_digit (by decide) (by decide), read?_digit (by decide) (by omega),
    read?_lastDigit (by omega) (by omega), hvalue, Char.ofNat_toNat]

theorem read?_escapeChar (c : Char) :
    read? tokens (.string .plain chars) (escapeChar c ++ rest) =
      read? tokens (.string .plain (c :: chars)) rest := by
  unfold escapeChar
  split
  · next hc =>
    rw [hc]
    exact read?_unescape (by decide) rfl
  · next hquote =>
    split
    · next hc =>
      rw [hc]
      exact read?_unescape (by decide) rfl
    · next hbackslash =>
      split
      · next hcontrol =>
        split
        all_goals first
          | exact read?_unescape (by decide) rfl
          | exact read?_unit hcontrol
      · next hplain =>
        apply read?_string_cons (by simp [hquote])
        rw [stepString?, if_neg hbackslash, if_neg hplain]

/-- The characters of a text and the quote behind them. -/
theorem read?_flatMap (text : List Char) :
    read? tokens (.string .plain chars) (text.flatMap escapeChar ++ '"' :: rest) =
      read? (.scalar (.string (String.ofList (chars.reverse ++ text))) :: tokens)
        .between rest := by
  induction text generalizing chars with
  | nil =>
    rw [List.append_nil]
    rfl
  | cons c text ih =>
    rw [List.flatMap_cons, List.append_assoc, read?_escapeChar, ih, List.reverse_cons,
      List.append_assoc, List.singleton_append]

end

theorem ofText?_quote (text : List Char) :
    ofText? (quote text) = some [.scalar (.string (String.ofList text))] := by
  have hopen (rest : List Char) :
      read? [] .between ('"' :: rest) = read? [] (.string .plain []) rest := rfl
  rw [ofText?, quote, hopen, read?_flatMap]
  rfl

end Token

/-! ## Top theorems -/

theorem parse?_compact_string (text : String) :
    parse? (compact (.string text)) = some (.string text) := by
  rw [compact, parse?, parseWithin?, write, String.toList_ofList, Token.ofText?_quote,
    String.ofList_toList]
  rfl

end ServedMedia.Json
