import NamedSql.Json.Lexer
import NamedSql.Json.Printer

/-!
# String literals

The literal of a string is read as the string.  A character is written as itself, as a
backslash and a letter, or as a backslash and its code, and it suffices to read each of them.
-/

namespace NamedSql.Json

/-- How a character within a string is written. -/
inductive Escape (c : Char) : List Char → Prop where
  | itself (printable : 0x20 ≤ c.toNat) (notQuote : c ≠ '\x22') (notBackslash : c ≠ '\\') :
      Escape c [c]
  | letter {letter : Char} (notCode : letter ≠ 'u') (stands : escaped? letter = some c) :
      Escape c ['\\', letter]
  | code {a b : Char} (control : c.toNat < 0x20)
      (value : Text.hexValue? ['0', '0', a, b] = some c.toNat)
      (noQuotes : a ≠ '\x22' ∧ b ≠ '\x22') (noBackslashes : a ≠ '\\' ∧ b ≠ '\\') :
      Escape c ['\\', 'u', '0', '0', a, b]

theorem hexValue?_control : ∀ n < 0x20,
    Text.hexValue? ['0', '0', Nat.digitChar (n / 16), Nat.digitChar (n % 16)] = some n ∧
      (Nat.digitChar (n / 16) ≠ '\x22' ∧ Nat.digitChar (n % 16) ≠ '\x22') ∧
      Nat.digitChar (n / 16) ≠ '\\' ∧ Nat.digitChar (n % 16) ≠ '\\' := by
  decide

/-- Every character is written in one of these ways. -/
theorem escape_spec (c : Char) : Escape c (escape c) := by
  unfold escape
  split
  · next quoted =>
    rcases quoted with rfl | rfl <;> exact .letter (by decide) rfl
  · next plain =>
    obtain ⟨notQuote, notBackslash⟩ := not_or.mp plain
    split
    · next same => exact .letter (by decide) (congrArg some same.symm)
    · split
      · next same => exact .letter (by decide) (congrArg some same.symm)
      · split
        · next same => exact .letter (by decide) (congrArg some same.symm)
        · split
          · next same => exact .letter (by decide) (congrArg some same.symm)
          · split
            · next same => exact .letter (by decide) (congrArg some same.symm)
            · split
              · next control =>
                obtain ⟨value, noQuotes, noBackslashes⟩ := hexValue?_control _ control
                exact .code control value noQuotes noBackslashes
              · next printable => exact .itself (Nat.le_of_not_lt printable) notQuote notBackslash

variable {c : Char} {written : List Char}

namespace Escape

theorem stringBody_append (escape : Escape c written) (rest : List Char) :
    stringBody (written ++ rest) =
      (stringBody rest).map fun (body, after) => (written ++ body, after) := by
  cases escape with
  | itself printable notQuote notBackslash => simp [stringBody, notBackslash]
  | letter notCode stands => simp [stringBody]
  | code control value noQuotes noBackslashes =>
      simp [stringBody, noQuotes, noBackslashes, Function.comp_def]

theorem isBody_append (escape : Escape c written) (rest : List Char) :
    isBody (written ++ rest) = isBody rest := by
  cases escape with
  | itself printable notQuote notBackslash => simp [isBody, printable, notBackslash]
  | letter notCode stands => simp [isBody, notCode, stands]
  | code control value noQuotes noBackslashes => simp [isBody, value]

theorem unescape_append (escape : Escape c written) (rest : List Char) :
    unescape (written ++ rest) = (unescape rest).map (c :: ·) := by
  cases escape with
  | itself printable notQuote notBackslash => simp [unescape, notBackslash]
  | letter notCode stands => simp [unescape, notCode, stands]
  | code control value noQuotes noBackslashes =>
      have notHigh : ¬ (0xD800 ≤ c.toNat ∧ c.toNat < 0xDC00) := by omega
      have notLow : ¬ (0xDC00 ≤ c.toNat ∧ c.toNat < 0xE000) := by omega
      simp [unescape, value, notHigh, notLow]

end Escape

/-- The text of a string, escaped, is followed by its closing quote. -/
theorem stringBody_escaped (text after : List Char) :
    stringBody (text.flatMap escape ++ '\x22' :: after) = some (text.flatMap escape, after) := by
  induction text with
  | nil => rfl
  | cons c text inductionHypothesis =>
      rw [List.flatMap_cons, List.append_assoc, (escape_spec c).stringBody_append,
        inductionHypothesis]
      rfl

theorem isBody_escaped (text : List Char) : isBody (text.flatMap escape) = true := by
  induction text with
  | nil => rfl
  | cons c text inductionHypothesis =>
      rw [List.flatMap_cons, (escape_spec c).isBody_append]
      exact inductionHypothesis

theorem unescape_escaped (text : List Char) : unescape (text.flatMap escape) = some text := by
  induction text with
  | nil => rfl
  | cons c text inductionHypothesis =>
      rw [List.flatMap_cons, (escape_spec c).unescape_append, inductionHypothesis]
      rfl

end NamedSql.Json
