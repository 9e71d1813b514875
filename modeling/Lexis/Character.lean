import Lexis.Character.Alphabetic
import Lexis.Character.Numeric
import Lexis.Character.WhiteSpace

/-!
# Characters of a source text

The classes that decide where a lexeme begins and how far it reaches. A word starts with an
alphabetic character, `_` or `$` and goes on through alphanumeric characters, `_` and `$`; a numeral
is written with the ten ASCII digits only.
-/

namespace Lexis.Character

/-- Alphabetic or numeric, in any script. -/
def isAlphanumeric (c : Char) : Bool := isAlphabetic c || isNumeric c

/-- Whether a word can start with this character. -/
def isWordStart (c : Char) : Bool := isAlphabetic c || c == '_' || c == '$'

def isWordPart (c : Char) : Bool := isAlphanumeric c || c == '_' || c == '$'

/-- Whether the exponent of a numeral opens with this character. -/
def isExponentMark (c : Char) : Bool := c == 'e' || c == 'E'

/-- Whether this character is the sign of a numeral or of its exponent. -/
def isSign (c : Char) : Bool := c == '+' || c == '-'

/-- What starts a word may also continue it. -/
theorem isWordPart_of_isWordStart {c : Char} (h : isWordStart c = true) : isWordPart c = true := by
  simp only [isWordStart, isWordPart, isAlphanumeric, Bool.or_eq_true] at h ⊢
  rcases h with (h | h) | h <;> simp [h]

/-! ### How the classes relate -/

theorem toNat_of_isDigit {c : Char} (h : c.isDigit = true) : 48 ≤ c.toNat ∧ c.toNat ≤ 57 := by
  simp only [Char.isDigit, Bool.and_eq_true, decide_eq_true_eq, UInt32.le_iff_toNat_le] at h
  exact h

theorem isNumeric_of_isDigit {c : Char} (h : c.isDigit = true) : isNumeric c = true := by
  obtain ⟨hlow, hhigh⟩ := toNat_of_isDigit h
  exact Ranges.covers_head hlow hhigh _

theorem isAlphabetic_of_isDigit {c : Char} (h : c.isDigit = true) : isAlphabetic c = false := by
  obtain ⟨hlow, hhigh⟩ := toNat_of_isDigit h
  have hcovers := Ranges.covers_head hlow hhigh []
  exact Ranges.not_covers_of_apart (by decide +kernel) hcovers

theorem isWordStart_of_isDigit {c : Char} (h : c.isDigit = true) : isWordStart c = false := by
  have halpha := isAlphabetic_of_isDigit h
  have hne : c ≠ '_' ∧ c ≠ '$' := by constructor <;> rintro rfl <;> simp [Char.isDigit] at h
  simp [isWordStart, halpha, hne]

theorem isWordPart_of_isDigit {c : Char} (h : c.isDigit = true) : isWordPart c = true := by
  simp [isWordPart, isAlphanumeric, isNumeric_of_isDigit h]

/-- A blank ends a word. -/
theorem isWordPart_of_isBlank {c : Char} (h : isBlank c = true) : isWordPart c = false := by
  have halpha : isAlphabetic c = false := Ranges.not_covers_of_apart (by decide +kernel) h
  have hnum : isNumeric c = false := Ranges.not_covers_of_apart (by decide +kernel) h
  have hne : c ≠ '_' ∧ c ≠ '$' := by constructor <;> rintro rfl <;> revert h <;> decide
  simp [isWordPart, isAlphanumeric, halpha, hnum, hne]

theorem isBlank_lineFeed : isBlank '\n' = true := by decide

end Lexis.Character
