import Lexis.Character
import Lexis.Kind

/-!
# Numerals

Two views of numeric text. `leading` takes the numeral that stands at the head of a text: digits,
then a point with digits, then an exponent, each as far as it goes and with no check of the whole.
`classify` judges a complete text, of whatever origin, and falls back to the integer form when it is
not well formed. `leading_isPrefix` says that a leading numeral is cut off the text unchanged.
-/

namespace Lexis.Numeral

open Character

/-! ### The numeral at the head of a text -/

def starts (c : Char) (rest : List Char) : Bool :=
  c.isDigit || (c == '.' && rest.head?.any Char.isDigit)

def sign : List Char → List Char
  | c :: _ => if isSign c then [c] else []
  | []     => []

def digits (text : List Char) : List Char := text.takeWhile Char.isDigit

/-- The point at the head of a text and the digits after it. -/
def fraction : List Char → List Char
  | c :: rest => if c = '.' then c :: digits rest else []
  | []        => []

/-- The exponent at the head of a text: its mark, and a sign and digits if they are there. -/
def exponent : List Char → List Char
  | c :: rest =>
    if isExponentMark c then c :: (sign rest ++ digits (rest.drop (sign rest).length)) else []
  | []        => []

/-- Digits, fraction and exponent at the head of a text, each possibly missing. -/
def leading (text : List Char) : List Char :=
  let whole := digits text
  let point := fraction (text.drop whole.length)
  let power := exponent (text.drop (whole ++ point).length)
  whole ++ point ++ power

theorem sign_isPrefix (text : List Char) : sign text <+: text := by
  unfold sign
  split
  · split <;> simp
  · simp

theorem digits_isPrefix (text : List Char) : digits text <+: text := List.takeWhile_prefix _

theorem fraction_isPrefix (text : List Char) : fraction text <+: text := by
  unfold fraction
  split
  · split
    · exact List.cons_prefix_cons.2 ⟨rfl, digits_isPrefix _⟩
    · simp
  · simp

/-- A piece of what follows a piece of the text goes on with that piece. -/
theorem append_isPrefix_of_drop {head tail text : List Char} (hhead : head <+: text)
    (htail : tail <+: text.drop head.length) : head ++ tail <+: text := by
  obtain ⟨rest, rfl⟩ := hhead
  rw [List.drop_left] at htail
  exact (List.prefix_append_right_inj head).2 htail

theorem exponent_isPrefix (text : List Char) : exponent text <+: text := by
  unfold exponent
  split
  · split
    · exact List.cons_prefix_cons.2
        ⟨rfl, append_isPrefix_of_drop (sign_isPrefix _) (digits_isPrefix _)⟩
    · simp
  · simp

/-- A leading numeral is the text's own beginning. -/
theorem leading_isPrefix (text : List Char) : leading text <+: text :=
  append_isPrefix_of_drop (append_isPrefix_of_drop (digits_isPrefix _) (fraction_isPrefix _))
    (exponent_isPrefix _)

/-- A numeral that starts somewhere is not empty. -/
theorem leading_ne_nil {c : Char} {rest : List Char} (h : starts c rest = true) :
    leading (c :: rest) ≠ [] := by
  simp only [starts, Bool.or_eq_true, Bool.and_eq_true, beq_iff_eq] at h
  rcases h with h | ⟨rfl, _⟩
  · simp [leading, digits, h]
  · simp [leading, digits, fraction]

/-! ### Classification of a complete text -/

/-- Whether the text is digits alone, at least one of them. -/
def isWhole (text : List Char) : Bool := !text.isEmpty && text.all Char.isDigit

/-- Whether the text is digits around one point, with a digit on one side at least. -/
def isDecimal (text : List Char) : Bool :=
  match text.dropWhile Char.isDigit with
  | c :: rest => c == '.' && rest.all Char.isDigit && (!rest.isEmpty || !(digits text).isEmpty)
  | []        => false

/-- The part of a text before its first exponent mark. -/
def mantissa (text : List Char) : List Char := text.takeWhile fun c => !isExponentMark c

/-- The text without a sign at its head. -/
def unsigned (text : List Char) : List Char := text.drop (sign text).length

/-- Whether the text is a signed or unsigned mantissa, an exponent mark and a signed or unsigned
whole number. -/
def isScientific (text : List Char) : Bool :=
  let base := mantissa (unsigned text)
  match (unsigned text).dropWhile fun c => !isExponentMark c with
  | _ :: power => (isWhole base || isDecimal base) && isWhole (unsigned power)
  | []         => false

/-- The form of literal that a text is; an integer if it is neither of the others. -/
def classify (text : List Char) : Literal :=
  if isScientific text then .scientific
  else if isDecimal (mantissa text) then .decimal
  else .integer

end Lexis.Numeral
