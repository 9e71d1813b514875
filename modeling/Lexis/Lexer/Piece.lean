import Lexis.Lexer.Trivia

/-!
# The lexeme at the head of a text

Where no blank and no comment stands, a text starts with a word, with a numeral, or with an operator
or separator that the symbol table knows; two characters are tried before one. Words and numerals
reach as far as they can and are new symbols if need be; other lexemes have to be known already.
-/

namespace Lexis

open Character

/-- A lexeme cut off the head of a text. -/
inductive Piece where
  | word (text : List Char)
  | numeral (text : List Char)
  | mark (symbol : Symbol)
deriving DecidableEq, Repr

namespace Piece

def text : Piece → List Char
  | word text    => text
  | numeral text => text
  | mark symbol  => symbol.lexeme.toList

/-- The symbol of the lexeme, and the table that has it. -/
def enter (t : SymbolTable) : Piece → Symbol × SymbolTable
  | word text    => t.enter (String.ofList text) .identifier
  | numeral text => t.enter (String.ofList text) (.literal (Numeral.classify text))
  | mark symbol  => (symbol, t)

/-- The lexeme that starts with `c` when `rest` follows it. -/
def read? (t : SymbolTable) (c : Char) (rest : List Char) : Option Piece :=
  if isWordStart c then some (word (c :: rest.takeWhile isWordPart))
  else if Numeral.starts c rest then some (numeral (Numeral.leading (c :: rest)))
  else match pairAt t c rest with
    | some symbol => some (mark symbol)
    | none        => (t.lookup (String.ofList [c])).map mark

theorem read?_word {c : Char} (h : isWordStart c = true) (t : SymbolTable) (rest : List Char) :
    read? t c rest = some (word (c :: rest.takeWhile isWordPart)) := by simp [read?, h]

theorem read?_numeral {c : Char} {rest : List Char} (hword : isWordStart c = false)
    (hnum : Numeral.starts c rest = true) (t : SymbolTable) :
    read? t c rest = some (numeral (Numeral.leading (c :: rest))) := by simp [read?, hword, hnum]

theorem read?_mark {c : Char} {rest : List Char} (hword : isWordStart c = false)
    (hnum : Numeral.starts c rest = false) (t : SymbolTable) :
    read? t c rest = ((pairAt t c rest).or (t.lookup (String.ofList [c]))).map mark := by
  simp only [read?, hword, hnum, Bool.false_eq_true, if_false]
  cases pairAt t c rest <;> rfl

/-- The characters of a pair are the two at the head of the text. -/
theorem toList_lexeme_of_pairAt {t : SymbolTable} {c : Char} {rest : List Char} {s : Symbol}
    (h : pairAt t c rest = some s) : ∃ d ds, rest = d :: ds ∧ s.lexeme.toList = [c, d] := by
  cases rest with
  | nil => simp [pairAt] at h
  | cons d ds => exact ⟨d, ds, rfl, by rw [SymbolTable.lexeme_of_lookup h, String.toList_ofList]⟩

/-- A lexeme is cut off the text unchanged, and it is not empty. -/
theorem text_of_read? {t : SymbolTable} {c : Char} {rest : List Char} {p : Piece}
    (h : read? t c rest = some p) : p.text <+: c :: rest ∧ p.text ≠ [] := by
  cases hword : isWordStart c with
  | true =>
    rw [read?_word hword, Option.some.injEq] at h
    subst h
    exact ⟨List.cons_prefix_cons.2 ⟨rfl, List.takeWhile_prefix _⟩, List.cons_ne_nil _ _⟩
  | false =>
    cases hnum : Numeral.starts c rest with
    | true =>
      rw [read?_numeral hword hnum, Option.some.injEq] at h
      subst h
      exact ⟨Numeral.leading_isPrefix _, Numeral.leading_ne_nil hnum⟩
    | false =>
      rw [read?_mark hword hnum, Option.map_eq_some_iff] at h
      obtain ⟨s, hs, rfl⟩ := h
      rcases Option.or_eq_some_iff.1 hs with hpair | ⟨_, hone⟩
      · obtain ⟨d, ds, rfl, hchars⟩ := toList_lexeme_of_pairAt hpair
        simp [text, hchars]
      · have hchars := SymbolTable.lexeme_of_lookup hone
        simp [text, hchars]

/-- The symbol has the characters of the lexeme. -/
@[simp] theorem toList_lexeme_enter (t : SymbolTable) (p : Piece) :
    (p.enter t).1.lexeme.toList = p.text := by
  cases p <;> simp [enter, text]

end Piece

end Lexis
