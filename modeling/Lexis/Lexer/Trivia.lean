import Lexis.Location
import Lexis.Numeral
import Lexis.SymbolTable

/-!
# Blanks and comments

What lies between two lexemes. A comment is opened by two characters that the symbol table knows as
the kind `comment`, provided no word or numeral starts there, and runs through the end of its line.
`skip` drops blanks and comments and remembers on which lines comments stood.
-/

namespace Lexis

open Character

/-- The symbol of the two characters at the head of a text. -/
def pairAt (t : SymbolTable) (c : Char) : List Char → Option Symbol
  | d :: _ => t.lookup (String.ofList [c, d])
  | []     => none

/-- Whether a comment starts with `c` when `rest` follows it. -/
def opensComment (t : SymbolTable) (c : Char) (rest : List Char) : Bool :=
  !isWordStart c && !Numeral.starts c rest && (pairAt t c rest).any fun s => s.kind == .comment

/-- The result of skipping blanks and comments. -/
structure Trivia where
  /-- The lines on which the skipped comments stand. -/
  comments : List Nat
  /-- The place where skipping stopped. -/
  location : Location
  /-- The text from there on. -/
  rest : List Char
deriving DecidableEq, Repr

namespace Trivia

/-- Drop blanks and comments at the head of a text, which may start inside a comment. -/
def skip (t : SymbolTable) : Bool → Location → List Char → Trivia
  | _, l, []            => ⟨[], l, []⟩
  | true, l, c :: rest  => skip t (c != '\n') (l.next c) rest
  | false, l, c :: rest =>
    if isBlank c then skip t false (l.next c) rest
    else if opensComment t c rest then
      let after := skip t true (l.next c) rest
      ⟨l.line :: after.comments, after.location, after.rest⟩
    else ⟨[], l, c :: rest⟩

@[simp] theorem skip_nil (t : SymbolTable) (inside : Bool) (l : Location) :
    skip t inside l [] = ⟨[], l, []⟩ := by simp [skip]

@[simp] theorem skip_inside (t : SymbolTable) (l : Location) (c : Char) (rest : List Char) :
    skip t true l (c :: rest) = skip t (c != '\n') (l.next c) rest := rfl

theorem skip_blank {c : Char} (h : isBlank c = true) (t : SymbolTable) (l : Location)
    (rest : List Char) : skip t false l (c :: rest) = skip t false (l.next c) rest := by
  simp [skip, h]

theorem skip_comment {t : SymbolTable} {c : Char} {rest : List Char} (hblank : isBlank c = false)
    (hopen : opensComment t c rest = true) (l : Location) :
    skip t false l (c :: rest) =
      ⟨l.line :: (skip t true (l.next c) rest).comments, (skip t true (l.next c) rest).location,
        (skip t true (l.next c) rest).rest⟩ := by
  simp [skip, hblank, hopen]

theorem skip_stop {t : SymbolTable} {c : Char} {rest : List Char} (hblank : isBlank c = false)
    (hopen : opensComment t c rest = false) (l : Location) :
    skip t false l (c :: rest) = ⟨[], l, c :: rest⟩ := by
  simp [skip, hblank, hopen]

/-- What is left is an end of the text. -/
theorem rest_skip_isSuffix (t : SymbolTable) (inside : Bool) (l : Location) (text : List Char) :
    (skip t inside l text).rest <:+ text := by
  induction text generalizing inside l with
  | nil => simp
  | cons c rest ih =>
    cases inside with
    | true => exact (ih _ _).trans (List.suffix_cons c rest)
    | false =>
      unfold skip
      split
      · exact (ih _ _).trans (List.suffix_cons c rest)
      · split
        · exact (ih _ _).trans (List.suffix_cons c rest)
        · exact List.suffix_rfl

/-- What is left starts neither with a blank nor with a comment. -/
theorem rest_skip_stops (t : SymbolTable) (inside : Bool) (l : Location) {text rest : List Char}
    {c : Char} (h : (skip t inside l text).rest = c :: rest) :
    isBlank c = false ∧ opensComment t c rest = false := by
  induction text generalizing inside l with
  | nil => simp at h
  | cons d ds ih =>
    cases inside with
    | true => exact ih _ _ h
    | false =>
      unfold skip at h
      split at h
      · exact ih _ _ h
      · next hblank =>
        split at h
        · exact ih _ _ h
        · next hopen =>
          obtain ⟨rfl, rfl⟩ := List.cons.inj h
          simp [hblank, hopen]

end Trivia

end Lexis
