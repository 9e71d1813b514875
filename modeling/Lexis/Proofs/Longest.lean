import Lexis.Proofs.Table

/-!
# The longest lexeme

`Longest lexeme kind text` says that no lexeme at the head of `text` is longer than `lexeme`. On a
lexical table `Piece.read?` finds the longest lexeme (`Lexical.longest_of_read?`), and it finds one
unless there is none (`Lexical.no_lexeme_of_read?`). Lexemes have no blanks in them, so which of
them stand at the head of a text is decided in front of the first blank (`Longest.of_solid_eq`).
-/

namespace Lexis

open Character

/-- The longest lexeme at the head of a text, and its kind. -/
structure Longest (lexeme : List Char) (kind : Kind) (text : List Char) : Prop where
  isLexeme : Lexeme lexeme kind
  isPrefix : lexeme <+: text
  length_le : ∀ q k, Lexeme q k → q <+: text → q.length ≤ lexeme.length

/-- There is only one longest lexeme. -/
theorem Longest.unique {lexeme lexeme' text : List Char} {kind kind' : Kind}
    (h : Longest lexeme kind text) (h' : Longest lexeme' kind' text) :
    lexeme = lexeme' ∧ kind = kind' := by
  have hle := h.length_le _ _ h'.isLexeme h'.isPrefix
  have hle' := h'.length_le _ _ h.isLexeme h.isPrefix
  have hprefix := List.prefix_of_prefix_length_le h.isPrefix h'.isPrefix hle'
  obtain rfl : lexeme = lexeme' := hprefix.eq_of_length_le hle
  exact ⟨rfl, h.isLexeme.kind_unique h'.isLexeme⟩

/-- A lexeme at the head of a text has the text's first character. -/
lemma Lexeme.exists_of_isPrefix {q : List Char} {k : Kind} {c : Char} {rest : List Char}
    (h : Lexeme q k) (hpre : q <+: c :: rest) : ∃ tail, q = c :: tail ∧ tail <+: rest := by
  obtain ⟨d, tail, rfl⟩ := List.exists_cons_of_ne_nil h.ne_nil
  obtain ⟨rfl, htail⟩ := List.cons_prefix_cons.1 hpre
  exact ⟨tail, rfl, htail⟩

lemma isPrefix_takeWhile {p : Char → Bool} {q text : List Char} (hq : ∀ c ∈ q, p c = true)
    (hpre : q <+: text) : q <+: text.takeWhile p := by
  obtain ⟨rest, rfl⟩ := hpre
  rw [List.takeWhile_append_of_pos hq]
  exact List.prefix_append _ _

variable {c : Char} {rest : List Char} {kind : Kind}

/-- A word goes on as far as it can. -/
lemma longest_word (hstart : isWordStart c = true)
    (h : Lexeme (c :: rest.takeWhile isWordPart) kind) :
    Longest (c :: rest.takeWhile isWordPart) kind (c :: rest) where
  isLexeme := h
  isPrefix := List.cons_prefix_cons.2 ⟨rfl, List.takeWhile_prefix _⟩
  length_le := by
    intro q k hq hpre
    obtain ⟨tail, rfl, htail⟩ := hq.exists_of_isPrefix hpre
    have hword := hq.isWord_of_isWordStart hstart
    have hle := (isPrefix_takeWhile hword.2 htail).length_le
    simpa using hle

lemma longest_numeral (hstarts : Numeral.starts c rest = true)
    (h : Lexeme (Numeral.leading (c :: rest)) kind) :
    Longest (Numeral.leading (c :: rest)) kind (c :: rest) where
  isLexeme := h
  isPrefix := Numeral.leading_isPrefix _
  length_le := by
    intro q k hq hpre
    obtain ⟨tail, rfl, -⟩ := hq.exists_of_isPrefix hpre
    have hnum := hq.isNumeral_of_starts hstarts
    exact (Numeral.isPrefix_leading hnum hpre).length_le

/-- A mark has one or two characters. -/
lemma IsMark.eq_of_isPrefix {q : List Char} (h : IsMark q kind) (hpre : q <+: c :: rest) :
    q = [c] ∨ ∃ d ds, rest = d :: ds ∧ q = [c, d] := by
  obtain ⟨tail, rfl, htail⟩ := (Lexeme.mark h).exists_of_isPrefix hpre
  have hlength := h.length_le
  cases tail with
  | nil => exact Or.inl rfl
  | cons d tail =>
    obtain rfl : tail = [] := by simpa using hlength
    obtain ⟨ds, rfl⟩ := htail
    exact Or.inr ⟨d, ds, rfl, rfl⟩

namespace SymbolTable.Lexical

variable {t : SymbolTable} {p : Piece}

lemma lookup_of_isPrefix {q : List Char} (h : t.Lexical) (hmark : IsMark q kind)
    (hpre : q <+: c :: rest) :
    (q = [c] ∧ t.lookup (String.ofList [c]) = some ⟨String.ofList [c], kind⟩) ∨
      (q.length = 2 ∧ pairAt t c rest = some ⟨String.ofList q, kind⟩) := by
  rcases hmark.eq_of_isPrefix hpre with rfl | ⟨d, ds, rfl, rfl⟩
  · exact Or.inl ⟨rfl, h.lookup_mark hmark⟩
  · exact Or.inr ⟨rfl, h.lookup_mark hmark⟩

/-- On a lexical table the longest lexeme is found. -/
theorem longest_of_read? (h : t.Lexical) (hread : Piece.read? t c rest = some p) :
    Longest p.text (p.enter t).1.kind (c :: rest) := by
  obtain ⟨hlexeme, -⟩ := h.enter_piece hread
  cases Piece.reads_of_read? hread with
  | word hword     => exact longest_word hword hlexeme
  | numeral _ hnum => exact longest_numeral hnum hlexeme
  | mark hword hnum hs =>
    obtain ⟨hpre, hne⟩ := Piece.text_of_read? hread
    refine ⟨hlexeme, hpre, ?_⟩
    intro q k hq hqpre
    obtain ⟨tail, rfl, htail⟩ := hq.exists_of_isPrefix hqpre
    have hmark := hq.isMark_of_head hword hnum htail
    rcases h.lookup_of_isPrefix hmark hqpre with ⟨heq, -⟩ | ⟨-, hpair⟩
    · rw [heq]
      exact List.length_pos_iff.2 hne
    · -- two characters were tried first, so the mark that was found is this one
      rw [hpair, Option.some_or, Option.some.injEq] at hs
      subst hs
      simp [Piece.text]

/-- On a lexical table a lexeme is found unless there is none. -/
theorem no_lexeme_of_read? (h : t.Lexical) (hread : Piece.read? t c rest = none) {q : List Char}
    (hq : Lexeme q kind) : ¬ q <+: c :: rest := by
  intro hpre
  obtain ⟨hword, hnum, hpair, hone⟩ := Piece.of_read?_eq_none hread
  obtain ⟨tail, rfl, htail⟩ := hq.exists_of_isPrefix hpre
  have hmark := hq.isMark_of_head hword hnum htail
  rcases h.lookup_of_isPrefix hmark hpre with ⟨-, hfound⟩ | ⟨-, hfound⟩
  · rw [hone] at hfound
    cases hfound
  · rw [hpair] at hfound
    cases hfound

end SymbolTable.Lexical

/-! ### In front of the first blank -/

/-- What stands in front of the first blank of a text. -/
def Text.solid (text : List Char) : List Char := text.takeWhile fun c => !isBlank c

namespace Text

lemma solid_blank {c : Char} (h : isBlank c = true) (rest : List Char) :
    solid (c :: rest) = [] := by
  simp [solid, h]

lemma solid_cons {c : Char} (h : isBlank c = false) (rest : List Char) :
    solid (c :: rest) = c :: solid rest := by
  simp [solid, h]

end Text

/-- A lexeme stands at the head of a text if it does in front of the first blank. -/
lemma Lexeme.isPrefix_solid_iff {q : List Char} {kind : Kind} (h : Lexeme q kind)
    (text : List Char) : q <+: Text.solid text ↔ q <+: text := by
  constructor
  · intro hpre
    exact hpre.trans (List.takeWhile_prefix _)
  · intro hpre
    refine isPrefix_takeWhile (fun c hc => ?_) hpre
    simp [h.isBlank_of_mem hc]

lemma Lexeme.isPrefix_iff_of_solid_eq {q text text' : List Char} {kind : Kind} (h : Lexeme q kind)
    (hsolid : Text.solid text = Text.solid text') : q <+: text ↔ q <+: text' := by
  rw [← h.isPrefix_solid_iff text, hsolid, h.isPrefix_solid_iff]

/-- Texts that agree in front of their first blanks begin with the same lexemes. -/
lemma Longest.of_solid_eq {lexeme text text' : List Char} {kind : Kind}
    (h : Longest lexeme kind text) (hsolid : Text.solid text = Text.solid text') :
    Longest lexeme kind text' where
  isLexeme := h.isLexeme
  isPrefix := (h.isLexeme.isPrefix_iff_of_solid_eq hsolid).1 h.isPrefix
  length_le := by
    intro q k hq hpre
    exact h.length_le q k hq ((hq.isPrefix_iff_of_solid_eq hsolid).2 hpre)

end Lexis
