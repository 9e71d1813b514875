import Lexis.Proofs.Gap

/-!
# What one step finds

On a lexical table an open lexer finds a gap first, and behind it the end of the text, a character
that no lexeme begins with, or the longest lexeme there (`Lexer.finds_next`). `Lexer.Finds` does not
mention the table: it has no say in what is found.
-/

namespace Lexis

open Character

/-- Where two slashes stand, nothing longer does. -/
lemma longest_comment (rest : List Char) : Longest ['/', '/'] .comment ('/' :: '/' :: rest) where
  isLexeme := .mark isMark_comment
  isPrefix := ⟨rest, rfl⟩
  length_le := by
    intro q k hq hpre
    obtain ⟨tail, rfl, htail⟩ := hq.exists_of_isPrefix hpre
    have hword : isWordStart '/' = false := isWordStart_of_isProbe isMark_comment.isProbe
    have hmark := hq.isMark_of_head hword (by simp [Numeral.starts, Char.isDigit]) htail
    rcases hmark.eq_of_isPrefix hpre with heq | ⟨d, ds, -, heq⟩ <;> simp [heq]

/-- A lexeme is the longest one only where no blank stands. -/
lemma Longest.isBlank_of_head {lexeme rest : List Char} {kind : Kind} {c : Char}
    (h : Longest lexeme kind (c :: rest)) : isBlank c = false := by
  obtain ⟨tail, rfl, -⟩ := h.isLexeme.exists_of_isPrefix h.isPrefix
  exact h.isLexeme.isBlank_of_mem List.mem_cons_self

namespace Lexer

/-- What an open lexer finds, and how it goes on. -/
inductive Finds (l : Lexer) : Except Error (Option Token) → Lexer → Prop where
  | ending (hgap : IsGap true l.input) : Finds l (.ok none) l.close
  | illegal {gap rest : List Char} {c : Char} (hinput : l.input = gap ++ c :: rest)
      (hgap : IsGap false gap) (hblank : isBlank c = false)
      (hnone : ∀ q k, Lexeme q k → ¬ q <+: c :: rest) :
      Finds l (.error (l.illegalAt (l.location.advance gap) c)) l.close
  | token {gap lexeme rest : List Char} {kind : Kind} (hinput : l.input = gap ++ (lexeme ++ rest))
      (hgap : IsGap false gap) (hlongest : Longest lexeme kind (lexeme ++ rest))
      (hne : lexeme ≠ ['/', '/']) :
      Finds l
        (.ok (some ⟨⟨String.ofList lexeme, kind⟩, spanAt (l.location.advance gap) lexeme⟩))
        { l with input := rest, location := l.location.advance (gap ++ lexeme) }

variable {t : SymbolTable}

lemma finds_nextAt (ht : t.Lexical) {l : Lexer} {gap text : List Char}
    (hinput : l.input = gap ++ text) (hgap : IsGap text.isEmpty gap)
    (hstops : ∀ c rest, text = c :: rest → isBlank c = false ∧ opensComment t c rest = false) :
    l.Finds (l.nextAt t (l.location.advance gap) text).answer
      (l.nextAt t (l.location.advance gap) text).lexer := by
  cases text with
  | nil =>
    rw [List.append_nil] at hinput
    exact .ending (hinput ▸ hgap)
  | cons c rest =>
    obtain ⟨hblank, hopens⟩ := hstops c rest rfl
    cases hread : Piece.read? t c rest with
    | none =>
      rw [nextAt_of_none hread]
      exact .illegal hinput hgap hblank fun q k hq => ht.no_lexeme_of_read? hread hq
    | some p =>
      have hlongest := ht.longest_of_read? hread
      obtain ⟨tail, htail⟩ := hlongest.isPrefix
      have hne : p.text ≠ ['/', '/'] := by
        intro heq
        have hcomment := (ht.opensComment_iff hblank).2 ⟨tail, by rw [← htail, heq]; rfl⟩
        simp [hopens] at hcomment
      have hsymbol := Piece.symbol_enter t p
      rw [nextAt_of_some hread, ← htail, List.drop_left, ← Location.advance_append, hsymbol]
      exact .token (htail ▸ hinput) hgap (htail ▸ hlongest) hne

/-- On a lexical table a lexer finds what there is to find. -/
theorem finds_next (ht : t.Lexical) {l : Lexer} (hopen : l.ended = false) :
    l.Finds (l.next t).answer (l.next t).lexer := by
  obtain ⟨gap, htext, hlocation, hgap⟩ := ht.exists_gap l.location l.input
  rw [next_of_open hopen, hlocation]
  exact finds_nextAt ht htext hgap fun c rest hrest => Trivia.rest_skip_stops t false _ hrest

end Lexer
end Lexis
