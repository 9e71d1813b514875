import Lexis.Proofs.Registering

/-!
# The kinds of lexemes

The characters of a lexeme settle its kind (`Kind.ofLexeme`, `Lexeme.kind_eq`): it is what the fixed
vocabulary says, and otherwise that of a word or a numeral (`Lexeme.cases_kind`). So only numerals
are literals (`Lexeme.isNumeral_of_isLiteral`), and only two slashes open a comment
(`Lexeme.kind_ne`).
-/

namespace Lexis

open Character

/-- The kind that the characters of a lexeme settle: what the fixed vocabulary says, and otherwise
that of a word or a numeral. -/
def Kind.ofLexeme (lexeme : String) : Kind :=
  (Vocabulary.fixed.kind? lexeme).getD
    (if IsWord lexeme.toList then .identifier else .literal (Numeral.classify lexeme.toList))

lemma Vocabulary.isOpen_of_mem_fixed {word : String × Kind} (h : word ∈ Vocabulary.fixed) :
    word.2.isOpen = false := by
  have hall : ∀ word ∈ Vocabulary.fixed, word.2.isOpen = false := by decide
  exact hall word h

lemma Vocabulary.isWord_of_reserved {text : List Char} {kind : Kind}
    (h : Vocabulary.reserved.kind? (String.ofList text) = some kind) : IsWord text := by
  obtain ⟨word, -, hword⟩ := List.mem_map.1 (mem_of_kind? h)
  have hisWord := SymbolTable.isWord_spelling word
  rwa [(Prod.mk.inj hword).1, String.toList_ofList] at hisWord

namespace Lexeme

variable {text : List Char} {kind : Kind}

/-- What is neither a reserved word nor a mark is not in the fixed vocabulary. -/
lemma kind?_fixed_eq_none (hreserved : Vocabulary.reserved.kind? (String.ofList text) = none)
    (hmark : ∀ kind, ¬ IsMark text kind) : Vocabulary.fixed.kind? (String.ofList text) = none := by
  rw [Vocabulary.fixed, Vocabulary.kind?_append, hreserved, Option.none_or,
    Option.eq_none_iff_forall_not_mem]
  exact hmark

/-- The kind of a lexeme is settled by its characters. -/
theorem kind_eq (h : Lexeme text kind) : kind = Kind.ofLexeme (String.ofList text) := by
  rw [Kind.ofLexeme, String.toList_ofList]
  cases h with
  | keyword _ hkind =>
    rw [Vocabulary.fixed, Vocabulary.kind?_append, hkind]
    rfl
  | identifier hword hkind =>
    rw [kind?_fixed_eq_none hkind hword.not_isMark, if_pos hword]
    rfl
  | numeral hnum =>
    have hword : ¬ IsWord text := fun hword => hword.not_isNumeral hnum
    have hkind : Vocabulary.reserved.kind? (String.ofList text) = none := by
      rw [Option.eq_none_iff_forall_not_mem]
      exact fun kind hkind => hword (Vocabulary.isWord_of_reserved hkind)
    rw [kind?_fixed_eq_none hkind hnum.not_isMark, if_neg hword]
    rfl
  | mark hmark =>
    rw [Vocabulary.fixed, Vocabulary.kind?_append,
      Vocabulary.kind?_reserved_of_isProbe hmark.isProbe, Option.none_or, hmark]
    rfl

/-- A lexeme is in the fixed vocabulary, or it is another word or a numeral. -/
lemma cases_kind (h : Lexeme text kind) :
    (String.ofList text, kind) ∈ Vocabulary.fixed ∨ IsWord text ∧ kind = .identifier ∨
      IsNumeral text ∧ kind = .literal (Numeral.classify text) := by
  cases h with
  | keyword _ hkind    => exact Or.inl (List.mem_append_left _ (Vocabulary.mem_of_kind? hkind))
  | identifier hword _ => exact Or.inr (Or.inl ⟨hword, rfl⟩)
  | numeral hnum       => exact Or.inr (Or.inr ⟨hnum, rfl⟩)
  | mark hmark         => exact Or.inl (List.mem_append_right _ (Vocabulary.mem_of_kind? hmark))

/-- Two slashes alone open a comment, and no lexeme has the kind of nothing. -/
lemma kind_ne (h : Lexeme text kind) (hne : text ≠ ['/', '/']) :
    kind ≠ .comment ∧ kind ≠ .bogus := by
  rcases h.cases_kind with hmem | ⟨-, rfl⟩ | ⟨-, rfl⟩
  · have hall : ∀ word ∈ Vocabulary.fixed,
        (word.2 = .comment → word.1.toList = ['/', '/']) ∧ word.2 ≠ .bogus := by decide
    obtain ⟨hcomment, hbogus⟩ := hall _ hmem
    rw [String.toList_ofList] at hcomment
    exact ⟨fun heq => hne (hcomment heq), hbogus⟩
  · decide
  · simp

/-- Only numerals are literals. -/
lemma isNumeral_of_isLiteral (h : Lexeme text kind) (hkind : kind.isLiteral = true) :
    IsNumeral text := by
  rcases h.cases_kind with hmem | ⟨-, rfl⟩ | ⟨hnum, -⟩
  · have hopen : kind.isOpen = true := by simp [Kind.isOpen, hkind]
    exact absurd hopen (by simp [Vocabulary.isOpen_of_mem_fixed hmem])
  · cases hkind
  · exact hnum

/-- What begins with a digit or with a point is a numeral. -/
lemma isNumeral_of_head {c : Char} (h : Lexeme text kind) (hc : c ∈ text.head?)
    (hnum : c.isDigit = true ∨ c = '.') : IsNumeral text := by
  obtain ⟨rest, rfl⟩ := List.head?_eq_some_iff.1 hc
  rcases h.cases_sort with hword | hnumeral | hmark
  · have hstart : isWordStart c = false := by
      rcases hnum with hdigit | rfl
      · exact isWordStart_of_isDigit hdigit
      · decide
    exact absurd hword.1 (by simp [hstart])
  · exact hnumeral
  · obtain ⟨hdigit, hpoint⟩ := hmark.head
    rcases hnum with h | h
    · exact absurd h (by simp [hdigit])
    · exact absurd h hpoint

end Lexeme

end Lexis
