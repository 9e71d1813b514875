import Lexis.Proofs.Line
import Lexis.Proofs.Longest

/-!
# Gaps between lexemes

A gap is blanks and comments in any order. A comment runs through its line feed; one that has none
can only be the last, and then the text ends with it. On a lexical table `Trivia.skip` drops a gap
(`Lexical.exists_gap`), and what follows it is neither a blank nor a comment.
-/

namespace Lexis

open Character

/-! ### The rest of a line -/

namespace Text

/-- The first line of a text, with its line feed if it has one. -/
def firstLine (text : List Char) : List Char :=
  text.takeWhile (· != '\n') ++ (text.dropWhile (· != '\n')).take 1

/-- What follows the first line of a text. -/
def afterLine (text : List Char) : List Char := (text.dropWhile (· != '\n')).drop 1

@[simp] lemma firstLine_lineFeed (rest : List Char) : firstLine ('\n' :: rest) = ['\n'] := by
  simp [firstLine]

@[simp] lemma afterLine_lineFeed (rest : List Char) : afterLine ('\n' :: rest) = rest := by
  simp [afterLine]

lemma firstLine_cons {c : Char} (h : c ≠ '\n') (rest : List Char) :
    firstLine (c :: rest) = c :: firstLine rest := by
  simp [firstLine, h]

lemma afterLine_cons {c : Char} (h : c ≠ '\n') (rest : List Char) :
    afterLine (c :: rest) = afterLine rest := by
  simp [afterLine, h]

lemma firstLine_append_afterLine (text : List Char) : firstLine text ++ afterLine text = text := by
  rw [firstLine, afterLine, List.append_assoc, List.take_append_drop,
    List.takeWhile_append_dropWhile]

lemma length_afterLine_le (text : List Char) : (afterLine text).length ≤ text.length := by
  conv_rhs => rw [← firstLine_append_afterLine text, List.length_append]
  exact Nat.le_add_left _ _

/-- The first line has a line feed at its end, or it is all there is. -/
lemma firstLine_cases (text : List Char) :
    (∃ body, '\n' ∉ body ∧ firstLine text = body ++ ['\n']) ∨
      ('\n' ∉ firstLine text ∧ afterLine text = []) := by
  induction text with
  | nil => exact Or.inr ⟨by simp [firstLine], rfl⟩
  | cons c rest ih =>
    by_cases hc : c = '\n'
    · subst hc
      exact Or.inl ⟨[], by simp, firstLine_lineFeed rest⟩
    · rw [firstLine_cons hc, afterLine_cons hc]
      rcases ih with ⟨body, hbody, hline⟩ | ⟨hline, hafter⟩
      · refine Or.inl ⟨c :: body, ?_, by rw [hline, List.cons_append]⟩
        exact List.not_mem_cons_of_ne_of_not_mem (Ne.symm hc) hbody
      · exact Or.inr ⟨List.not_mem_cons_of_ne_of_not_mem (Ne.symm hc) hline, hafter⟩

/-- In front of a line that goes on there is more of the first line. -/
lemma split_append_of_notMem {head : List Char} (h : '\n' ∉ head) (rest : List Char) :
    firstLine (head ++ rest) = head ++ firstLine rest ∧
      afterLine (head ++ rest) = afterLine rest := by
  have hline : ∀ c ∈ head, (c != '\n') = true := by
    intro c hc
    simpa using ne_of_mem_of_not_mem hc h
  constructor
  · rw [firstLine, firstLine, List.takeWhile_append_of_pos hline,
      List.dropWhile_append_of_pos hline, List.append_assoc]
  · rw [afterLine, afterLine, List.dropWhile_append_of_pos hline]

/-- What has a line feed in it has all of the first line. -/
lemma split_append_of_mem {head : List Char} (h : '\n' ∈ head) (rest : List Char) :
    firstLine (head ++ rest) = firstLine head ∧
      afterLine (head ++ rest) = afterLine head ++ rest := by
  induction head with
  | nil => simp at h
  | cons c head ih =>
    by_cases hc : c = '\n'
    · subst hc
      simp
    · have hmem : '\n' ∈ head := (List.mem_cons.1 h).resolve_left (Ne.symm hc)
      rw [List.cons_append, firstLine_cons hc, afterLine_cons hc, firstLine_cons hc,
        afterLine_cons hc, (ih hmem).1]
      exact ⟨rfl, (ih hmem).2⟩

lemma split_lastLine {body : List Char} (h : '\n' ∉ body) :
    firstLine body = body ∧ afterLine body = [] := by
  have hsplit := split_append_of_notMem h []
  rwa [List.append_nil, show firstLine [] = [] from rfl, List.append_nil] at hsplit

lemma split_line {body : List Char} (h : '\n' ∉ body) (rest : List Char) :
    firstLine (body ++ '\n' :: rest) = body ++ ['\n'] ∧
      afterLine (body ++ '\n' :: rest) = rest := by
  have hsplit := split_append_of_notMem h ('\n' :: rest)
  rwa [firstLine_lineFeed, afterLine_lineFeed] at hsplit

end Text

/-! ### Gaps -/

/-- Blanks and comments. A comment without a line feed needs the end of the text behind it. -/
inductive IsGap : Bool → List Char → Prop where
  | nil {atEnd : Bool} : IsGap atEnd []
  | blank {atEnd : Bool} {c : Char} {gap : List Char} (hc : isBlank c = true)
      (h : IsGap atEnd gap) : IsGap atEnd (c :: gap)
  | comment {atEnd : Bool} {body gap : List Char} (hbody : '\n' ∉ body) (h : IsGap atEnd gap) :
      IsGap atEnd ('/' :: '/' :: (body ++ '\n' :: gap))
  | lastComment {body : List Char} (hbody : '\n' ∉ body) : IsGap true ('/' :: '/' :: body)

/-- A comment runs through its line, or through the end of the text. -/
lemma IsGap.comment_firstLine {atEnd : Bool} {rest gap : List Char} (h : IsGap atEnd gap)
    (hend : Text.afterLine rest = [] → gap = [] ∧ atEnd = true) :
    IsGap atEnd ('/' :: '/' :: (Text.firstLine rest ++ gap)) := by
  rcases Text.firstLine_cases rest with ⟨body, hbody, hline⟩ | ⟨hline, hafter⟩
  · rw [hline, List.append_assoc]
    exact .comment hbody h
  · obtain ⟨rfl, rfl⟩ := hend hafter
    rw [List.append_nil]
    exact .lastComment hline

lemma isMark_comment : IsMark ['/', '/'] .comment := by
  rw [IsMark]
  decide

lemma eq_of_isMark_comment {text : List Char} (h : IsMark text .comment) : text = ['/', '/'] := by
  have hall : ∀ entry ∈ Vocabulary.marks, entry.2 = .comment → entry.1.toList = ['/', '/'] := by
    decide
  simpa using hall _ (Vocabulary.mem_of_kind? h) rfl

namespace SymbolTable.Lexical

variable {t : SymbolTable} {c : Char} {rest : List Char}

/-- On a lexical table two slashes open a comment, and nothing else does. -/
lemma opensComment_iff (h : t.Lexical) (hblank : isBlank c = false) :
    opensComment t c rest = true ↔ ∃ ds, c :: rest = '/' :: '/' :: ds := by
  constructor
  · intro hopens
    simp only [opensComment, Bool.and_eq_true, Bool.not_eq_true', Option.any_eq_true,
      beq_iff_eq] at hopens
    obtain ⟨⟨hword, hnum⟩, s, hpair, hkind⟩ := hopens
    cases rest with
    | nil => simp [pairAt] at hpair
    | cons d ds =>
      have hnum' : Numeral.starts c [d] = false := hnum
      have hmark := h.isMark_of_lookup (by simp [isProbe, hblank, hword, hnum']) hpair
      rw [hkind] at hmark
      obtain ⟨rfl, rfl⟩ : c = '/' ∧ d = '/' := by simpa using eq_of_isMark_comment hmark
      exact ⟨ds, rfl⟩
  · rintro ⟨ds, heq⟩
    obtain ⟨rfl, rfl⟩ := List.cons.inj heq
    have hword : isWordStart '/' = false := isWordStart_of_isProbe isMark_comment.isProbe
    have hpair : pairAt t '/' ('/' :: ds) = some ⟨String.ofList ['/', '/'], .comment⟩ :=
      h.lookup_mark isMark_comment
    simp [opensComment, hword, hpair, Numeral.starts, Char.isDigit]

end SymbolTable.Lexical

namespace Trivia

variable {t : SymbolTable}

/-- Inside a comment everything through the next line feed is dropped. -/
lemma skip_inside_eq (t : SymbolTable) (l : Location) (text : List Char) :
    skip t true l text = skip t false (l.advance (Text.firstLine text)) (Text.afterLine text) := by
  induction text generalizing l with
  | nil => rfl
  | cons c rest ih =>
    by_cases hc : c = '\n'
    · subst hc
      simp
    · have hinside : (c != '\n') = true := by simpa using hc
      rw [skip_inside, hinside, ih, Text.firstLine_cons hc, Text.afterLine_cons hc,
        Location.advance_cons]

end Trivia

/-- On a lexical table blanks and comments are dropped, and nothing else. -/
theorem SymbolTable.Lexical.exists_gap {t : SymbolTable} (h : t.Lexical) (l : Location)
    (text : List Char) :
    ∃ gap, text = gap ++ (Trivia.skip t false l text).rest ∧
      (Trivia.skip t false l text).location = l.advance gap ∧
      IsGap (Trivia.skip t false l text).rest.isEmpty gap := by
  match text with
  | [] => exact ⟨[], by simp, by simp, .nil⟩
  | c :: rest =>
    cases hblank : isBlank c with
    | true =>
      rw [Trivia.skip_blank hblank]
      obtain ⟨gap, htext, hlocation, hgap⟩ := exists_gap h (l.next c) rest
      exact ⟨c :: gap, by rw [List.cons_append, ← htext], hlocation, .blank hblank hgap⟩
    | false =>
      cases hopens : opensComment t c rest with
      | true =>
        -- the comment takes its line, and the gap goes on behind it
        rw [Trivia.skip_comment hblank hopens, Trivia.skip_inside_eq]
        obtain ⟨gap, htext, hlocation, hgap⟩ :=
          exists_gap h ((l.next c).advance (Text.firstLine rest)) (Text.afterLine rest)
        refine ⟨c :: (Text.firstLine rest ++ gap), ?_, ?_, ?_⟩
        · rw [List.cons_append, List.append_assoc, ← htext, Text.firstLine_append_afterLine]
        · rw [hlocation, ← Location.advance_append, ← Location.advance_cons]
        · obtain ⟨ds, heq⟩ := (h.opensComment_iff hblank).1 hopens
          obtain ⟨rfl, rfl⟩ := List.cons.inj heq
          rw [Text.firstLine_cons (by decide), List.cons_append]
          apply hgap.comment_firstLine
          intro hafter
          rw [Text.afterLine_cons (by decide), hafter] at htext ⊢
          exact ⟨(List.append_eq_nil_iff.1 htext.symm).1, by simp⟩
      | false =>
        rw [Trivia.skip_stop hblank hopens]
        exact ⟨[], rfl, rfl, .nil⟩
termination_by text.length
decreasing_by
  · exact Nat.lt_add_one_of_le (Text.length_afterLine_le rest)
  · exact Nat.lt_add_one _

end Lexis
