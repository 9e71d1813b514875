import Lexis.Proofs.Append

/-!
# Offsets

The offset of a place counts the characters in front of it, those of the lines above and those of
its own line. In a text that goes on behind `before` the place behind `before` has the length of
`before` as its offset (`Text.offset_after`), so nothing that is read there has a smaller one
(`Munch.late`).
-/

namespace Lexis

/-- The number of characters in front of a place. -/
def Text.offset (text : List Char) (l : Location) : Nat :=
  ((lines text).take (l.line - 1)).flatten.length + l.column

/-- The offset of the last character of a token. -/
def Token.lastOffset (text : List Char) (token : Token) : Nat :=
  Text.offset text ⟨token.span.line, token.span.last⟩

/-- Behind a text its length is the offset. -/
theorem Text.offset_after (before rest : List Char) :
    offset (before ++ rest) (Location.after before) = before.length := by
  have hsplit : before ++ rest = closedLines before ++ (openLine before ++ rest) := by
    rw [← List.append_assoc, closedLines_append_openLine]
  have habove : (lines (before ++ rest)).take (before.count '\n') = lines (closedLines before) := by
    rw [hsplit, lines_closedLines_append, ← length_lines_closedLines, List.take_left]
  rw [offset, Location.after, Nat.add_sub_cancel, habove, flatten_lines, ← List.length_append,
    closedLines_append_openLine]

lemma Token.lastOffset_spanAt (before : List Char) {lexeme : List Char} (hne : lexeme ≠ [])
    (rest : List Char) (symbol : Symbol) :
    lastOffset (before ++ rest) ⟨symbol, Lexer.spanAt (Location.after before) lexeme⟩ + 1 =
      before.length + lexeme.length := by
  have hpos := List.length_pos_iff.2 hne
  have hoffset := Text.offset_after before rest
  simp only [Text.offset] at hoffset
  simp only [lastOffset, Text.offset, Lexer.spanAt]
  omega

namespace Munch

/-- No token ends in front of an offset, and no error is there. -/
structure Late (source : List Char) (n : Nat) (tokens : List Token) (failure : Option Error) :
    Prop where
  le_lastOffset : ∀ token ∈ tokens, n ≤ token.lastOffset source
  le_offset : ∀ e, failure = some e → n ≤ Text.offset source e.position.toLocation

variable {file : String} {before text lexeme : List Char} {kind : Kind} {tokens : List Token}
  {failure : Option Error}

lemma Late.mono {source : List Char} {n n' : Nat} (h : Late source n tokens failure)
    (hle : n' ≤ n) : Late source n' tokens failure where
  le_lastOffset token htoken := Nat.le_trans hle (h.le_lastOffset token htoken)
  le_offset e he := Nat.le_trans hle (h.le_offset e he)

/-- A lexeme ends where it ends, and what follows it is behind. -/
lemma Late.cons (hlongest : Longest lexeme kind text)
    (h : Late (before ++ lexeme ++ text.drop lexeme.length) (before ++ lexeme).length tokens
      failure) (symbol : Symbol) :
    Late (before ++ text) (before.length + lexeme.length - 1)
      (⟨symbol, Lexer.spanAt (Location.after before) lexeme⟩ :: tokens) failure := by
  obtain ⟨rest, rfl⟩ := hlongest.isPrefix
  have hlast := Token.lastOffset_spanAt before hlongest.isLexeme.ne_nil
    (lexeme ++ rest) symbol
  rw [List.drop_left, List.append_assoc, List.length_append] at h
  have hothers := h.mono (Nat.sub_le _ 1)
  refine ⟨List.forall_mem_cons.2 ⟨?_, hothers.le_lastOffset⟩, hothers.le_offset⟩
  omega

/-- A token ends in the text. -/
theorem lastOffset_lt (h : Munch file before text tokens failure) :
    ∀ token ∈ tokens, token.lastOffset (before ++ text) < (before ++ text).length := by
  induction h with
  | done | illegal _ _ => simp
  | @blank before rest c _ _ _ _ ih =>
    rwa [List.append_assoc, List.singleton_append] at ih
  | @comment before text _ _ _ _ ih =>
    rwa [List.append_assoc, Text.firstLine_append_afterLine] at ih
  | @token before text lexeme kind _ _ hlongest _ _ ih =>
    obtain ⟨rest, rfl⟩ := hlongest.isPrefix
    have hlast := Token.lastOffset_spanAt before hlongest.isLexeme.ne_nil
      (lexeme ++ rest) ⟨String.ofList lexeme, kind⟩
    rw [List.drop_left, List.append_assoc] at ih
    refine List.forall_mem_cons.2 ⟨?_, ih⟩
    rw [List.length_append, List.length_append]
    omega

/-- Nothing is found in front of the text that is read. -/
theorem late (h : Munch file before text tokens failure) :
    Late (before ++ text) before.length tokens failure := by
  induction h with
  | done => exact ⟨by simp, by simp⟩
  | @blank before rest c _ _ _ _ ih =>
    rw [List.append_assoc, List.singleton_append] at ih
    exact ih.mono (by simp)
  | @comment before text _ _ _ _ ih =>
    rw [List.append_assoc, Text.firstLine_append_afterLine] at ih
    exact ih.mono (by simp)
  | @token before text lexeme kind _ _ hlongest _ _ ih =>
    have hpos := List.length_pos_iff.2 hlongest.isLexeme.ne_nil
    exact (ih.cons hlongest _).mono (by omega)
  | @illegal before rest c _ _ =>
    refine ⟨by simp, ?_⟩
    rintro e ⟨⟩
    exact Nat.le_of_eq (Text.offset_after before (c :: rest)).symm

end Munch

end Lexis
