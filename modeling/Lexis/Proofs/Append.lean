import Lexis.Proofs.MaximalMunch

/-!
# Readings of texts one behind the other

Where no lexeme of a text reaches into what follows (`Text.Apart`), both are read one after the
other (`Munch.append`). That is so in front of a blank, and in front of a slash unless the text ends
with one. A text may end inside a comment, so it has to come to the same whether what follows is
read from its first character on or from its second line on.

Of what stands before a text its reading needs to know the place only (`Munch.of_after_eq`).
-/

namespace Lexis

open Character

/-! ### Lexemes that stay in front -/

/-- No lexeme that begins in a text reaches into what follows. -/
def Text.Apart (text tail : List Char) : Prop :=
  ∀ ⦃piece q : List Char⦄ ⦃kind : Kind⦄, piece <:+ text → piece ≠ [] → Lexeme q kind →
    q <+: piece ++ tail → q <+: piece

/-- What does not stay in front has the first character of what follows. -/
lemma isPrefix_append_of_not {q piece tail : List Char} {c : Char} (hpre : q <+: piece ++ c :: tail)
    (hnot : ¬ q <+: piece) : piece ++ [c] <+: q := by
  have hlonger : piece.length < q.length := by
    by_contra hle
    exact hnot (List.prefix_of_prefix_length_le hpre (List.prefix_append _ _) (Nat.not_lt.1 hle))
  have hnext : piece ++ [c] <+: piece ++ c :: tail := ⟨tail, by simp⟩
  exact List.prefix_of_prefix_length_le hnext hpre (by simpa using Nat.succ_le_of_lt hlonger)

/-- A slash is a mark, or it is in the mark that opens comments. -/
lemma Lexeme.eq_of_slash_mem {q : List Char} {kind : Kind} (h : Lexeme q kind) (hmem : '/' ∈ q) :
    q = ['/'] ∨ q = ['/', '/'] := by
  rcases h.cases_sort with hword | hnum | hmark
  · exact absurd (hword.isWordPart_of_mem hmem) (by decide +kernel)
  · exact absurd hmem (Numeral.slash_notMem hnum)
  · have hall : ∀ entry ∈ Vocabulary.marks, '/' ∈ entry.1.toList →
        entry.1.toList = ['/'] ∨ entry.1.toList = ['/', '/'] := by decide
    simpa using hall _ (Vocabulary.mem_of_kind? hmark) (by simpa using hmem)

namespace Text.Apart

variable {text tail : List Char}

lemma of_suffix {text' : List Char} (h : Apart text tail) (hsuffix : text' <:+ text) :
    Apart text' tail :=
  fun _ _ _ hpiece hne hq hpre => h (hpiece.trans hsuffix) hne hq hpre

lemma of_nil (text : List Char) : Apart text [] := by
  intro piece q kind _ _ _ hpre
  rwa [List.append_nil] at hpre

/-- A blank keeps lexemes apart. -/
lemma of_blank {c : Char} (hc : isBlank c = true) (text tail : List Char) :
    Apart text (c :: tail) := by
  intro piece q kind _ _ hq hpre
  by_contra hnot
  have hmem : c ∈ q := (isPrefix_append_of_not hpre hnot).subset (by simp)
  simp [hq.isBlank_of_mem hmem] at hc

/-- A slash keeps lexemes apart, unless there is a slash in front of it. -/
lemma of_slash (hlast : text.getLast? ≠ some '/') (tail : List Char) :
    Apart text ('/' :: tail) := by
  intro piece q kind hpiece hne hq hpre
  by_contra hnot
  have hreach := isPrefix_append_of_not hpre hnot
  have hmem : '/' ∈ q := hreach.subset (by simp)
  obtain ⟨init, c, rfl⟩ := (List.eq_nil_or_concat piece).resolve_left hne
  obtain ⟨front, rfl⟩ := hpiece
  have hc : c ≠ '/' := by simpa using hlast
  rcases hq.eq_of_slash_mem hmem with rfl | rfl
  · have hle := hreach.length_le
    simp at hle
  · have hmem' : c ∈ ['/', '/'] := hreach.subset (by simp)
    exact hc (by simpa using hmem')

end Text.Apart

/-- The longest lexeme of a text is the longest one whatever follows apart from it. -/
lemma Longest.append {lexeme piece tail : List Char} {kind : Kind} (h : Longest lexeme kind piece)
    (hapart : Text.Apart piece tail) : Longest lexeme kind (piece ++ tail) where
  isLexeme := h.isLexeme
  isPrefix := h.isPrefix.trans (List.prefix_append _ _)
  length_le := by
    intro q k hq hpre
    exact h.length_le q k hq (hapart List.suffix_rfl h.ne_nil hq hpre)

/-! ### One reading after the other -/

lemma Location.after_append_congr {before before' : List Char} (h : after before = after before')
    (text : List Char) : after (before ++ text) = after (before' ++ text) := by
  rw [← advance_after, h, advance_after]

namespace Munch

variable {file : String} {before before' text tail : List Char} {tokens others : List Token}
  {failure failure' : Option Error}

lemma eq_of_nil (h : Munch file before [] tokens failure) : tokens = [] ∧ failure = none :=
  h.unique .done

/-- Texts that lead to the same place are the same to a reading behind them. -/
theorem of_after_eq (h : Munch file before text tokens failure)
    (heq : Location.after before = Location.after before') :
    Munch file before' text tokens failure := by
  induction h generalizing before' with
  | done               => exact .done
  | blank hc _ ih      => exact .blank hc (ih (Location.after_append_congr heq _))
  | comment hlongest _ ih => exact .comment hlongest (ih (Location.after_append_congr heq _))
  | token hlongest hne _ ih =>
    rw [heq]
    exact .token hlongest hne (ih (Location.after_append_congr heq _))
  | illegal hblank hnone =>
    rw [heq]
    exact .illegal hblank hnone

/-- A text is read to its end or to its failure as if nothing followed. If it has not failed, the
reading goes on with what follows: from its first character on, or from its second line on if the
text ends inside a comment. -/
theorem append (h : Munch file before text tokens failure) (hapart : Text.Apart text tail)
    (hnew : failure = none → Munch file (before ++ text) tail others failure')
    (hline : failure = none →
      Munch file (before ++ text ++ Text.firstLine tail) (Text.afterLine tail) others failure') :
    Munch file before (text ++ tail) (tokens ++ if failure.isSome then [] else others)
      (failure.or failure') := by
  induction h with
  | done => simpa using hnew rfl
  | @blank before text c tokens failure hc _ ih =>
    rw [List.append_cons] at hnew hline
    exact .blank hc (ih (hapart.of_suffix (List.suffix_cons c text)) hnew hline)
  | @comment before text tokens failure hlongest hafter ih =>
    refine .comment (hlongest.append hapart) ?_
    have hsplit := Text.firstLine_append_afterLine text
    by_cases hfeed : '\n' ∈ text
    · -- the comment ends in the text
      obtain ⟨hfirst, hrest⟩ := Text.split_append_of_mem hfeed tail
      rw [hfirst, hrest]
      apply ih (hapart.of_suffix ⟨_, hsplit⟩)
      · rwa [List.append_assoc, hsplit]
      · rwa [List.append_assoc before, hsplit]
    · -- the comment goes on through the first line of what follows
      obtain ⟨hfirst, hrest⟩ := Text.split_append_of_notMem hfeed tail
      rw [(Text.split_lastLine hfeed).2] at hafter
      obtain ⟨rfl, rfl⟩ := hafter.eq_of_nil
      rw [hfirst, hrest, ← List.append_assoc]
      exact hline rfl
  | @token before text lexeme kind tokens failure hlongest hne _ ih =>
    have hlongest' := hlongest.append hapart
    obtain ⟨rest, rfl⟩ := hlongest.isPrefix
    rw [List.drop_left] at ih
    refine .token hlongest' hne ?_
    rw [List.append_assoc, List.drop_left]
    rw [← List.append_assoc] at hnew hline
    exact ih (hapart.of_suffix (List.suffix_append lexeme rest)) hnew hline
  | @illegal before text c hblank hnone =>
    refine .illegal hblank ?_
    intro q k hq hpre
    exact hnone q k hq (hapart List.suffix_rfl (List.cons_ne_nil c text) hq hpre)

end Munch

end Lexis
