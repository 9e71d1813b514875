import Lexis.Proofs.Step

/-!
# Maximal munch

`Munch file before text tokens failure` is a reading of `text`, which stands behind `before` in the
file: blanks are dropped, the longest lexeme is taken, two slashes drop the line that they open, and
any other lexeme is a token. Places are told from `before` alone, with no counting along the way.

Scanning a source is this reading and no other one. One step of a lexer takes a gap and what is
behind it (`Munch.gap`), draining repeats it (`munch_drain`), and there is only one reading of a
text (`Munch.unique`).
-/

namespace Lexis

open Character

/-- A reading by the longest lexemes. -/
inductive Munch (file : String) :
    List Char → List Char → List Token → Option Error → Prop where
  /-- Nothing is left. -/
  | done {before : List Char} : Munch file before [] [] none
  /-- A blank is dropped. -/
  | blank {before rest : List Char} {c : Char} {tokens : List Token} {failure : Option Error}
      (hc : isBlank c = true) (h : Munch file (before ++ [c]) rest tokens failure) :
      Munch file before (c :: rest) tokens failure
  /-- A comment is dropped through its line feed, or through the end of the text. -/
  | comment {before text : List Char} {tokens : List Token} {failure : Option Error}
      (hlongest : Longest ['/', '/'] .comment text)
      (h : Munch file (before ++ Text.firstLine text) (Text.afterLine text) tokens failure) :
      Munch file before text tokens failure
  /-- The longest lexeme is a token. -/
  | token {before text lexeme : List Char} {kind : Kind} {tokens : List Token}
      {failure : Option Error} (hlongest : Longest lexeme kind text) (hne : lexeme ≠ ['/', '/'])
      (h : Munch file (before ++ lexeme) (text.drop lexeme.length) tokens failure) :
      Munch file before text
        (⟨⟨String.ofList lexeme, kind⟩, Lexer.spanAt (Location.after before) lexeme⟩ :: tokens)
        failure
  /-- A character that begins no lexeme ends the reading. -/
  | illegal {before rest : List Char} {c : Char} (hblank : isBlank c = false)
      (hnone : ∀ q k, Lexeme q k → ¬ q <+: c :: rest) :
      Munch file before (c :: rest) []
        (some ⟨.illegalLexeme (String.ofList [c]), ⟨Location.after before, file⟩⟩)

lemma Longest.ne_nil {lexeme text : List Char} {kind : Kind} (h : Longest lexeme kind text) :
    text ≠ [] := by
  rintro rfl
  exact h.isLexeme.ne_nil (List.prefix_nil.1 h.isPrefix)

namespace Munch

variable {file : String} {before text : List Char} {tokens tokens' : List Token}
  {failure failure' : Option Error}

/-- A gap is dropped; what reaches the end of the text has nothing behind it. -/
lemma gap {atEnd : Bool} {gap rest : List Char} (hgap : IsGap atEnd gap)
    (hend : atEnd = true → rest = []) (h : Munch file (before ++ gap) rest tokens failure) :
    Munch file before (gap ++ rest) tokens failure := by
  induction hgap generalizing before with
  | nil => rwa [List.append_nil] at h
  | @blank _ c gap hc _ ih =>
    refine .blank hc (ih hend ?_)
    rwa [List.append_assoc, List.singleton_append]
  | @comment _ body gap hbody _ ih =>
    have hbody' : '\n' ∉ '/' :: '/' :: body := by simpa using hbody
    obtain ⟨hline, hafter⟩ := Text.split_line hbody' (gap ++ rest)
    simp only [List.cons_append, List.append_assoc] at hline hafter h ⊢
    refine .comment (longest_comment _) ?_
    rw [hline, hafter]
    exact ih hend (by simpa using h)
  | @lastComment body hbody =>
    have hbody' : '\n' ∉ '/' :: '/' :: body := by simpa using hbody
    obtain ⟨hline, hafter⟩ := Text.split_lastLine hbody'
    obtain rfl := hend rfl
    rw [List.append_nil]
    refine .comment (longest_comment _) ?_
    rwa [hline, hafter]

/-- There is only one reading of a text. -/
theorem unique (h : Munch file before text tokens failure)
    (h' : Munch file before text tokens' failure') : tokens = tokens' ∧ failure = failure' := by
  -- at most one rule applies to a text, as it has only one longest lexeme
  induction h generalizing tokens' failure' with
  | done =>
    cases h' with
    | done                 => exact ⟨rfl, rfl⟩
    | comment hlongest' _  => exact absurd rfl hlongest'.ne_nil
    | token hlongest' _ _  => exact absurd rfl hlongest'.ne_nil
  | blank hc _ ih =>
    cases h' with
    | blank _ h'                                    => exact ih h'
    | comment hlongest' _ | token hlongest' _ _     => simp [hlongest'.isBlank_of_head] at hc
    | illegal hblank' _                             => simp [hblank'] at hc
  | comment hlongest _ ih =>
    cases h' with
    | done                   => exact absurd rfl hlongest.ne_nil
    | blank hc' _            => simp [hlongest.isBlank_of_head] at hc'
    | comment _ h'           => exact ih h'
    | token hlongest' hne' _ => exact absurd (hlongest'.unique hlongest).1 hne'
    | illegal _ hnone'       => exact absurd hlongest.isPrefix (hnone' _ _ hlongest.isLexeme)
  | token hlongest hne _ ih =>
    cases h' with
    | done                => exact absurd rfl hlongest.ne_nil
    | blank hc' _         => simp [hlongest.isBlank_of_head] at hc'
    | comment hlongest' _ => exact absurd (hlongest.unique hlongest').1 hne
    | token hlongest' _ h' =>
      obtain ⟨rfl, rfl⟩ := hlongest.unique hlongest'
      obtain ⟨rfl, rfl⟩ := ih h'
      exact ⟨rfl, rfl⟩
    | illegal _ hnone' => exact absurd hlongest.isPrefix (hnone' _ _ hlongest.isLexeme)
  | illegal hblank hnone =>
    cases h' with
    | blank hc' _ => simp [hblank] at hc'
    | comment hlongest' _ | token hlongest' _ _ =>
      exact absurd hlongest'.isPrefix (hnone _ _ hlongest'.isLexeme)
    | illegal _ _ => exact ⟨rfl, rfl⟩

end Munch

/-! ### Lexers munch -/

/-- Draining an open lexer munches its input. -/
theorem Lexer.munch_drain (l : Lexer) {t : SymbolTable} (ht : t.Lexical) (hopen : l.ended = false)
    (before : List Char) (hplace : l.location = Location.after before) :
    Munch l.file before l.input (l.drain t).tokens (l.drain t).failure := by
  have hfinds := finds_next ht hopen
  generalize hanswer : (l.next t).answer = answer at hfinds
  generalize hlexer : (l.next t).lexer = l' at hfinds
  cases hfinds with
  | ending hgap =>
    rw [drain_of_none hanswer, ← List.append_nil l.input]
    exact .gap hgap (fun _ => rfl) .done
  | @illegal gap rest c hinput hgap hblank hnone =>
    rw [drain_of_error hanswer, hinput, hplace, Location.advance_after]
    exact .gap hgap (by simp) (.illegal hblank hnone)
  | @token gap lexeme rest kind hinput hgap hlongest hne =>
    -- what is left stands behind what was taken, and that is where the lexer is
    have hshorter := next_shortens hanswer
    have hrest := munch_drain (l.next t).lexer (next_of_lexical ht ht l).2 (by rw [hlexer, hopen])
      (before ++ gap ++ lexeme) (by simp [hlexer, hplace, -Location.advance_append])
    rw [drain_of_some hanswer, hinput, hplace, Location.advance_after]
    refine .gap hgap (by simp) (.token hlongest hne ?_)
    rw [List.drop_left]
    rwa [hlexer] at hrest ⊢
termination_by l.input.length

/-- Every text has a reading, wherever it stands. -/
lemma exists_munch (file : String) (before text : List Char) :
    ∃ tokens failure, Munch file before text tokens failure :=
  ⟨_, _, Lexer.munch_drain ⟨file, text, Location.after before, false⟩ SymbolTable.lexical_seeded
    rfl before rfl⟩

lemma munch_scan (source : String) (file? : Option String) :
    Munch (file?.getD defaultFile) [] source.toList (scan source file?).tokens
      (scan source file?).failure :=
  (Lexer.ofSource source file?).munch_drain SymbolTable.lexical_seeded rfl [] rfl

/-- Scanning a source gives the reading by the longest lexemes, and no other tokens and errors. -/
theorem scan_iff_munch (source : String) (file? : Option String) (tokens : List Token)
    (failure : Option Error) :
    ((scan source file?).tokens = tokens ∧ (scan source file?).failure = failure) ↔
      Munch (file?.getD defaultFile) [] source.toList tokens failure := by
  constructor
  · rintro ⟨rfl, rfl⟩
    exact munch_scan source file?
  · intro h
    exact (munch_scan source file?).unique h

end Lexis
