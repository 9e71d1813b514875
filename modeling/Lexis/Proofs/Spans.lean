import Lexis.Proofs.Step

/-!
# Where tokens stand

The tokens that a lexer emits lie in the source one behind the other, with gaps between them, and
each stands where its span says: `Layout before text tokens rest` says so of a `text` that goes on
behind `before`. Every emission is laid out in this way (`Emits.layout`), whatever lexers have done
to the table between two calls. From the layout alone follow the lexeme in its line
(`Layout.locates`), the order of the spans (`Layout.pairwise`) and the gaps (`Layout.exists_gaps`).
-/

namespace Lexis

open Character

/-! ### The order of places -/

namespace Location

/-- Not behind another place. -/
def Precedes (l l' : Location) : Prop :=
  l.line < l'.line ∨ l.line = l'.line ∧ l.column ≤ l'.column

lemma Precedes.trans {l l' l'' : Location} (h : l.Precedes l') (h' : l'.Precedes l'') :
    l.Precedes l'' := by
  unfold Precedes at h h' ⊢
  omega

lemma precedes_next (l : Location) (c : Char) : l.Precedes (l.next c) := by
  unfold next
  split
  · exact Or.inl (Nat.lt_succ_self _)
  · exact Or.inr ⟨rfl, Nat.le_succ _⟩

lemma precedes_advance (l : Location) (text : List Char) : l.Precedes (l.advance text) := by
  induction text generalizing l with
  | nil            => exact Or.inr ⟨rfl, Nat.le_refl _⟩
  | cons c rest ih => exact (l.precedes_next c).trans (ih (l.next c))

lemma precedes_after_append (before text : List Char) :
    (after before).Precedes (after (before ++ text)) := by
  rw [← advance_after]
  exact precedes_advance _ _

lemma after_append_of_notMem {text : List Char} (h : '\n' ∉ text) (before : List Char) :
    after (before ++ text) =
      ⟨(after before).line, (after before).column + text.length⟩ := by
  rw [← advance_after, advance_of_notMem h]

end Location

/-- All columns of a span are in front of those of another. -/
def Span.Before (s s' : Span) : Prop := s.line < s'.line ∨ s.line = s'.line ∧ s.last < s'.first

/-- The place of the first column. -/
def Span.start (s : Span) : Location := ⟨s.line, s.first⟩

/-! ### Emissions and layouts -/

/-- The tokens that a lexer emits, one call after the other, and the lexer after them. At each call
the table may be any that lexers alone have written to. -/
inductive Lexer.Emits : Lexer → List Token → Lexer → Prop where
  | nil {l : Lexer} : Emits l [] l
  | next {l l' : Lexer} {t : SymbolTable} {token : Token} {tokens : List Token}
      (ht : t.LexersOnly) (hanswer : (l.next t).answer = .ok (some token))
      (hrest : Emits (l.next t).lexer tokens l') : Emits l (token :: tokens) l'

/-- Tokens with a gap in front of each. -/
inductive Layout : List Char → List Char → List Token → List Char → Prop where
  | nil {before rest : List Char} : Layout before rest [] rest
  | token {before gap lexeme text rest : List Char} {kind : Kind} {tokens : List Token}
      (hgap : IsGap false gap) (hlexeme : Lexeme lexeme kind)
      (h : Layout (before ++ gap ++ lexeme) text tokens rest) :
      Layout before (gap ++ (lexeme ++ text))
        (⟨⟨String.ofList lexeme, kind⟩, Lexer.spanAt (Location.after (before ++ gap)) lexeme⟩ ::
          tokens) rest

/-- The tokens that are emitted lie in the input, in front of what is not scanned yet. -/
theorem Lexer.Emits.layout {l l' : Lexer} {tokens : List Token} (h : l.Emits tokens l')
    (hopen : l.ended = false) (before : List Char) (hplace : l.location = Location.after before) :
    Layout before l.input tokens l'.input ∧ l'.ended = false := by
  induction h generalizing before with
  | nil => exact ⟨.nil, hopen⟩
  | @next l l' t token tokens ht hanswer _ ih =>
    have hfinds := finds_next ht.lexical hopen
    rw [hanswer] at hfinds
    generalize (l.next t).lexer = l'' at hfinds ih
    cases hfinds with
    | @token gap lexeme rest kind hinput hgap hlongest hne =>
      rw [hplace, Location.advance_after] at ih ⊢
      obtain ⟨hrest, hopen'⟩ := ih hopen (before ++ gap ++ lexeme) (by rw [List.append_assoc])
      rw [hinput]
      exact ⟨.token hgap hlongest.isLexeme hrest, hopen'⟩

/-! ### What a layout says -/

/-- The token is what the source has in its line, from its first through its last column. -/
structure Token.Locates (token : Token) (source : String) : Prop where
  inLine : ∃ line, Text.lineAt? source token.span.line = some line ∧
    token.span.last < line.length ∧
    (line.toList.take (token.span.last + 1)).drop token.span.first = token.lexeme.toList
  first_le : token.span.first ≤ token.span.last
  length_eq : token.span.last - token.span.first + 1 = token.lexeme.length
  lineFeed_notMem : '\n' ∉ token.lexeme.toList

lemma locates_of_split {source : String} {before lexeme rest : List Char} {kind : Kind}
    (hsource : source.toList = before ++ lexeme ++ rest) (h : Lexeme lexeme kind) :
    Token.Locates ⟨⟨String.ofList lexeme, kind⟩, Lexer.spanAt (Location.after before) lexeme⟩
      source := by
  have hpos := List.length_pos_iff.2 h.ne_nil
  obtain ⟨tail, hline⟩ := Text.lineAt?_of_split hsource h.ne_nil fun c hc =>
    Text.isBreak_of_isBlank (h.isBlank_of_mem hc)
  have hlast : (Text.openLine before).length + lexeme.length - 1 + 1 =
      (Text.openLine before ++ lexeme).length := by
    rw [List.length_append]
    omega
  refine ⟨⟨_, hline, ?_, ?_⟩, ?_, ?_, ?_⟩
  · simp only [Lexer.spanAt, Location.after, String.length_ofList, List.length_append]
    omega
  · simp only [Lexer.spanAt, Location.after, Token.lexeme, String.toList_ofList]
    rw [hlast, List.take_left, List.drop_left]
  · simp only [Lexer.spanAt]
    omega
  · simp only [Lexer.spanAt, Token.lexeme, String.length_ofList]
    omega
  · rw [Token.lexeme, String.toList_ofList]
    exact h.lineFeed_notMem

namespace Layout

variable {before text rest : List Char} {tokens : List Token}

theorem locates {source : String} (h : Layout before text tokens rest)
    (hsource : source.toList = before ++ text) : ∀ token ∈ tokens, token.Locates source := by
  induction h with
  | nil => simp
  | token hgap hlexeme _ ih =>
    rw [← List.append_assoc, ← List.append_assoc] at hsource
    refine List.forall_mem_cons.2 ⟨locates_of_split hsource hlexeme, ih ?_⟩
    simpa only [List.append_assoc] using hsource

/-- No token is in front of the place where the layout starts. -/
lemma precedes (h : Layout before text tokens rest) :
    ∀ token ∈ tokens, (Location.after before).Precedes token.span.start := by
  induction h with
  | nil => simp
  | @token before gap lexeme _ _ _ _ _ _ _ ih =>
    have hgap := Location.precedes_after_append before gap
    have hlexeme := Location.precedes_after_append (before ++ gap) lexeme
    refine List.forall_mem_cons.2 ⟨hgap, ?_⟩
    intro token htoken
    exact (hgap.trans hlexeme).trans (ih token htoken)

/-- Every token is in front of those that come later. -/
theorem pairwise (h : Layout before text tokens rest) :
    tokens.Pairwise fun token token' => token.span.Before token'.span := by
  induction h with
  | nil => exact .nil
  | @token before gap lexeme _ _ _ _ _ hlexeme h ih =>
    refine List.pairwise_cons.2 ⟨?_, ih⟩
    intro token htoken
    -- later tokens are not in front of the end of this lexeme
    have hpos := List.length_pos_iff.2 hlexeme.ne_nil
    have hplace := h.precedes token htoken
    rw [Location.after_append_of_notMem hlexeme.lineFeed_notMem] at hplace
    simp only [Location.Precedes, Span.start] at hplace
    simp only [Span.Before, Lexer.spanAt]
    omega

/-- Besides the lexemes the text has nothing but gaps, and what is not laid out. -/
theorem exists_gaps (h : Layout before text tokens rest) :
    ∃ gaps : List (List Char), gaps.length = tokens.length ∧ (∀ gap ∈ gaps, IsGap false gap) ∧
      text = (List.zipWith (fun gap token => gap ++ token.lexeme.toList) gaps tokens).flatten ++
        rest := by
  induction h with
  | nil => exact ⟨[], rfl, by simp, rfl⟩
  | @token _ gap lexeme text rest kind tokens hgap _ _ ih =>
    obtain ⟨gaps, hlength, hgaps, htext⟩ := ih
    refine ⟨gap :: gaps, by simp [hlength], List.forall_mem_cons.2 ⟨hgap, hgaps⟩, ?_⟩
    rw [List.zipWith_cons_cons, List.flatten_cons, List.append_assoc, ← htext, Token.lexeme,
      String.toList_ofList, List.append_assoc]

end Layout

/-- Spans locate lexemes, in order and without overlap, and nothing is lost. However far a source is
scanned on tables that belong to lexers, each token is found in the source by its span, in front of
all later ones. The tokens are laid out in the source where their spans say, so between them are
gaps only; if the source ends there, so is the rest. -/
theorem spans_of_emits (source : String) (file? : Option String) {tokens : List Token} {l : Lexer}
    (h : (Lexer.ofSource source file?).Emits tokens l) :
    (∀ token ∈ tokens, token.Locates source) ∧
      tokens.Pairwise (fun token token' => token.span.Before token'.span) ∧
      Layout [] source.toList tokens l.input ∧
      ∃ gaps : List (List Char), gaps.length = tokens.length ∧ (∀ gap ∈ gaps, IsGap false gap) ∧
        source.toList =
          (List.zipWith (fun gap token => gap ++ token.lexeme.toList) gaps tokens).flatten ++
            l.input ∧
        ∀ t : SymbolTable, t.LexersOnly → (l.next t).answer = .ok none → IsGap true l.input := by
  obtain ⟨hlayout, hopen⟩ := h.layout rfl [] rfl
  refine ⟨hlayout.locates rfl, hlayout.pairwise, hlayout, ?_⟩
  obtain ⟨gaps, hlength, hgaps, htext⟩ := hlayout.exists_gaps
  refine ⟨gaps, hlength, hgaps, htext, ?_⟩
  intro t ht hanswer
  have hfinds := Lexer.finds_next ht.lexical hopen
  rw [hanswer] at hfinds
  generalize (l.next t).lexer = l' at hfinds
  cases hfinds with
  | ending hgap => exact hgap

/-- Two tokens on two lines, with a word of another lexer registered between them. -/
theorem spans_of_emits_twoLines :
    Token.Locates ⟨⟨"x", .identifier⟩, ⟨1, 0, 0⟩⟩ "x // y\n\t!= " ∧
      Token.Locates ⟨⟨"!=", .operator .notEqual⟩, ⟨2, 1, 2⟩⟩ "x // y\n\t!= " := by
  have hemits : (Lexer.ofSource "x // y\n\t!= " none).Emits
      [⟨⟨"x", .identifier⟩, ⟨1, 0, 0⟩⟩, ⟨⟨"!=", .operator .notEqual⟩, ⟨2, 1, 2⟩⟩]
      ⟨"shell", [' '], ⟨2, 3⟩, false⟩ :=
    .next .seeded rfl (.next (.next (.ofSource "z" none) .seeded) rfl .nil)
  have hlocates := (spans_of_emits _ none hemits).1
  exact ⟨hlocates _ List.mem_cons_self, hlocates _ (List.mem_cons_of_mem _ List.mem_cons_self)⟩

end Lexis
