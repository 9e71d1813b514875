import Mathlib.Tactic.Lemma
import Lexis.Session

/-!
# Steps of a session

What a command does to the tables and to the lexers of a session. `Session.Effect` lists all that
can happen to them, one constructor for each way, and `effect_perform` says that a command has one
of these effects. Showing a symbol gives it a number and touches neither tables nor lexers.
-/

namespace Lexis.Session

variable {s : Session}

/-! ### Slots -/

lemma withTable_of_some {slot : Nat} {t : SymbolTable} (ht : s.tables[slot]? = some t)
    (use : SymbolTable → Reply × Session) : s.withTable slot use = use t := by
  simp [withTable, ht]

lemma withTable_cases (s : Session) (slot : Nat) (use : SymbolTable → Reply × Session) :
    (∃ t, s.tables[slot]? = some t ∧ s.withTable slot use = use t) ∨
      s.withTable slot use = (.noSuchSlot, s) := by
  cases ht : s.tables[slot]? with
  | some t => exact Or.inl ⟨t, rfl, withTable_of_some ht use⟩
  | none   => exact Or.inr (by simp [withTable, ht])

lemma withReader_of_some {slot : Nat} {r : Reader} (hr : s.readers[slot]? = some (some r))
    (use : Reader → Reply × Session) : s.withReader slot use = use r := by
  simp [withReader, hr]

lemma withReader_cases (s : Session) (slot : Nat) (use : Reader → Reply × Session) :
    (∃ r, s.readers[slot]? = some (some r) ∧ s.withReader slot use = use r) ∨
      s.withReader slot use = (.noSuchSlot, s) := by
  unfold withReader
  split
  · next r hr => exact Or.inl ⟨r, hr, rfl⟩
  · exact Or.inr rfl

lemma withLexer_of_some {slot : Nat} {b : BoundLexer} {t : SymbolTable}
    (hb : s.lexers[slot]? = some (some b)) (ht : s.tables[b.table]? = some t)
    (use : BoundLexer → SymbolTable → Reply × Session) : s.withLexer slot use = use b t := by
  simp [withLexer, hb, withTable_of_some ht]

lemma withLexer_cases (s : Session) (slot : Nat)
    (use : BoundLexer → SymbolTable → Reply × Session) :
    (∃ b t, s.lexers[slot]? = some (some b) ∧ s.tables[b.table]? = some t ∧
        s.withLexer slot use = use b t) ∨
      s.withLexer slot use = (.noSuchSlot, s) := by
  unfold withLexer
  split
  · next b hb =>
    rcases withTable_cases s b.table (use b) with ⟨t, ht, heq⟩ | heq
    · exact Or.inl ⟨b, t, hb, ht, heq⟩
    · exact Or.inr heq
  · exact Or.inr rfl

/-! ### Showing symbols -/

/-- Two sessions with the same tables and the same lexers. -/
structure Keeps (s s' : Session) : Prop where
  tables : s'.tables = s.tables
  lexers : s'.lexers = s.lexers

lemma Keeps.trans {s' s'' : Session} (h : s.Keeps s') (h' : s'.Keeps s'') : s.Keeps s'' :=
  ⟨h'.tables.trans h.tables, h'.lexers.trans h.lexers⟩

lemma keeps_number (s : Session) (slot : Nat) (t : SymbolTable) (symbol : Symbol) :
    s.Keeps (s.number slot t symbol).2 := by
  simp only [number]
  split <;> exact ⟨rfl, rfl⟩

lemma keeps_numberToken (s : Session) (slot : Nat) (t : SymbolTable) (token : Token) :
    s.Keeps (s.numberToken slot t token).2 := s.keeps_number slot t token.symbol

lemma numberTokens_cons (s : Session) (slot : Nat) (t : SymbolTable) (token : Token)
    (rest : List Token) :
    s.numberTokens slot t (token :: rest) =
      ((s.numberToken slot t token).1 ::
          ((s.numberToken slot t token).2.numberTokens slot t rest).1,
        ((s.numberToken slot t token).2.numberTokens slot t rest).2) := rfl

lemma keeps_numberTokens (s : Session) (slot : Nat) (t : SymbolTable) (tokens : List Token) :
    s.Keeps (s.numberTokens slot t tokens).2 := by
  induction tokens generalizing s with
  | nil => exact ⟨rfl, rfl⟩
  | cons token rest ih =>
    rw [numberTokens_cons]
    exact (s.keeps_numberToken slot t token).trans (ih _)

/-- Numbers are put beside the tokens, which stay as they are. -/
lemma map_item_numberTokens (s : Session) (slot : Nat) (t : SymbolTable) (tokens : List Token) :
    (s.numberTokens slot t tokens).1.map Numbered.item = tokens := by
  induction tokens generalizing s with
  | nil => rfl
  | cons token rest ih =>
    rw [numberTokens_cons, List.map_cons, ih]
    rfl

lemma keeps_reportSymbol (s : Session) (slot : Nat) (t : SymbolTable) (symbol? : Option Symbol) :
    s.Keeps (s.reportSymbol slot t symbol?).2 := by
  cases symbol? with
  | none        => exact ⟨rfl, rfl⟩
  | some symbol => exact s.keeps_number slot t symbol

lemma keeps_reportToken (s : Session) (slot : Nat) (t : SymbolTable) (token? : Option Token) :
    s.Keeps (s.reportToken slot t token?).2 := by
  cases token? with
  | none       => exact ⟨rfl, rfl⟩
  | some token => exact s.keeps_numberToken slot t token

lemma keeps_reportStep (s : Session) (slot : Nat) (step : Step) :
    s.Keeps (s.reportStep slot step).2 := by
  unfold reportStep
  split
  · exact ⟨rfl, rfl⟩
  · exact ⟨rfl, rfl⟩
  · exact s.keeps_numberToken slot step.table _

lemma keeps_reportDrain (s : Session) (slot : Nat) (d : Drain) :
    s.Keeps (s.reportDrain slot d).2 := s.keeps_numberTokens slot d.table d.tokens

/-! ### Effects of commands -/

/-- What can become of the tables and of the lexers. -/
inductive Effect (s : Session) :
    Command → List SymbolTable → List (Option BoundLexer) → Prop where
  | keep {command : Command} : Effect s command s.tables s.lexers
  | newTable : Effect s .newTable (s.tables ++ [.empty]) s.lexers
  | newSeeded : Effect s .newSeeded (s.tables ++ [.seeded]) s.lexers
  | seed {slot : Nat} {t : SymbolTable} (ht : s.tables[slot]? = some t) :
      Effect s (.seed slot) (s.tables.set slot t.seed) s.lexers
  | intern {slot : Nat} {lexeme : String} {kind : Kind} {t : SymbolTable}
      (ht : s.tables[slot]? = some t) :
      Effect s (.intern slot lexeme kind) (s.tables.set slot (t.intern lexeme kind).2) s.lexers
  | makeToken {slot : Nat} {lexeme : String} {kind : Kind} {span : Span} {t : SymbolTable}
      (ht : s.tables[slot]? = some t) :
      Effect s (.makeToken slot lexeme kind span) (s.tables.set slot (t.intern lexeme kind).2)
        s.lexers
  | newLexer {command : Command} (added : Option BoundLexer) :
      Effect s command s.tables (s.lexers ++ [added])
  | next {slot : Nat} {b : BoundLexer} {t : SymbolTable} (hb : s.lexers[slot]? = some (some b))
      (ht : s.tables[b.table]? = some t) :
      Effect s (.next slot) (s.tables.set b.table (b.lexer.next t).table)
        (s.lexers.set slot (some ⟨b.table, (b.lexer.next t).lexer⟩))
  | drain {slot : Nat} {b : BoundLexer} {t : SymbolTable} (hb : s.lexers[slot]? = some (some b))
      (ht : s.tables[b.table]? = some t) :
      Effect s (.drain slot) (s.tables.set b.table (b.lexer.drain t).table)
        (s.lexers.set slot (some ⟨b.table, (b.lexer.drain t).lexer⟩))
  | close {slot : Nat} {b : BoundLexer} (hb : s.lexers[slot]? = some (some b)) :
      Effect s (.closeLexer slot) s.tables (s.lexers.set slot (some ⟨b.table, b.lexer.close⟩))

/-- An effect on tables and lexers is that on any session with these tables and lexers. -/
lemma Keeps.effect {s₁ s₂ : Session} {command : Command} (h : s₁.Keeps s₂)
    (heffect : s.Effect command s₁.tables s₁.lexers) : s.Effect command s₂.tables s₂.lexers := by
  rwa [h.tables, h.lexers]

lemma effect_addLexer (s s' : Session) (h : s.Keeps s') (command : Command) (slot : Nat)
    (t : SymbolTable) (made : Except Error Lexer) :
    s.Effect command (s'.addLexer slot t made).2.tables (s'.addLexer slot t made).2.lexers := by
  cases made with
  | ok l    => simpa [addLexer, h.tables, h.lexers] using .newLexer (some ⟨slot, l⟩)
  | error e => simpa [addLexer, h.tables, h.lexers] using .newLexer none

/-- Every command has one of the effects. -/
theorem effect_perform (s : Session) (command : Command) :
    s.Effect command (s.perform command).2.tables (s.perform command).2.lexers := by
  cases command with
  | newTable  => exact .newTable
  | newSeeded => exact .newSeeded
  | seed slot =>
    rw [perform]
    rcases s.withTable_cases slot _ with ⟨t, ht, heq⟩ | heq <;> rw [heq]
    · exact .seed ht
    · exact .keep
  | intern slot lexeme kind =>
    rw [perform]
    rcases s.withTable_cases slot _ with ⟨t, ht, heq⟩ | heq <;> rw [heq]
    · exact (keeps_reportSymbol _ slot _ _).effect (.intern ht)
    · exact .keep
  | lookup slot lexeme =>
    rw [perform]
    rcases s.withTable_cases slot _ with ⟨t, ht, heq⟩ | heq <;> rw [heq]
    · exact (keeps_reportSymbol _ slot _ _).effect .keep
    · exact .keep
  | contains slot lexeme =>
    rw [perform]
    rcases s.withTable_cases slot _ with ⟨t, ht, heq⟩ | heq <;> rw [heq] <;> exact .keep
  | size slot =>
    rw [perform]
    rcases s.withTable_cases slot _ with ⟨t, ht, heq⟩ | heq <;> rw [heq] <;> exact .keep
  | makeToken slot lexeme kind span =>
    rw [perform]
    rcases s.withTable_cases slot _ with ⟨t, ht, heq⟩ | heq <;> rw [heq]
    · exact (keeps_reportToken _ slot _ _).effect (.makeToken ht)
    · exact .keep
  | newReader source file? => exact .keep
  | openReader path =>
    rw [perform]
    cases Reader.openIn s.directory path <;> exact .keep
  | read slot =>
    rw [perform]
    rcases s.withReader_cases slot _ with ⟨r, -, heq⟩ | heq <;> rw [heq]
    · split <;> exact .keep
    · exact .keep
  | inspect slot | closeReader slot =>
    rw [perform]
    rcases s.withReader_cases slot _ with ⟨r, -, heq⟩ | heq <;> rw [heq] <;> exact .keep
  | newLexer slot source file? =>
    rw [perform]
    rcases s.withTable_cases slot _ with ⟨t, ht, heq⟩ | heq <;> rw [heq]
    · exact s.effect_addLexer s ⟨rfl, rfl⟩ _ slot t _
    · exact .keep
  | openLexer slot path =>
    rw [perform]
    rcases s.withTable_cases slot _ with ⟨t, ht, heq⟩ | heq <;> rw [heq]
    · exact s.effect_addLexer s ⟨rfl, rfl⟩ _ slot t _
    · exact .keep
  | lexerOfReader slot reader =>
    rw [perform]
    rcases s.withTable_cases slot _ with ⟨t, ht, heq⟩ | heq <;> rw [heq]
    · rcases s.withReader_cases reader _ with ⟨r, -, heq⟩ | heq <;> rw [heq]
      · exact s.effect_addLexer (s.setReader reader none) ⟨rfl, rfl⟩ _ slot t _
      · exact .keep
    · exact .keep
  | next slot =>
    rw [perform]
    rcases s.withLexer_cases slot _ with ⟨b, t, hb, ht, heq⟩ | heq <;> rw [heq]
    · exact (keeps_reportStep _ b.table _).effect (.next hb ht)
    · exact .keep
  | drain slot =>
    rw [perform]
    rcases s.withLexer_cases slot _ with ⟨b, t, hb, ht, heq⟩ | heq <;> rw [heq]
    · exact (keeps_reportDrain _ b.table _).effect (.drain hb ht)
    · exact .keep
  | closeLexer slot =>
    rw [perform]
    rcases s.withLexer_cases slot _ with ⟨b, t, hb, ht, heq⟩ | heq <;> rw [heq]
    · exact .close hb
    · exact .keep

end Lexis.Session
