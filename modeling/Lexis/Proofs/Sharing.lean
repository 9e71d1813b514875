import Lexis.Proofs.Session
import Lexis.Proofs.Table

/-!
# Lexers that share a table

Lexers on one table take turns in any order, and the table grows under each of them. As long as
nothing but lexers and the seeding writes to it, a lexer cannot tell: its answers are those it gives
on a seeded table of its own.

The table stays lexical whatever command is carried out (`lexicalAt_perform`), commands for other
lexers leave a lexer where it is (`lexers_perform`), and a command for it is one call of it
(`perform_call`). The run follows by induction on the commands (`answersOf_eq`).
-/

namespace Lexis

/-! ### Calls of a lexer -/

namespace Lexer

/-- A token, the end of the stream, or the error that ends it. -/
abbrev Answer := Except Error (Option Token)

/-- What a lexer can be called for. -/
inductive Call where
  | next
  | drain
  | close
deriving DecidableEq, Repr

/-- What a call gives. -/
structure Outcome where
  answers : List Answer
  lexer : Lexer
  table : SymbolTable

/-- The tokens of a drain, and what comes after them. -/
def stream (tokens : List Token) (failure : Option Error) : List Answer :=
  tokens.map (fun token => .ok (some token)) ++ [failure.elim (.ok none) .error]

/-- One call. Draining asks for the next token until the stream ends, closing asks for nothing. -/
def call (l : Lexer) (t : SymbolTable) : Call → Outcome
  | .next  => ⟨[(l.next t).answer], (l.next t).lexer, (l.next t).table⟩
  | .drain =>
    ⟨stream (l.drain t).tokens (l.drain t).failure, (l.drain t).lexer, (l.drain t).table⟩
  | .close => ⟨[], l.close, t⟩

/-- The answers of a lexer that has a table to itself. -/
def answers (l : Lexer) (t : SymbolTable) : List Call → List Answer
  | []         => []
  | c :: calls => (l.call t c).answers ++ answers (l.call t c).lexer (l.call t c).table calls

variable {t t' : SymbolTable}

/-- A call has the same outcome on all lexical tables. -/
lemma call_of_lexical (h : t.Lexical) (h' : t'.Lexical) (l : Lexer) (c : Call) :
    (l.call t c).answers = (l.call t' c).answers ∧ (l.call t c).lexer = (l.call t' c).lexer ∧
      (l.call t c).table.Lexical := by
  cases c with
  | next =>
    obtain ⟨hagrees, hlexical⟩ := next_of_lexical h h' l
    exact ⟨congrArg ([·]) hagrees.answer, hagrees.lexer, hlexical⟩
  | drain =>
    obtain ⟨hagrees, hlexical⟩ := drain_of_lexical h h' l
    exact ⟨congrArg₂ stream hagrees.tokens hagrees.failure, hagrees.lexer, hlexical⟩
  | close => exact ⟨rfl, rfl, h⟩

lemma answers_of_lexical (h : t.Lexical) (h' : t'.Lexical) (l : Lexer) (calls : List Call) :
    l.answers t calls = l.answers t' calls := by
  induction calls generalizing l t t' with
  | nil => rfl
  | cons c calls ih =>
    obtain ⟨hanswers, hlexer, hlexical⟩ := call_of_lexical h h' l c
    obtain ⟨-, -, hlexical'⟩ := call_of_lexical h' h l c
    rw [answers, answers, hanswers, hlexer, ih hlexical hlexical']

end Lexer

/-! ### Commands for a lexer -/

/-- The call that a command makes of the lexer in a slot. -/
def Command.callOf? (slot : Nat) : Command → Option Lexer.Call
  | .next lexer       => if lexer = slot then some .next else none
  | .drain lexer      => if lexer = slot then some .drain else none
  | .closeLexer lexer => if lexer = slot then some .close else none
  | _                 => none

/-- Whether a command leaves it to lexers to register lexemes in the table in a slot. -/
def Command.spares (slot : Nat) : Command → Bool
  | .intern table _ _      => table != slot
  | .makeToken table _ _ _ => table != slot
  | _                      => true

/-- The answers of a lexer in a reply; symbols are shown without their numbers. -/
def Reply.answers : Reply → List Lexer.Answer
  | .next answer _            => [answer.map fun token? => token?.map Numbered.item]
  | .drained tokens failure _ => Lexer.stream (tokens.map Numbered.item) failure
  | _                         => []

/-- The table in a slot is there and is lexical. -/
def LexicalAt (tables : List SymbolTable) (slot : Nat) : Prop :=
  ∃ t, tables[slot]? = some t ∧ t.Lexical

namespace LexicalAt

variable {tables : List SymbolTable} {slot : Nat}

/-- A table that is written to may become anything, except in that slot. -/
lemma set {table : Nat} {t t' : SymbolTable} (h : LexicalAt tables slot)
    (ht : tables[table]? = some t) (ht' : table = slot → t.Lexical → t'.Lexical) :
    LexicalAt (tables.set table t') slot := by
  obtain ⟨u, hu, hlexical⟩ := h
  by_cases heq : table = slot
  · subst heq
    rw [ht, Option.some.injEq] at hu
    have hlt := (List.getElem?_eq_some_iff.1 ht).1
    exact ⟨t', List.getElem?_set_self hlt, ht' rfl (hu ▸ hlexical)⟩
  · exact ⟨u, by rw [List.getElem?_set_ne heq, hu], hlexical⟩

lemma append (h : LexicalAt tables slot) (new : SymbolTable) :
    LexicalAt (tables ++ [new]) slot := by
  obtain ⟨t, ht, hlexical⟩ := h
  have hlt := (List.getElem?_eq_some_iff.1 ht).1
  exact ⟨t, by rw [List.getElem?_append_left hlt, ht], hlexical⟩

end LexicalAt

namespace Session

/-- The answers of the lexer in a slot while commands are carried out. -/
def answersOf (s : Session) (slot : Nat) (commands : List Command) : List Lexer.Answer :=
  (commands.zip (s.performAll commands).1).flatMap fun (command, reply) =>
    if (command.callOf? slot).isSome then reply.answers else []

/-- A command that puts a new lexer on the table in a slot, and that lexer. -/
inductive Opens (s : Session) (slot : Nat) : Command → Lexer → Prop where
  | source (source : String) (file? : Option String) :
      Opens s slot (.newLexer slot source file?) (.ofSource source file?)
  | path {path : String} {l : Lexer} (h : Lexer.openIn s.directory path = .ok l) :
      Opens s slot (.openLexer slot path) l
  | reader {reader : Nat} {r : Reader} {l : Lexer} (hr : s.readers[reader]? = some (some r))
      (h : Lexer.ofReader r = .ok l) : Opens s slot (.lexerOfReader slot reader) l

variable {s : Session} {slot i : Nat} {command : Command} {l : Lexer}

lemma answersOf_cons (s : Session) (slot : Nat) (command : Command) (rest : List Command) :
    s.answersOf slot (command :: rest) =
      (if (command.callOf? slot).isSome then (s.perform command).1.answers else []) ++
        (s.perform command).2.answersOf slot rest := rfl

/-! ### What one command does -/

/-- A lexical table stays lexical unless a lexeme is registered in it by hand. -/
theorem lexicalAt_perform (h : LexicalAt s.tables slot) (hspares : command.spares slot = true) :
    LexicalAt (s.perform command).2.tables slot := by
  have heffect := s.effect_perform command
  generalize (s.perform command).2.tables = tables at heffect ⊢
  generalize (s.perform command).2.lexers = lexers at heffect
  cases heffect with
  | keep | newLexer _ | close _ => exact h
  | newTable | newSeeded        => exact h.append _
  | seed ht                     => exact h.set ht fun _ hlexical => hlexical.seed
  | intern ht | makeToken ht =>
    apply h.set ht
    intro heq
    simp [Command.spares, heq] at hspares
  | next _ ht =>
    exact h.set ht fun _ hlexical => (Lexer.next_of_lexical hlexical hlexical _).2
  | drain _ ht =>
    exact h.set ht fun _ hlexical => (Lexer.drain_of_lexical hlexical hlexical _).2

/-- A lexer is left alone by the commands that are not for it. -/
theorem lexers_perform {x : Option BoundLexer} (h : s.lexers[i]? = some x)
    (hcall : command.callOf? i = none) : (s.perform command).2.lexers[i]? = some x := by
  have heffect := s.effect_perform command
  generalize (s.perform command).2.tables = tables at heffect
  generalize (s.perform command).2.lexers = lexers at heffect ⊢
  cases heffect with
  | keep | newTable | newSeeded | seed _ | intern _ | makeToken _ => exact h
  | newLexer added =>
    rw [List.getElem?_append_left (List.getElem?_eq_some_iff.1 h).1, h]
  | @next j _ _ _ _ | @drain j _ _ _ _ | @close j _ _ =>
    have hne : j ≠ i := by simpa [Command.callOf?] using hcall
    rw [List.getElem?_set_ne hne, h]

lemma answers_reportStep (s : Session) (slot : Nat) (step : Step) :
    (s.reportStep slot step).1.answers = [step.answer] := by
  unfold reportStep
  split <;> next h => rw [h]; rfl

lemma answers_reportDrain (s : Session) (slot : Nat) (d : Drain) :
    (s.reportDrain slot d).1.answers = Lexer.stream d.tokens d.failure :=
  congrArg (Lexer.stream · d.failure) (s.map_item_numberTokens slot d.table d.tokens)

/-- A command for a lexer is a call of it. -/
theorem perform_call {t : SymbolTable} {c : Lexer.Call} (hb : s.lexers[i]? = some (some ⟨slot, l⟩))
    (ht : s.tables[slot]? = some t) (hcall : command.callOf? i = some c) :
    (s.perform command).1.answers = (l.call t c).answers ∧
      (s.perform command).2.lexers[i]? = some (some ⟨slot, (l.call t c).lexer⟩) := by
  have hset (b : BoundLexer) : (s.lexers.set i (some b))[i]? = some (some b) :=
    List.getElem?_set_self (List.getElem?_eq_some_iff.1 hb).1
  cases command with
  | next j =>
    obtain ⟨rfl, rfl⟩ : j = i ∧ .next = c := by simpa [Command.callOf?] using hcall
    rw [perform, withLexer_of_some hb ht]
    refine ⟨answers_reportStep _ slot _, ?_⟩
    rw [(keeps_reportStep _ slot _).lexers]
    exact hset _
  | drain j =>
    obtain ⟨rfl, rfl⟩ : j = i ∧ .drain = c := by simpa [Command.callOf?] using hcall
    rw [perform, withLexer_of_some hb ht]
    refine ⟨answers_reportDrain _ slot _, ?_⟩
    rw [(keeps_reportDrain _ slot _).lexers]
    exact hset _
  | closeLexer j =>
    obtain ⟨rfl, rfl⟩ : j = i ∧ .close = c := by simpa [Command.callOf?] using hcall
    rw [perform, withLexer_of_some hb ht]
    exact ⟨rfl, hset _⟩
  | _ => simp [Command.callOf?] at hcall

/-! ### Runs -/

/-- A lexer on a lexical table answers as it does alone. -/
theorem answersOf_eq {commands : List Command} (h : LexicalAt s.tables slot)
    (hb : s.lexers[i]? = some (some ⟨slot, l⟩))
    (hspares : ∀ command ∈ commands, command.spares slot = true) :
    s.answersOf i commands = l.answers .seeded (commands.filterMap (Command.callOf? i)) := by
  induction commands generalizing s l with
  | nil => rfl
  | cons command rest ih =>
    obtain ⟨hspare, hspares⟩ := List.forall_mem_cons.1 hspares
    have h' := lexicalAt_perform h hspare
    rw [answersOf_cons]
    cases hcall : command.callOf? i with
    | none =>
      rw [List.filterMap_cons_none hcall, ih h' (lexers_perform hb hcall) hspares]
      rfl
    | some c =>
      -- the shared table and the lexer's own one differ from now on, but both stay lexical
      obtain ⟨t, ht, hlexical⟩ := h
      obtain ⟨hanswers, hb'⟩ := perform_call hb ht hcall
      obtain ⟨hsame, hlexer, -⟩ := Lexer.call_of_lexical hlexical SymbolTable.lexical_seeded l c
      obtain ⟨-, -, hlexical'⟩ := Lexer.call_of_lexical SymbolTable.lexical_seeded hlexical l c
      rw [List.filterMap_cons_some hcall, ih h' hb' hspares, Lexer.answers, hanswers, hsame, hlexer]
      rw [Lexer.answers_of_lexical SymbolTable.lexical_seeded hlexical']
      rfl

lemma lexicalAt_performAll {commands : List Command} (h : LexicalAt s.tables slot)
    (hspares : ∀ command ∈ commands, command.spares slot = true) :
    LexicalAt (s.performAll commands).2.tables slot := by
  induction commands generalizing s with
  | nil => exact h
  | cons command rest ih =>
    obtain ⟨hspare, hspares⟩ := List.forall_mem_cons.1 hspares
    exact ih (lexicalAt_perform h hspare) hspares

lemma lexers_of_opens (h : LexicalAt s.tables slot) (hopens : s.Opens slot command l) :
    (s.perform command).2.lexers[s.lexers.length]? = some (some ⟨slot, l⟩) := by
  obtain ⟨t, ht, -⟩ := h
  cases hopens with
  | source source file? => simp [perform, withTable_of_some ht, addLexer]
  | path h              => simp [perform, withTable_of_some ht, addLexer, h]
  | reader hr h =>
    simp [perform, withTable_of_some ht, withReader_of_some hr, addLexer, h, setReader]

/-- Lexers that share a seeded table do not influence each other. Whatever is done before a lexer is
put on the table and while it is used, its answers are those that the same calls of it get on a
seeded table of its own, if no lexeme is registered in the table by hand. -/
theorem answers_of_sharing (s : Session) {before after : List Command} {opening : Command}
    {l : Lexer} (hbefore : ∀ command ∈ before, command.spares s.tables.length = true)
    (hafter : ∀ command ∈ after, command.spares s.tables.length = true)
    (hopens : (s.performAll (.newSeeded :: before)).2.Opens s.tables.length opening l) :
    ((s.performAll (.newSeeded :: before)).2.perform opening).2.answersOf
        (s.performAll (.newSeeded :: before)).2.lexers.length after =
      l.answers .seeded
        (after.filterMap
          (Command.callOf? (s.performAll (.newSeeded :: before)).2.lexers.length)) := by
  have hnew : LexicalAt (s.perform .newSeeded).2.tables s.tables.length :=
    ⟨.seeded, by simp [perform, addTable], SymbolTable.lexical_seeded⟩
  have hstart : LexicalAt (s.performAll (.newSeeded :: before)).2.tables s.tables.length :=
    lexicalAt_performAll (s := (s.perform .newSeeded).2) hnew hbefore
  have hspares : opening.spares s.tables.length = true := by cases hopens <;> rfl
  exact answersOf_eq (lexicalAt_perform hstart hspares) (lexers_of_opens hstart hopens) hafter

/-- Two lexers take turns; the second reads a word that the first has registered. -/
theorem answers_of_sharing_turns :
    ((Session.performAll ⟨⟨[]⟩, [], [], [], []⟩
          [.newSeeded, .newLexer 0 "x = 1" none, .next 0]).2.perform
        (.newLexer 0 "if x @" none)).2.answersOf 1
        [.next 1, .next 0, .seed 0, .next 1, .lookup 0 "x", .next 1, .next 1] =
      (Lexer.ofSource "if x @" none).answers .seeded [.next, .next, .next, .next] :=
  answers_of_sharing _ (by decide) (by decide) (.source _ _)

end Session
end Lexis
