import Lexis.Event
import Lexis.Lexer.Piece
import Lexis.Reader

/-!
# Lexers

A lexer turns the rest of a source into tokens, one at a time. It works on a symbol table that it
does not own, so every step takes the table and gives it back. An illegal character ends the stream
with an error, the end of the text ends it without one, and an ended lexer has no more tokens.

Every token takes at least one character (`next_shortens`), so a lexer can be drained.
-/

namespace Lexis

structure Lexer where
  /-- The name under which positions are reported. -/
  file : String
  /-- What has not been scanned yet. -/
  input : List Char
  /-- The place of the first character of the input. -/
  location : Location
  /-- Whether the stream has ended. -/
  ended : Bool := false
deriving DecidableEq, Repr

structure Step where
  /-- The token, nothing at the end of the stream, or the error that ends it. -/
  answer : Except Error (Option Token)
  lexer : Lexer
  table : SymbolTable
  events : List Event

structure Drain where
  tokens : List Token
  /-- The error that ended the stream, if one did. -/
  failure : Option Error
  lexer : Lexer
  table : SymbolTable
  events : List Event

namespace Lexer

/-- A lexer that goes on where a reader stands. A closed reader cannot be scanned. -/
def ofReader (r : Reader) : Except Error Lexer :=
  if r.closed then .error r.closedError
  else .ok { file := r.file, input := r.rest, location := r.upcoming }

/-- A lexer at the start of a text. -/
def ofSource (source : String) (file? : Option String) : Lexer where
  file := file?.getD defaultFile
  input := source.toList
  location := Location.start

def close (l : Lexer) : Lexer := { l with input := [], ended := true }

/-- The columns of a text that stands at a place. -/
def spanAt (l : Location) (text : List Char) : Span :=
  ⟨l.line, l.column, l.column + text.length - 1⟩

/-- The error for a character that starts no lexeme. -/
def illegalAt (l : Lexer) (place : Location) (c : Char) : Error :=
  ⟨.illegalLexeme (String.ofList [c]), ⟨place, l.file⟩⟩

/-- The step from a place where neither blanks nor comments stand. -/
def nextAt (l : Lexer) (t : SymbolTable) (place : Location) : List Char → Step
  | []        => ⟨.ok none, l.close, t, [.closed l.file]⟩
  | c :: rest =>
    match Piece.read? t c rest with
    | none   =>
      ⟨.error (l.illegalAt place c), l.close, t,
        [.illegal (String.ofList [c]), .closed l.file]⟩
    | some p =>
      let (symbol, table) := p.enter t
      let token : Token := ⟨symbol, spanAt place p.text⟩
      let lexer := { l with
        input    := (c :: rest).drop p.text.length
        location := place.advance p.text }
      ⟨.ok (some token), lexer, table, [.token token]⟩

def next (l : Lexer) (t : SymbolTable) : Step :=
  if l.ended then ⟨.ok none, l, t, []⟩
  else
    let trivia := Trivia.skip t false l.location l.input
    let step := l.nextAt t trivia.location trivia.rest
    { step with events := trivia.comments.map .comment ++ step.events }

/-! ### Steps -/

/-- An ended lexer has no more tokens and changes nothing. -/
theorem next_of_ended {l : Lexer} (h : l.ended = true) (t : SymbolTable) :
    l.next t = ⟨.ok none, l, t, []⟩ := by simp [next, h]

theorem next_of_open {l : Lexer} (h : l.ended = false) (t : SymbolTable) :
    l.next t =
      { l.nextAt t (Trivia.skip t false l.location l.input).location
          (Trivia.skip t false l.location l.input).rest with
        events := (Trivia.skip t false l.location l.input).comments.map .comment ++
          (l.nextAt t (Trivia.skip t false l.location l.input).location
            (Trivia.skip t false l.location l.input).rest).events } := by
  simp [next, h]

theorem nextAt_of_none {t : SymbolTable} {c : Char} {rest : List Char}
    (h : Piece.read? t c rest = none) (l : Lexer) (place : Location) :
    l.nextAt t place (c :: rest) =
      ⟨.error (l.illegalAt place c), l.close, t,
        [.illegal (String.ofList [c]), .closed l.file]⟩ := by
  simp [nextAt, h]

theorem nextAt_of_some {t : SymbolTable} {c : Char} {rest : List Char} {p : Piece}
    (h : Piece.read? t c rest = some p) (l : Lexer) (place : Location) :
    l.nextAt t place (c :: rest) =
      ⟨.ok (some ⟨(p.enter t).1, spanAt place p.text⟩),
        { l with
          input    := (c :: rest).drop p.text.length
          location := place.advance p.text },
        (p.enter t).2, [.token ⟨(p.enter t).1, spanAt place p.text⟩]⟩ := by
  simp [nextAt, h]

/-- A token leaves less of the text than there was before it. -/
theorem nextAt_shortens {l : Lexer} {t : SymbolTable} {place : Location} {text : List Char}
    {token : Token} (h : (l.nextAt t place text).answer = .ok (some token)) :
    (l.nextAt t place text).lexer.input.length < text.length := by
  cases text with
  | nil => simp [nextAt] at h
  | cons c rest =>
    cases hread : Piece.read? t c rest with
    | none => simp [nextAt, hread] at h
    | some p =>
      have hpos := List.length_pos_iff.2 (Piece.text_of_read? hread).2
      simp only [nextAt, hread, List.length_drop, List.length_cons]
      omega

/-- A token leaves less of the input than there was before it. -/
theorem next_shortens {l : Lexer} {t : SymbolTable} {token : Token}
    (h : (l.next t).answer = .ok (some token)) :
    (l.next t).lexer.input.length < l.input.length := by
  cases hended : l.ended with
  | true => simp [next_of_ended hended] at h
  | false =>
    rw [next_of_open hended] at h ⊢
    have hsuffix := Trivia.rest_skip_isSuffix t false l.location l.input
    exact Nat.lt_of_lt_of_le (nextAt_shortens h) hsuffix.length_le

/-- A step that gives no token leaves the stream ended. -/
theorem ended_of_no_token {l : Lexer} {t : SymbolTable}
    (h : ∀ token, (l.next t).answer ≠ .ok (some token)) : (l.next t).lexer.ended = true := by
  cases hended : l.ended with
  | true => rwa [next_of_ended hended]
  | false =>
    rw [next_of_open hended] at h ⊢
    cases hrest : (Trivia.skip t false l.location l.input).rest with
    | nil => simp [nextAt, close]
    | cons c rest =>
      cases hread : Piece.read? t c rest with
      | none   => simp [nextAt_of_none hread, close]
      | some p => simp [hrest, nextAt_of_some hread] at h

/-- What bounds the answers that are still to come. An ended lexer has none. -/
def pending (l : Lexer) : Nat := if l.ended then 0 else l.input.length + 1

/-- Tokens and errors bring the end of the stream closer. -/
theorem pending_next {l : Lexer} {t : SymbolTable} (h : (l.next t).answer ≠ .ok none) :
    (l.next t).lexer.pending < l.pending := by
  have hopen : l.ended = false :=
    Bool.eq_false_iff.2 fun hended => h (by rw [next_of_ended hended])
  rw [pending, pending, hopen]
  cases hanswer : (l.next t).answer with
  | error e => simp [ended_of_no_token (l := l) (t := t) (by simp [hanswer])]
  | ok token? =>
    cases token? with
    | none => exact absurd hanswer h
    | some token =>
      have hshorter := next_shortens hanswer
      simp only [Bool.false_eq_true, if_false]
      split <;> omega

/-! ### Draining -/

def drain (l : Lexer) (t : SymbolTable) : Drain :=
  let step := l.next t
  match _h : step.answer with
  | .ok none         => ⟨[], none, step.lexer, step.table, step.events⟩
  | .error e         => ⟨[], some e, step.lexer, step.table, step.events⟩
  | .ok (some token) =>
    let others := drain step.lexer step.table
    { others with
      tokens := token :: others.tokens
      events := step.events ++ others.events }
termination_by l.input.length
decreasing_by exact next_shortens ‹_›

theorem drain_of_none {l : Lexer} {t : SymbolTable} (h : (l.next t).answer = .ok none) :
    l.drain t = ⟨[], none, (l.next t).lexer, (l.next t).table, (l.next t).events⟩ := by
  rw [drain]; split <;> simp_all

theorem drain_of_error {l : Lexer} {t : SymbolTable} {e : Error}
    (h : (l.next t).answer = .error e) :
    l.drain t = ⟨[], some e, (l.next t).lexer, (l.next t).table, (l.next t).events⟩ := by
  rw [drain]; split <;> simp_all

theorem drain_of_some {l : Lexer} {t : SymbolTable} {token : Token}
    (h : (l.next t).answer = .ok (some token)) :
    l.drain t =
      { (l.next t).lexer.drain (l.next t).table with
        tokens := token :: ((l.next t).lexer.drain (l.next t).table).tokens
        events := (l.next t).events ++ ((l.next t).lexer.drain (l.next t).table).events } := by
  rw [drain]; split <;> simp_all

end Lexer

/-- Drain a source on a table of its own. -/
def scan (source : String) (file? : Option String) : Drain :=
  (Lexer.ofSource source file?).drain SymbolTable.seeded

/-- The tokens of a source, or the error that keeps it from having them. -/
def tokenize (source : String) (file? : Option String) : Except Error (List Token) :=
  let result := scan source file?
  match result.failure with
  | some e => .error e
  | none   => .ok result.tokens

end Lexis
