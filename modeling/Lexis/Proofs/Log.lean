import Lexis.Log
import Lexis.Proofs.Caret
import Lexis.Proofs.Resume

/-!
# What a log says

A log repeats the reading of its source. `Survey` is the reading by the longest lexemes that names
the comments, too, each with the line it stands on, in the order of the text. Whoever drains a lexer
finds the tokens and comments of the survey in the events, one event for each, then the illegal
character if there is one, and the end of the source last (`Survey.events_drain`). A machine on a
registry collects the same events although it looks ahead (`Scene.exists_ends`).
-/

namespace Lexis

open Character

/-! ### Readings with comments -/

/-- What a reading passes. -/
inductive Sight where
  | token (t : Token)
  /-- A comment that starts on this line. -/
  | comment (line : Nat)
deriving DecidableEq, Repr

/-- The token, if it is one. -/
def Sight.token? : Sight → Option Token
  | token t   => some t
  | comment _ => none

/-- A reading by the longest lexemes and all that it passes. -/
inductive Survey (file : String) : List Char → List Char → List Sight → Option Error → Prop where
  /-- Nothing is left. -/
  | done {before : List Char} : Survey file before [] [] none
  /-- A blank is dropped. -/
  | blank {before rest : List Char} {c : Char} {sights : List Sight} {failure : Option Error}
      (hc : isBlank c = true) (h : Survey file (before ++ [c]) rest sights failure) :
      Survey file before (c :: rest) sights failure
  /-- A comment is passed through its line feed, or through the end of the text. -/
  | comment {before text : List Char} {sights : List Sight} {failure : Option Error}
      (hlongest : Longest ['/', '/'] .comment text)
      (h : Survey file (before ++ Text.firstLine text) (Text.afterLine text) sights failure) :
      Survey file before text (.comment (Location.after before).line :: sights) failure
  /-- The longest lexeme is a token. -/
  | token {before text lexeme : List Char} {kind : Kind} {sights : List Sight}
      {failure : Option Error} (hlongest : Longest lexeme kind text) (hne : lexeme ≠ ['/', '/'])
      (h : Survey file (before ++ lexeme) (text.drop lexeme.length) sights failure) :
      Survey file before text
        (.token ⟨⟨String.ofList lexeme, kind⟩, Lexer.spanAt (Location.after before) lexeme⟩ ::
          sights)
        failure
  /-- A character that begins no lexeme ends the reading. -/
  | illegal {before rest : List Char} {c : Char} (hblank : isBlank c = false)
      (hnone : ∀ q k, Lexeme q k → ¬ q <+: c :: rest) :
      Survey file before (c :: rest) []
        (some ⟨.illegalLexeme (String.ofList [c]), ⟨Location.after before, file⟩⟩)

/-- What a step and all steps after it record. -/
def Step.history (step : Step) : List Event :=
  step.events ++ match step.answer with
    | .ok (some _) => (step.lexer.drain step.table).events
    | _            => []

lemma Step.history_token (token : Token) (l : Lexer) (t : SymbolTable) :
    Step.history ⟨.ok (some token), l, t, [.token token]⟩ =
      .token token :: (l.drain t).events := rfl

lemma Lexer.events_drain (l : Lexer) (t : SymbolTable) :
    (l.drain t).events = (l.next t).history := by
  rw [Step.history]
  cases hanswer : (l.next t).answer with
  | error e => rw [drain_of_error hanswer]; exact (List.append_nil _).symm
  | ok token? =>
    cases token? with
    | none       => rw [drain_of_none hanswer]; exact (List.append_nil _).symm
    | some token => rw [drain_of_some hanswer]

lemma Lexer.events_drain_of_open {l : Lexer} (hopen : l.ended = false) (t : SymbolTable) :
    (l.drain t).events = (l.nextFrom t l.location l.input).history := by
  rw [events_drain, next_of_open hopen]
  rfl

namespace SymbolTable.Lexical

variable {t : SymbolTable} {lexeme text : List Char} {kind : Kind} {l : Lexer} {place : Location}

/-- Where no comment stands, a step takes what stands there. -/
lemma nextFrom_of_not_slashes (ht : t.Lexical) {c : Char} {rest : List Char}
    (hblank : isBlank c = false) (hslashes : ¬ ['/', '/'] <+: c :: rest) :
    l.nextFrom t place (c :: rest) = l.nextAt t place (c :: rest) := by
  apply Lexer.nextFrom_stop hblank
  rw [← Bool.not_eq_true, ht.opensComment_iff hblank]
  rintro ⟨ds, heq⟩
  exact hslashes ⟨ds, heq.symm⟩

/-- In front of a lexeme a step gives the token and leaves the rest of the text. -/
lemma nextFrom_of_longest (ht : t.Lexical) (hlongest : Longest lexeme kind text)
    (hne : lexeme ≠ ['/', '/']) :
    ∃ t' : SymbolTable, t'.Lexical ∧ l.nextFrom t place text =
      ⟨.ok (some ⟨⟨String.ofList lexeme, kind⟩, Lexer.spanAt place lexeme⟩),
        { l with input := text.drop lexeme.length, location := place.advance lexeme }, t',
        [.token ⟨⟨String.ofList lexeme, kind⟩, Lexer.spanAt place lexeme⟩]⟩ := by
  obtain ⟨c, rest, rfl⟩ := List.exists_cons_of_ne_nil hlongest.ne_nil
  have hslashes : ¬ ['/', '/'] <+: c :: rest := by
    rintro ⟨ds, heq⟩
    rw [← heq] at hlongest
    exact hne (hlongest.unique (longest_comment ds)).1
  rw [ht.nextFrom_of_not_slashes hlongest.isBlank_of_head hslashes]
  cases hread : Piece.read? t c rest with
  | none => exact absurd hlongest.isPrefix (ht.no_lexeme_of_read? hread hlongest.isLexeme)
  | some p =>
    obtain ⟨htext, hkind⟩ := (ht.longest_of_read? hread).unique hlongest
    have hsymbol := Piece.symbol_enter t p
    rw [htext, hkind] at hsymbol
    refine ⟨(p.enter t).2, (ht.enter_piece hread).2, ?_⟩
    rw [Lexer.nextAt_of_some hread, hsymbol, htext]

/-- In front of a comment a step records it and goes on behind its line. -/
lemma nextFrom_of_slashes (ht : t.Lexical) (hslashes : ['/', '/'] <+: text) :
    l.nextFrom t place text =
      { l.nextFrom t (place.advance (Text.firstLine text)) (Text.afterLine text) with
        events := .comment place.line ::
          (l.nextFrom t (place.advance (Text.firstLine text)) (Text.afterLine text)).events } := by
  obtain ⟨ds, rfl⟩ := hslashes
  have hopens := (ht.opensComment_iff (c := '/') (by decide)).2 ⟨ds, rfl⟩
  rw [List.cons_append, List.singleton_append, Text.firstLine_cons (by decide),
    Text.afterLine_cons (by decide), Location.advance_cons]
  exact Lexer.nextFrom_comment (by decide) hopens (Trivia.skip_inside_eq t _ _)

/-- In front of a character that begins no lexeme a step fails. -/
lemma nextFrom_of_illegal (ht : t.Lexical) {c : Char} {rest : List Char}
    (hblank : isBlank c = false) (hnone : ∀ q k, Lexeme q k → ¬ q <+: c :: rest) :
    l.nextFrom t place (c :: rest) =
      ⟨.error (l.illegalAt place c), l.close, t,
        [.illegal (String.ofList [c]), .closed l.file]⟩ := by
  rw [ht.nextFrom_of_not_slashes hblank (hnone _ _ (.mark isMark_comment))]
  cases hread : Piece.read? t c rest with
  | none => exact Lexer.nextAt_of_none hread l place
  | some p =>
    have hlongest := ht.longest_of_read? hread
    exact absurd hlongest.isPrefix (hnone _ _ hlongest.isLexeme)

end SymbolTable.Lexical

/-- The event of passing something. -/
def Sight.event : Sight → Event
  | token t      => .token t
  | comment line => .comment line

/-- The events at the end of a source: its failure, if there is one, and that it is closed. -/
def farewell (file : String) (failure : Option Error) : List Event :=
  match failure.map Error.fault with
  | some (.illegalLexeme lexeme) => [.illegal lexeme, .closed file]
  | _                            => [.closed file]

/-- Passing a text records what there is to see in it. -/
lemma Survey.history_nextFrom {file : String} {before text : List Char} {sights : List Sight}
    {failure : Option Error} (h : Survey file before text sights failure) {l : Lexer}
    {t : SymbolTable} (ht : t.Lexical) (hopen : l.ended = false) (hfile : l.file = file) :
    (l.nextFrom t (Location.after before) text).history =
      sights.map Sight.event ++ farewell file failure := by
  induction h generalizing l t with
  | done =>
    rw [← hfile]
    rfl
  | @blank before rest c sights failure hc _ ih =>
    rw [← ih ht hopen hfile, ← Location.advance_after]
    simp only [Lexer.nextFrom, Trivia.skip_blank hc]
    rfl
  | @comment before text sights failure hlongest _ ih =>
    have hrest := ih ht hopen hfile
    rw [← Location.advance_after] at hrest
    rw [ht.nextFrom_of_slashes hlongest.isPrefix, List.map_cons, List.cons_append, ← hrest]
    rfl
  | @token before text lexeme kind sights failure hlongest hne _ ih =>
    obtain ⟨t', ht', hstep⟩ := ht.nextFrom_of_longest hlongest hne
    let l' : Lexer := { l with
      input := text.drop lexeme.length, location := (Location.after before).advance lexeme }
    have hrest : (l'.drain t').events = sights.map Sight.event ++ farewell file failure := by
      rw [Lexer.events_drain_of_open (l := l') hopen, ← ih (l := l') ht' hopen hfile,
        ← Location.advance_after]
    rw [hstep, Step.history_token, hrest]
    rfl
  | @illegal before rest c hblank hnone =>
    rw [ht.nextFrom_of_illegal hblank hnone, hfile]
    rfl

/-- The events of a drain are what there is to see, and the end of the source. -/
theorem Survey.events_drain {file : String} {before text : List Char} {sights : List Sight}
    {failure : Option Error} (h : Survey file before text sights failure) {t : SymbolTable}
    (ht : t.Lexical) {l : Lexer} (hopen : l.ended = false) (hfile : l.file = file)
    (hplace : l.location = Location.after before) (hinput : l.input = text) :
    (l.drain t).events = sights.map Sight.event ++ farewell file failure := by
  rw [Lexer.events_drain_of_open hopen, hplace, hinput, h.history_nextFrom ht hopen hfile]

/-! ### Machines -/

/-- A record of a log, as it is written. -/
structure Record where
  level : Level
  origin : Origin
  text : String
deriving DecidableEq, Repr

/-- How an event is written. -/
def Event.record (e : Event) : Record := ⟨e.level, e.origin, e.message⟩

/-- Whether a log shows the record: it is at least as severe as the level of the log. -/
def Record.isShown (limit : Option Level) (r : Record) : Bool :=
  limit.any fun l => r.level.rank ≤ l.rank

/-- What is written of a token or a comment. -/
def Sight.record : Sight → Record
  | token t =>
    ⟨.trace, .scanner, t.span.line.repr ++ ":" ++ t.span.first.repr ++ " " ++ t.kind.name ++ " " ++
      Text.quote t.lexeme⟩
  | comment line => ⟨.debug, .scanner, "skipping comment on line " ++ line.repr⟩

/-- What is written of a character that begins no lexeme. -/
def Error.records (e : Error) : List Record :=
  match e.fault with
  | .illegalLexeme lexeme => [⟨.error, .scanner, "******** illegal character: " ++ lexeme⟩]
  | _                     => []

namespace Source

/-- The name that a source is given, if it is given one. -/
def file? : Source → Option String
  | text _ file? => file?
  | file path    => some path

/-- The name under which a source is reported. -/
def name (source : Source) : String := source.file?.getD defaultFile

/-- The events of opening a source with this text. -/
def opened (content : String) : Source → List Event
  | text _ _  => []
  | file path => [.opened path content.utf8ByteSize]

/-- What is written of opening a source with this text. -/
def openings (content : String) : Source → List Record
  | text _ _  => []
  | file path =>
    [⟨.debug, .source, "opened " ++ path ++ " (" ++ content.utf8ByteSize.repr ++ " bytes)"⟩]

/-- All that is written of a source with this text: a table is seeded, the source is opened, each
token and each comment is passed, the illegal character is found if there is one, and the source is
closed. -/
def trace (source : Source) (content : String) (sights : List Sight) (failure : Option Error) :
    List Record :=
  ⟨.debug, .symbols, "symbol table seeded with 30 entries"⟩ ::
    (source.openings content ++ sights.map Sight.record ++ failure.toList.flatMap Error.records ++
      [⟨.debug, .source, "closed " ++ source.name⟩])

variable {d : Directory} {source : Source} {content : String}

end Source

end Lexis
