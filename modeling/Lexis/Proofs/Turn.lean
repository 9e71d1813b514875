import Lexis.Proofs.Scene

/-!
# Machines follow lexers

A machine on a registry and a lexer on the table without addresses do the same, step by step: the
machine tracks the lexer (`Machine.Tracks`), and one turn of it gives the token or the error of one
step, leaves the same table and records the same events (`Scene.turn_mirrors`). The registry is left
as it was unless the turn gives out a token; then it is left as interning the lexeme leaves it, and
the object in the token is the one that interning hands out (`Store.Hands`).
-/

namespace Lexis

open Character

/-! ### Steps behind blanks and comments -/

namespace Lexer

/-- One step from a place in a text, where blanks and comments may stand. -/
def nextFrom (l : Lexer) (t : SymbolTable) (place : Location) (text : List Char) : Step :=
  let trivia := Trivia.skip t false place text
  let step := l.nextAt t trivia.location trivia.rest
  { step with events := trivia.comments.map .comment ++ step.events }

variable {l : Lexer} {t : SymbolTable} {place place' : Location} {c : Char} {rest rest' : List Char}

lemma nextFrom_blanks (l : Lexer) (t : SymbolTable) (place : Location) (text : List Char) :
    l.nextFrom t place text =
      l.nextFrom t (place.advance (text.takeWhile isBlank)) (text.dropWhile isBlank) := by
  induction text generalizing place with
  | nil => rfl
  | cons c text ih =>
    cases hc : isBlank c with
    | false =>
      have hneg : ¬isBlank c = true := by simp [hc]
      rw [List.takeWhile_cons_of_neg hneg, List.dropWhile_cons_of_neg hneg]
      rfl
    | true =>
      rw [List.takeWhile_cons_of_pos hc, List.dropWhile_cons_of_pos hc, Location.advance_cons, ← ih]
      simp only [nextFrom, Trivia.skip_blank hc]

lemma nextFrom_stop (hblank : isBlank c = false) (hopens : opensComment t c rest = false) :
    l.nextFrom t place (c :: rest) = l.nextAt t place (c :: rest) := by
  simp only [nextFrom, Trivia.skip_stop hblank hopens]
  rfl

lemma nextFrom_comment (hblank : isBlank c = false) (hopens : opensComment t c rest = true)
    (hskip : Trivia.skip t true (place.next c) rest = Trivia.skip t false place' rest') :
    l.nextFrom t place (c :: rest) =
      { l.nextFrom t place' rest' with
        events := .comment place.line :: (l.nextFrom t place' rest').events } := by
  simp only [nextFrom, Trivia.skip_comment hblank hopens, hskip]
  rfl

end Lexer

/-! ### What is the same -/

/-- An open machine stands where the lexer is; an ended one has released its source. -/
inductive Machine.Tracks : Machine → Lexer → Prop where
  | opened {m : Machine} {l : Lexer} (hopen : l.ended = false)
      (h : m.Stands l.file l.location l.input) : Tracks m l
  | released {l : Lexer} {place : Location} (hended : l.ended = true) :
      Tracks ⟨l.file, none, none, place, true⟩ l

namespace Machine.Tracks

variable {m : Machine} {l : Lexer}

lemma ended_eq (h : m.Tracks l) : m.ended = l.ended := by
  cases h with
  | opened hopen h   => rw [h.ended_eq, hopen]
  | released hended => rw [hended]

lemma file_eq (h : m.Tracks l) : m.file = l.file := by
  cases h with
  | opened _ h => exact h.file_eq
  | released _ => rfl

lemma stands (h : m.Tracks l) (hopen : l.ended = false) : m.Stands l.file l.location l.input := by
  cases h with
  | opened _ h      => exact h
  | released hended => simp [hopen] at hended

/-- A machine has its source as long as it has not ended. -/
lemma source_eq_none_iff (h : m.Tracks l) : m.source = none ↔ m.ended = true := by
  cases h with
  | opened hopen h =>
    obtain ⟨r, hr, -⟩ := h.exists_source
    simp [hr, h.ended_eq]
  | released _ => simp

/-- Ending a machine once more does nothing. -/
lemma close_eq (h : m.Tracks l) (hended : l.ended = true) : m.close = m ∧ m.closing = [] := by
  cases h with
  | opened hopen _ => simp [hopen] at hended
  | released _     => exact ⟨rfl, rfl⟩

end Machine.Tracks

lemma Machine.tracks_close {m : Machine} {l : Lexer} (h : m.file = l.file) :
    m.close.Tracks l.close := by
  rw [Machine.close, h]
  exact .released (l := l.close) rfl

/-- A machine is made where a lexer is, and follows it. -/
lemma Machine.new_cases (r : Reader) :
    (∃ m l, Machine.new r = .ok m ∧ Lexer.ofReader r = .ok l ∧ m.Tracks l) ∨
      Machine.new r = .error r.closedError ∧ Lexer.ofReader r = .error r.closedError := by
  cases hclosed : r.closed with
  | false =>
    obtain ⟨m, hnew, hstands⟩ := Machine.new_stands hclosed
    have hlexer : Lexer.ofReader r =
        .ok { file := r.file, input := r.rest, location := r.upcoming } := by
      simp [Lexer.ofReader, hclosed]
    exact Or.inl ⟨m, _, hnew, hlexer, .opened rfl hstands⟩
  | true => exact Or.inr ⟨Machine.new_of_closed hclosed, by simp [Lexer.ofReader, hclosed]⟩

/-- What a search for a token may do to a store. -/
inductive Store.Hands (s : Store) : Except Error (Option TokenRef) → Store → Prop where
  | ending : Hands s (.ok none) s
  | failure (e : Error) : Hands s (.error e) s
  | token {lexeme : String} {kind : Kind} {x : SymbolRef} {s' : Store} (span : Span)
      (hkind : kind ≠ .bogus) (h : s.intern lexeme kind = (some x, s')) :
      Hands s (.ok (some ⟨x, span⟩)) s'

lemma Store.Hands.keyed {s s' : Store} {answer : Except Error (Option TokenRef)}
    (h : s.Hands answer s') (hkeyed : s.registry.Keyed) : s'.registry.Keyed := by
  cases h with
  | ending | failure _ => exact hkeyed
  | @token lexeme kind _ _ _ _ hintern =>
    have hinterned := keyed_intern hkeyed lexeme kind
    rwa [hintern] at hinterned

namespace Scene

/-- A turn gives what a step gives and leaves what a step leaves. -/
structure Mirrors (s : Scene) (turn : Turn) (step : Step) : Prop where
  answer : turn.answer.map (·.map TokenRef.token) = step.answer
  machine : turn.scene.machine.Tracks step.lexer
  table : turn.scene.store.registry.erase = step.table
  events : turn.scene.events = s.events ++ step.events
  store : s.store.Hands turn.answer turn.scene.store

variable {s s' : Scene} {m : Machine} {l : Lexer} {place : Location} {c : Char}
  {text rest : List Char}

lemma turn_of_ok {t : Option TokenRef} (h : s.next = .ok t s') : s.turn = ⟨.ok t, s'⟩ := by
  simp [turn, h]

lemma turn_of_error {e : Error} (h : s.next = .error e s') : s.turn = ⟨.error e, s'⟩ := by
  simp [turn, h]

lemma turn_congr (h : s.next = s'.next) : s.turn = s'.turn := by rw [turn, turn, h]

/-- Past blanks an open machine looks at the head of a text, on a registry that is in order. -/
structure Faces (s : Scene) (m : Machine) (l : Lexer) (place : Location) (text : List Char) :
    Prop where
  keyed : s.store.registry.Keyed
  isOpen : l.ended = false
  reaches : s.Reaches m
  stands : m.Stands l.file place text

namespace Faces

/-- A machine at the end of the text ends the stream. -/
lemma mirrors_of_nil (h : s.Faces m l place []) :
    s.Mirrors s.turn (l.nextAt s.store.registry.erase place []) := by
  rw [turn_of_ok (h.reaches.next_of_exhausted h.stands.ch_eq)]
  have hclose := Machine.tracks_close h.stands.file_eq
  have hevents : m.closing = [.closed l.file] := h.stands.closing_eq
  exact ⟨rfl, hclose, rfl, congrArg (s.events ++ ·) hevents, .ending⟩

/-- A machine in front of a lexeme gives out its token. -/
lemma mirrors_of_piece {p : Piece} {x : SymbolRef} {store : Store} {lexeme : String} {kind : Kind}
    {m' : Machine} (h : s.Faces m l place (c :: rest))
    (hread : Piece.read? s.store.registry.erase c rest = some p)
    (hstands : m'.Stands l.file (place.advance p.text) ((c :: rest).drop p.text.length))
    (hnext : s.next = .ok (some ⟨x, Lexer.spanAt place p.text⟩)
      (emitted ⟨m', store, s.events⟩ ⟨x, Lexer.spanAt place p.text⟩))
    (henter : p.enter s.store.registry.erase = (x.symbol, store.registry.erase))
    (hkind : kind ≠ .bogus) (hintern : s.store.intern lexeme kind = (some x, store)) :
    s.Mirrors s.turn (l.nextAt s.store.registry.erase place (c :: rest)) := by
  rw [turn_of_ok hnext, Lexer.nextAt_of_some hread, henter]
  exact ⟨rfl, .opened h.isOpen hstands, rfl, rfl, .token _ hkind hintern⟩

/-! ### Words and numerals -/

/-- A machine in front of a word or a numeral gives it out, as a new symbol if need be. -/
lemma mirrors_of_new {take : Draft → EStateM Error Machine Draft} {cut : List Char → List Char}
    {kind : List Char → Kind} {p : Piece} (h : s.Faces m l place (c :: rest))
    (hread : Piece.read? s.store.registry.erase c rest = some p)
    (htakes : Machine.Takes take cut) (hcut : cut (c :: rest) = p.text)
    (henter : ∀ t, p.enter t = t.enter (String.ofList p.text) (kind p.text))
    (hkind : kind p.text ≠ .bogus)
    (hnext : s.next = scanNew take kind (.startingAt place) (s.withMachine m)) :
    s.Mirrors s.turn (l.nextAt s.store.registry.erase place (c :: rest)) := by
  have hne := (Piece.text_of_read? hread).2
  obtain ⟨x, store, hintern⟩ := s.store.exists_intern (String.ofList p.text) hkind
  obtain ⟨m', hstands, hscan⟩ := scanNew_eq (s := s.withMachine m) htakes h.stands
    (hcut ▸ hne) (hcut ▸ hintern)
  rw [hscan, hcut] at hnext
  rw [hcut] at hstands
  have htable := Store.enter_erase h.keyed hkind hintern
  exact h.mirrors_of_piece hread hstands hnext ((henter _).trans htable) hkind hintern

lemma mirrors_of_word (h : s.Faces m l place (c :: rest)) (hword : isWordStart c = true) :
    s.Mirrors s.turn (l.nextAt s.store.registry.erase place (c :: rest)) := by
  have htakes := Machine.takes_takeWhile (isWordPart_of_isBlank isBlank_lineFeed)
  have hcut : (c :: rest).takeWhile isWordPart = c :: rest.takeWhile isWordPart :=
    List.takeWhile_cons_of_pos (isWordPart_of_isWordStart hword)
  have hnext := h.reaches.next_eq h.stands.ch_eq
  rw [if_pos hword, h.stands.place_eq, scanWord] at hnext
  exact h.mirrors_of_new (Piece.read?_word hword _ _) htakes hcut (fun _ => rfl) (by decide) hnext

lemma mirrors_of_numeral (h : s.Faces m l place (c :: rest)) (hword : isWordStart c = false)
    (hnum : Numeral.starts c rest = true) :
    s.Mirrors s.turn (l.nextAt s.store.registry.erase place (c :: rest)) := by
  have hnext := h.reaches.next_eq h.stands.ch_eq
  rw [hword, if_neg Bool.false_ne_true, h.stands.startsNumeral_eq, if_pos hnum, h.stands.place_eq,
    scanNumeral] at hnext
  exact h.mirrors_of_new (Piece.read?_numeral hword hnum _) Machine.takes_numeral rfl
    (fun _ => rfl) (by simp [Piece.text]) hnext

/-! ### Operators and separators -/

/-- What a turn does in front of neither a word nor a numeral. -/
lemma next_eq (h : s.Faces m l place (c :: rest)) (hword : isWordStart c = false)
    (hnum : Numeral.starts c rest = false) :
    s.next = afterMark (scanMark (.startingAt place) (s.withMachine m)) := by
  rw [h.reaches.next_eq h.stands.ch_eq, hword, if_neg Bool.false_ne_true,
    h.stands.startsNumeral_eq, hnum, if_neg Bool.false_ne_true, h.stands.place_eq]

/-- A pair that the registry knows is taken as one. -/
lemma next_of_pair {x : SymbolRef} (h : s.Faces m l place (c :: rest))
    (hword : isWordStart c = false) (hnum : Numeral.starts c rest = false)
    (hpair : pairIn s.store.registry c rest = some x) :
    ∃ m', m'.Stands l.file (place.next c) rest ∧
      s.next = afterMark (finishPair (.of place [c]) x (s.withMachine m')) := by
  obtain ⟨m', hstands, hscan⟩ := scanMark_eq (s := s.withMachine m) h.stands
  have hfound : pairIn (s.withMachine m).store.registry c rest = some x := hpair
  rw [hfound] at hscan
  exact ⟨m', hstands, (h.next_eq hword hnum).trans (congrArg afterMark hscan)⟩

/-- Where the registry knows no pair, the first character stands alone. -/
lemma next_of_single (h : s.Faces m l place (c :: rest)) (hword : isWordStart c = false)
    (hnum : Numeral.starts c rest = false) (hpair : pairIn s.store.registry c rest = none) :
    ∃ m', m'.Stands l.file (place.next c) rest ∧
      s.next = afterMark (finishSingle (.of place [c]) (s.withMachine m')) := by
  obtain ⟨m', hstands, hscan⟩ := scanMark_eq (s := s.withMachine m) h.stands
  have habsent : pairIn (s.withMachine m).store.registry c rest = none := hpair
  rw [habsent] at hscan
  exact ⟨m', hstands, (h.next_eq hword hnum).trans (congrArg afterMark hscan)⟩

/-- An operator or separator is given out as it was found. -/
lemma mirrors_of_mark {x : SymbolRef} {text : List Char} {m' : Machine}
    (h : s.Faces m l place (c :: rest))
    (hread : Piece.read? s.store.registry.erase c rest = some (.mark x.symbol))
    (hfind : s.store.registry.find? (String.ofList text) = some x)
    (hstands : m'.Stands l.file (place.advance text) ((c :: rest).drop text.length))
    (hnext : s.next = emit ⟨x, Lexer.spanAt place text⟩ (s.withMachine m')) :
    s.Mirrors s.turn (l.nextAt s.store.registry.erase place (c :: rest)) := by
  have htext : (Piece.mark x.symbol).text = text := by
    rw [Piece.text, h.keyed.lexeme_eq hfind, String.toList_ofList]
  have hkind : Kind.identifier ≠ .bogus := by decide
  have hintern := Store.intern_of_found hfind .identifier
  exact h.mirrors_of_piece hread (htext ▸ hstands) (htext ▸ hnext) rfl hkind hintern

lemma mirrors_of_pair {d : Char} {x : SymbolRef} (h : s.Faces m l place (c :: d :: rest))
    (hfeed : c ≠ '\n') (hword : isWordStart c = false) (hnum : Numeral.starts c (d :: rest) = false)
    (hpair : s.store.registry.find? (String.ofList [c, d]) = some x)
    (hkind : x.symbol.kind ≠ .comment) :
    s.Mirrors s.turn (l.nextAt s.store.registry.erase place (c :: d :: rest)) := by
  have hread : Piece.read? s.store.registry.erase c (d :: rest) = some (.mark x.symbol) := by
    rw [Piece.read?_mark hword hnum, pairAt_erase h.keyed, pairIn, hpair]
    rfl
  obtain ⟨m₁, hstands₁, hnext⟩ := h.next_of_pair hword hnum hpair
  obtain ⟨m₂, hstands₂, hfinish⟩ := finishPair_of_ne (s := s.withMachine m₁) hstands₁ hfeed hkind
  rw [hfinish] at hnext
  exact h.mirrors_of_mark hread hpair hstands₂ hnext

lemma mirrors_of_single {x : SymbolRef} (h : s.Faces m l place (c :: rest))
    (hword : isWordStart c = false) (hnum : Numeral.starts c rest = false)
    (hpair : pairIn s.store.registry c rest = none)
    (hsingle : s.store.registry.find? (String.ofList [c]) = some x) :
    s.Mirrors s.turn (l.nextAt s.store.registry.erase place (c :: rest)) := by
  have hread : Piece.read? s.store.registry.erase c rest = some (.mark x.symbol) := by
    rw [Piece.read?_mark hword hnum, pairAt_erase h.keyed, hpair, Registry.lookup_erase h.keyed,
      hsingle]
    rfl
  obtain ⟨m₁, hstands, hnext⟩ := h.next_of_single hword hnum hpair
  have hfinish := finishSingle_of_found (s := s.withMachine m₁) (d := .of place [c]) hsingle
  rw [hfinish, Draft.toToken, Draft.span_of place (List.cons_ne_nil c [])] at hnext
  exact h.mirrors_of_mark hread hsingle hstands hnext

/-- A machine in front of a character that starts no lexeme ends the stream with an error. -/
lemma mirrors_of_illegal (h : s.Faces m l place (c :: rest)) (hword : isWordStart c = false)
    (hnum : Numeral.starts c rest = false) (hpair : pairIn s.store.registry c rest = none)
    (hsingle : s.store.registry.find? (String.ofList [c]) = none) :
    s.Mirrors s.turn (l.nextAt s.store.registry.erase place (c :: rest)) := by
  have hread : Piece.read? s.store.registry.erase c rest = none := by
    rw [Piece.read?_mark hword hnum, pairAt_erase h.keyed, hpair, Registry.lookup_erase h.keyed,
      hsingle]
    rfl
  obtain ⟨m₁, hstands, hnext⟩ := h.next_of_single hword hnum hpair
  have hfinish := finishSingle_of_absent (s := s.withMachine m₁) (d := .of place [c]) hsingle
  rw [hfinish] at hnext
  rw [turn_of_error hnext, Lexer.nextAt_of_none hread]
  have hanswer : (s.withMachine m₁).illegal (.of place [c]) = l.illegalAt place c := by
    rw [illegal, machine_withMachine, hstands.file_eq]
    rfl
  have hevents : s.events ++ [.illegal (String.ofList [c])] ++ m₁.closing =
      s.events ++ [.illegal (String.ofList [c]), .closed l.file] := by
    rw [hstands.closing_eq, List.append_assoc, List.singleton_append]
  exact ⟨congrArg Except.error hanswer, Machine.tracks_close hstands.file_eq, rfl, hevents,
    .failure _⟩

/-- In front of anything but a comment a turn does what the step there does. -/
lemma mirrors_of_stop (h : s.Faces m l place (c :: rest)) (hfeed : c ≠ '\n')
    (hopens : opensComment s.store.registry.erase c rest = false) :
    s.Mirrors s.turn (l.nextAt s.store.registry.erase place (c :: rest)) := by
  cases hword : isWordStart c with
  | true => exact h.mirrors_of_word hword
  | false =>
    cases hnum : Numeral.starts c rest with
    | true => exact h.mirrors_of_numeral hword hnum
    | false =>
      cases hpair : pairIn s.store.registry c rest with
      | some x =>
        have hkind : x.symbol.kind ≠ .comment := by
          simpa [opensComment, hword, hnum, pairAt_erase h.keyed, hpair] using hopens
        cases rest with
        | nil         => cases hpair
        | cons d rest => exact h.mirrors_of_pair hfeed hword hnum hpair hkind
      | none =>
        cases hsingle : s.store.registry.find? (String.ofList [c]) with
        | some x => exact h.mirrors_of_single hword hnum hpair hsingle
        | none   => exact h.mirrors_of_illegal hword hnum hpair hsingle

/-- In front of a comment a turn starts again behind it. -/
lemma next_of_comment (h : s.Faces m l place (c :: rest)) (hfeed : c ≠ '\n')
    (hopens : opensComment s.store.registry.erase c rest = true) :
    ∃ m' place' rest', m'.Stands l.file place' rest' ∧ rest'.length ≤ rest.length ∧
      Trivia.skip s.store.registry.erase true (place.next c) rest =
        Trivia.skip s.store.registry.erase false place' rest' ∧
      s.next = next ⟨m', s.store, s.events ++ [.comment place.line]⟩ := by
  simp only [opensComment, pairAt_erase h.keyed, Bool.and_eq_true, Bool.not_eq_true',
    Option.any_eq_true, Option.map_eq_some_iff, beq_iff_eq] at hopens
  obtain ⟨⟨hword, hnum⟩, _, ⟨x, hpair, rfl⟩, hkind⟩ := hopens
  cases rest with
  | nil => cases hpair
  | cons d rest =>
    obtain ⟨m₁, hstands₁, hnext⟩ := h.next_of_pair hword hnum hpair
    obtain ⟨m₂, place', rest', hstands₂, hle, hskip, hfinish⟩ := finishPair_of_comment
      (s := s.withMachine m₁) s.store.registry.erase hstands₁ hfeed hkind
    rw [hfinish] at hnext
    exact ⟨m₂, place', rest', hstands₂, Nat.le_succ_of_le hle, hskip, hnext⟩

end Faces

/-! ### Turns -/

/-- A scene behind a comment goes on as the scene in front of it. -/
lemma Mirrors.behind_comment {s₁ : Scene} {turn : Turn} {step : Step} {n : Nat}
    (h : s₁.Mirrors turn step) (hstore : s₁.store = s.store)
    (hevents : s₁.events = s.events ++ [.comment n]) :
    s.Mirrors turn { step with events := .comment n :: step.events } where
  answer := h.answer
  machine := h.machine
  table := h.table
  events := by rw [h.events, hevents, List.append_assoc, List.singleton_append]
  store := hstore ▸ h.store

/-- A turn does what a step does, from anywhere in a text. -/
theorem mirrors_nextFrom {s : Scene} {place : Location} {text : List Char}
    (hstands : s.machine.Stands l.file place text)
    (hkeyed : s.store.registry.Keyed) (hopen : l.ended = false) :
    s.Mirrors s.turn (l.nextFrom s.store.registry.erase place text) := by
  obtain ⟨m, hskip, hm⟩ := Machine.skipWhile_class isBlank hstands
  have hle := (List.dropWhile_suffix isBlank (l := text)).length_le
  have hfaces : s.Faces m l (place.advance (text.takeWhile isBlank)) (text.dropWhile isBlank) :=
    ⟨hkeyed, hopen, ⟨hstands.ended_eq, hskip⟩, hm⟩
  rw [Lexer.nextFrom_blanks]
  match hrest : text.dropWhile isBlank with
  | [] =>
    rw [hrest] at hfaces
    exact hfaces.mirrors_of_nil
  | c :: rest =>
    rw [hrest] at hfaces hle
    have hblank : isBlank c = false := by simpa [hrest] using List.head?_dropWhile_not isBlank text
    have hfeed : c ≠ '\n' := by
      rintro rfl
      simp [isBlank_lineFeed] at hblank
    cases hopens : opensComment s.store.registry.erase c rest with
    | false =>
      rw [Lexer.nextFrom_stop hblank hopens]
      exact hfaces.mirrors_of_stop hfeed hopens
    | true =>
      -- the turn starts again behind the comment, on a text that is shorter
      obtain ⟨m', place', rest', hstands', hshorter, htrivia, hnext⟩ :=
        hfaces.next_of_comment hfeed hopens
      have hlt : rest'.length < text.length := Nat.lt_of_le_of_lt hshorter hle
      have hbehind := mirrors_nextFrom (s := ⟨m', s.store, s.events ++
        [.comment (place.advance (text.takeWhile isBlank)).line]⟩) hstands' hkeyed hopen
      rw [Lexer.nextFrom_comment hblank hopens htrivia, turn_congr hnext]
      exact hbehind.behind_comment rfl rfl
termination_by text.length
decreasing_by exact hlt

/-- A turn of a machine does what a step of the lexer does that it tracks. -/
theorem turn_mirrors (h : s.machine.Tracks l) (hkeyed : s.store.registry.Keyed) :
    s.Mirrors s.turn (l.next s.store.registry.erase) := by
  cases hended : l.ended with
  | false =>
    rw [Lexer.next_of_open hended]
    exact mirrors_nextFrom (h.stands hended) hkeyed hended
  | true =>
    obtain ⟨hclose, hclosing⟩ := h.close_eq hended
    rw [Lexer.next_of_ended hended, turn_of_ok (next_of_ended (h.ended_eq.trans hended))]
    have hmachine : s.ending.machine.Tracks l := by rwa [ending, hclose]
    have hevents : s.ending.events = s.events ++ [] := by rw [ending, hclosing]
    exact ⟨rfl, hmachine, rfl, hevents, .ending⟩

end Scene

end Lexis
