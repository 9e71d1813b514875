import Mathlib.Data.List.Induction
import Lexis.Proofs.Heap
import Lexis.Proofs.Table

/-!
# Lexers fail fast

A stream gives tokens until it ends, with an error or without one, and nothing from then on. What
one search for a token does to a stream is one of four things (`Deals`): which one is decided by
whether the stream had ended. The calls of a lexer, with whatever is done elsewhere in between, are
a chain of such steps (`Heap.History`). So there is at most one error, the source is released once,
and an ended lexer changes nothing any more (`Heap.failFast_of_run`).
-/

namespace Lexis

open Character

/-- Whether the event says that a source was released. -/
def Event.isClosed : Event → Bool
  | .closed _ => true
  | _         => false

/-- The error is about one character, which starts neither a word nor a numeral. -/
def Error.IsIllegal (e : Error) : Prop :=
  ∃ c, e.fault = .illegalLexeme (String.ofList [c]) ∧ isWordStart c = false ∧ c.isDigit = false

/-- What a search for a token does to a stream: whether the stream had ended, what the search gives,
how often it releases a source, and whether the stream has ended then. -/
inductive Deals {α : Type} : Bool → Except Error (Option α) → Nat → Bool → Prop where
  | token (a : α) : Deals false (.ok (some a)) 0 false
  | ending : Deals false (.ok none) 1 true
  | failure {e : Error} (he : e.IsIllegal) : Deals false (.error e) 1 true
  | silence : Deals true (.ok none) 0 true

lemma Deals.of_map {α β : Type} {f : α → β} {b b' : Bool} {n : Nat}
    {answer : Except Error (Option α)} (h : Deals b (answer.map (·.map f)) n b') :
    Deals b answer n b' := by
  match answer, h with
  | .ok (some a), .token _    => exact .token a
  | .ok none, .ending         => exact .ending
  | .error _, .failure he     => exact .failure he
  | .ok none, .silence        => exact .silence

/-! ### One search -/

namespace Lexer

lemma deals_nextAt {l : Lexer} (hopen : l.ended = false) (t : SymbolTable) (place : Location)
    (text : List Char) :
    Deals false (l.nextAt t place text).answer
      ((l.nextAt t place text).events.countP Event.isClosed)
      (l.nextAt t place text).lexer.ended := by
  cases text with
  | nil => exact .ending
  | cons c rest =>
    cases hread : Piece.read? t c rest with
    | none =>
      obtain ⟨hword, hnum, -⟩ := Piece.of_read?_eq_none hread
      have hdigit : c.isDigit = false := by
        simp only [Numeral.starts, Bool.or_eq_false_iff] at hnum
        exact hnum.1
      rw [nextAt_of_none hread]
      exact .failure ⟨c, rfl, hword, hdigit⟩
    | some p =>
      rw [nextAt_of_some hread]
      change Deals false _ _ l.ended
      rw [hopen]
      exact .token _

/-- A step of a lexer deals with its stream. -/
theorem deals_next (l : Lexer) (t : SymbolTable) :
    Deals l.ended (l.next t).answer ((l.next t).events.countP Event.isClosed)
      (l.next t).lexer.ended := by
  cases hended : l.ended with
  | true =>
    rw [next_of_ended hended, hended]
    exact .silence
  | false =>
    have hcomments : ∀ lines : List Nat, (lines.map Event.comment).countP Event.isClosed = 0 := by
      intro lines
      simp [Event.isClosed]
    rw [next_of_open hended, List.countP_append, hcomments, Nat.zero_add]
    exact deals_nextAt hended t _ _

end Lexer

lemma Machine.Tracks.countP_closing {m : Machine} {l : Lexer} (h : m.Tracks l) :
    m.closing.countP Event.isClosed = if m.ended then 0 else 1 := by
  cases h with
  | opened _ h => simp [h.closing_eq, h.ended_eq, Event.isClosed]
  | released _ => rfl

/-! ### Calls -/

namespace Report

/-- A call of a lexer, and what came of it. -/
inductive Call where
  | next (answer : Except Error (Option TokenRef)) (events : List Event)
  | close (events : List Event)

/-- The call of the lexer in a slot, if the report is about one. -/
def call? (i : Nat) : Report → Option Call
  | .next j _ answer events => if j = i then some (.next answer events) else none
  | .closed j events        => if j = i then some (.close events) else none
  | _                       => none

/-- The calls of the lexer in a slot. -/
def calls (i : Nat) (reports : List Report) : List Call := reports.filterMap (·.call? i)

lemma calls_concat (i : Nat) (reports : List Report) (report : Report) :
    calls i (reports ++ [report]) = calls i reports ++ (report.call? i).toList := by
  cases h : report.call? i <;> simp [calls, h]

lemma calls_cons (i : Nat) (report : Report) (reports : List Report) :
    calls i (report :: reports) = (report.call? i).toList ++ calls i reports := by
  cases h : report.call? i <;> simp [calls, h]

namespace Call

/-- What the call gives. -/
def answer? : Call → Option (Except Error (Option TokenRef))
  | next answer _ => some answer
  | close _       => none

/-- What the call records. -/
def events : Call → List Event
  | next _ events => events
  | close events  => events

/-- Whether the stream has ended after the call: it was closed, or no token was given. -/
def ends : Call → Bool
  | next (.ok (some _)) _ => false
  | _                     => true

/-- What a call does to a stream: whether the stream had ended, and whether it has ended then. -/
inductive Deals : Bool → Call → Bool → Prop where
  | next {answer : Except Error (Option TokenRef)} {events : List Event} {b b' : Bool}
      (h : Lexis.Deals b answer (events.countP Event.isClosed) b') : Deals b (next answer events) b'
  | close {events : List Event} {b : Bool}
      (h : events.countP Event.isClosed = if b then 0 else 1) : Deals b (close events) true

variable {call : Call} {b b' : Bool}

/-- An ended stream stays so, and has no more tokens and no error. -/
lemma Deals.of_ended (h : Deals true call b') :
    b' = true ∧ ∀ answer ∈ call.answer?, answer = .ok none := by
  cases h with
  | close _ => simp [answer?]
  | @next answer events _ _ h =>
    generalize events.countP Event.isClosed = n at h
    cases h
    simp [answer?]

lemma Deals.ended_iff (h : Deals b call b') : b' = true ↔ b = true ∨ call.ends = true := by
  cases h with
  | close _ => simp [ends]
  | @next answer events _ _ h =>
    generalize events.countP Event.isClosed = n at h
    cases h <;> simp [ends]

lemma Deals.countP_events (h : Deals b call b') :
    call.events.countP Event.isClosed + (if b then 1 else 0) = if b' then 1 else 0 := by
  cases h with
  | @close events b h => cases b <;> simp [Call.events, h]
  | @next answer events _ _ h =>
    rw [Call.events]
    generalize events.countP Event.isClosed = n at h
    cases h <;> rfl

lemma Deals.illegal (h : Deals b call b') {e : Error} (he : call.answer? = some (.error e)) :
    e.IsIllegal := by
  cases h with
  | close _ => cases he
  | @next answer events _ _ h =>
    obtain rfl := Option.some.inj he
    generalize events.countP Event.isClosed = n at h
    cases h with
    | failure he => exact he

end Call

/-- The calls of a lexer since it was made, and whether its stream has ended. -/
inductive History : List Call → Bool → Prop where
  | start : History [] false
  | call {calls : List Call} {call : Call} {b b' : Bool} (h : History calls b)
      (hcall : call.Deals b b') : History (calls ++ [call]) b'

namespace History

variable {calls : List Call} {b : Bool}

/-- The answers are tokens, then an error at most, then nothing. -/
lemma answers (h : History calls b) :
    ∃ (tokens : List TokenRef) (failure : Option Error) (n : Nat),
      calls.filterMap Call.answer? =
        tokens.map (fun token => .ok (some token)) ++
          (failure.toList.map .error ++ List.replicate n (.ok none)) ∧
      (b = false → failure = none ∧ n = 0) := by
  induction h with
  | start => exact ⟨[], none, 0, rfl, by simp⟩
  | @call calls call b b' _ hcall ih =>
    obtain ⟨tokens, failure, n, heq, hopen⟩ := ih
    rw [List.filterMap_append, heq]
    cases hcall with
    | close _ => exact ⟨tokens, failure, n, by simp [Call.answer?], by simp⟩
    | @next answer events _ _ h =>
      generalize events.countP Event.isClosed = m at h
      -- all but `silence` need an open stream, which has given nothing but tokens so far
      cases h with
      | token token =>
        obtain ⟨rfl, rfl⟩ := hopen rfl
        exact ⟨tokens ++ [token], none, 0, by simp [Call.answer?], by simp⟩
      | ending =>
        obtain ⟨rfl, rfl⟩ := hopen rfl
        exact ⟨tokens, none, 1, by simp [Call.answer?], by simp⟩
      | @failure e _ =>
        obtain ⟨rfl, rfl⟩ := hopen rfl
        exact ⟨tokens, some e, 0, by simp [Call.answer?], by simp⟩
      | silence =>
        refine ⟨tokens, failure, n + 1, ?_, by simp⟩
        simp [Call.answer?, List.replicate_succ']

lemma illegal (h : History calls b) :
    ∀ e, .error e ∈ calls.filterMap Call.answer? → e.IsIllegal := by
  induction h with
  | start => simp
  | call _ hcall ih =>
    intro e he
    rw [List.filterMap_append, List.mem_append] at he
    rcases he with he | he
    · exact ih e he
    · exact hcall.illegal (by simpa using he)

/-- A stream has ended once a call has ended it. -/
lemma ended_iff (h : History calls b) : b = true ↔ ∃ call ∈ calls, call.ends = true := by
  induction h with
  | start => simp
  | call _ hcall ih => simp [hcall.ended_iff, ih, or_and_right, exists_or]

/-- The source is released once when the stream ends. -/
lemma countP_events (h : History calls b) :
    (calls.flatMap Call.events).countP Event.isClosed = if b then 1 else 0 := by
  induction h with
  | start => rfl
  | call _ hcall ih =>
    rw [List.flatMap_append, List.countP_append, ih, List.flatMap_singleton, Nat.add_comm]
    exact hcall.countP_events

end History

/-- What the searches of the lexer in a slot gave. -/
def answers (i : Nat) (reports : List Report) : List (Except Error (Option TokenRef)) :=
  (calls i reports).filterMap Call.answer?

end Report

namespace Heap

variable {h h' : Heap} {action : Action} {report : Report} {i : Nat} {b : BoundMachine}

/-! ### One action -/

/-- What an action does to a lexer: nothing, or what the call does that it is. -/
inductive Follows (b : BoundMachine) : Option Report.Call → BoundMachine → Prop where
  | nothing : Follows b none b
  | call {call : Report.Call} {m : Machine} (hdeals : call.Deals b.machine.ended m.ended)
      (hstays : b.machine.ended = true → m = b.machine) : Follows b (some call) ⟨b.table, m⟩

lemma Follows.of_ended {call? : Option Report.Call} {b' : BoundMachine}
    (hfollows : Follows b call? b') (hended : b.machine.ended = true) :
    b' = b ∧ ∀ call ∈ call?, ∀ answer ∈ call.answer?, answer = .ok none := by
  cases hfollows with
  | nothing => simp
  | call hdeals hstays =>
    rw [hended] at hdeals
    rw [hstays hended]
    refine ⟨rfl, ?_⟩
    rintro _ ⟨⟩
    exact hdeals.of_ended.2

/-- A machine that has ended does nothing in its turn. -/
lemma Sound.turnOf_of_ended {s : Store} (hsound : h.Sound) (hb : h.lexer? i = some b)
    (hended : b.machine.ended = true) : turnOf b s = ⟨.ok none, ⟨b.machine, s, []⟩⟩ := by
  obtain ⟨l, htracks⟩ := hsound.tracks hb
  obtain ⟨hclose, hclosing⟩ := htracks.close_eq (htracks.ended_eq ▸ hended)
  have hturn : turnOf b s = _ := Scene.turn_of_ok (Scene.next_of_ended hended)
  rw [hturn, Scene.ending, hclose, hclosing]
  rfl

/-- A machine deals with its stream in a turn, and does nothing once the stream has ended. -/
lemma Sound.follows_turn {s : Store} (hsound : h.Sound) (hb : h.lexer? i = some b)
    (hs : h.tables.store? b.table = some s) :
    Follows b (some (.next (turnOf b s).answer (turnOf b s).scene.events))
      ⟨b.table, (turnOf b s).scene.machine⟩ := by
  obtain ⟨l, htracks, hmirrors⟩ := hsound.mirrors hb hs
  refine .call (.next ?_) ?_
  · have hdeals := l.deals_next s.registry.erase
    rw [← hmirrors.answer, ← htracks.ended_eq, ← hmirrors.machine.ended_eq] at hdeals
    rw [show (turnOf b s).scene.events = _ from hmirrors.events, List.nil_append]
    exact hdeals.of_map
  · intro hended
    rw [hsound.turnOf_of_ended hb hended]

/-- An action does to a lexer what the call does that it is, if it is one. -/
theorem Effect.follows (heffect : h.Effect action report h') (hsound : h.Sound)
    (hb : h.lexer? i = some b) :
    ∃ b', h'.lexer? i = some b' ∧ Follows b (report.call? i) b' := by
  cases heffect with
  | absent | newTable | newSeeded | seed | intern | lookup | contains | size =>
    exact ⟨b, hb, .nothing⟩
  | failed _ _ => exact ⟨b, lexer?_append_of_some hb _, .nothing⟩
  | lexer _ _  => exact ⟨b, lexer?_append_of_some hb _, .nothing⟩
  | @next j c s hc hs =>
    rw [lexer?_setLexer (h := h.put _ _) hc, Report.call?]
    by_cases heq : j = i
    · obtain rfl : c = b := Option.some.inj (hc.symm.trans (heq ▸ hb))
      rw [if_pos heq, if_pos heq]
      exact ⟨_, rfl, hsound.follows_turn hc hs⟩
    · rw [if_neg heq, if_neg heq]
      exact ⟨b, hb, .nothing⟩
  | @close j c hc =>
    rw [lexer?_setLexer hc, Report.call?]
    by_cases heq : j = i
    · obtain rfl : c = b := Option.some.inj (hc.symm.trans (heq ▸ hb))
      rw [if_pos heq, if_pos heq]
      obtain ⟨l, htracks⟩ := hsound.tracks hc
      refine ⟨_, rfl, .call (.close htracks.countP_closing) fun hended => ?_⟩
      exact (htracks.close_eq (htracks.ended_eq ▸ hended)).1
    · rw [if_neg heq, if_neg heq]
      exact ⟨b, hb, .nothing⟩

/-- A lexer that is made by an action is open, and the action is no call of it. -/
theorem Effect.of_absent (heffect : h.Effect action report h') (hnone : h.lexer? i = none) :
    report.call? i = none ∧ ∀ b, h'.lexer? i = some b → b.machine.ended = false := by
  have hstill : ∀ b, h.lexer? i = some b → b.machine.ended = false := by simp [hnone]
  have hne : ∀ {j c}, h.lexer? j = some c → j ≠ i := by
    rintro j c hc rfl
    simp [hnone] at hc
  cases heffect with
  | absent | newTable | newSeeded | seed | intern | lookup | contains | size =>
    exact ⟨rfl, hstill⟩
  | failed _ _ =>
    refine ⟨rfl, fun b hb => ?_⟩
    rw [lexer?_append] at hb
    split at hb
    · cases hb
    · exact hstill b hb
  | @lexer _ _ opening m _ hm =>
    refine ⟨rfl, fun b hb => ?_⟩
    rw [lexer?_append] at hb
    split at hb
    · obtain ⟨r, hnew⟩ := exists_new_eq hm
      obtain rfl := Option.some.inj hb
      exact Machine.ended_of_new hnew
    · exact hstill b hb
  | next hc hs =>
    rw [lexer?_setLexer (h := h.put _ _) hc, if_neg (hne hc), Report.call?, if_neg (hne hc)]
    exact ⟨rfl, hstill⟩
  | close hc =>
    rw [lexer?_setLexer hc, if_neg (hne hc), Report.call?, if_neg (hne hc)]
    exact ⟨rfl, hstill⟩

/-! ### Runs -/

/-- The calls of a lexer in a run, from the making of the lexer on. -/
theorem history_of_run (d : Directory) (actions : List Action) (i : Nat) :
    (∀ b, ((start d).run actions).2.lexer? i = some b →
      Report.History (Report.calls i ((start d).run actions).1) b.machine.ended) ∧
    (((start d).run actions).2.lexer? i = none →
      Report.calls i ((start d).run actions).1 = []) := by
  induction actions using List.reverseRecOn with
  | nil => exact ⟨fun b hb => by simp [run, start, lexer?] at hb, fun _ => rfl⟩
  | append_singleton actions action ih =>
    obtain ⟨hhistory, hbefore⟩ := ih
    have hsound := (sound_start d).run actions
    have heffect := ((start d).run actions).2.effect_perform action
    rw [run_concat, Report.calls_concat]
    cases hlexer : ((start d).run actions).2.lexer? i with
    | none =>
      obtain ⟨hcall, hnew⟩ := heffect.of_absent hlexer
      rw [hbefore hlexer, hcall]
      refine ⟨fun b hb => ?_, fun _ => rfl⟩
      rw [hnew b hb]
      exact .start
    | some b =>
      obtain ⟨b', hb', hfollows⟩ := heffect.follows hsound hlexer
      refine ⟨fun c hc => ?_, fun hnone => by simp [hb'] at hnone⟩
      obtain rfl : b' = c := Option.some.inj (hb'.symm.trans hc)
      have hpast := hhistory b hlexer
      generalize (((start d).run actions).2.perform action).1.call? i = call? at hfollows
      cases hfollows with
      | nothing       => simpa using hpast
      | call hdeals _ => exact hpast.call hdeals

/-- Once the stream of a lexer has ended, the lexer stays as it is and has no more tokens. -/
theorem Sound.run_of_ended (hsound : h.Sound) (hb : h.lexer? i = some b)
    (hended : b.machine.ended = true) (actions : List Action) :
    (h.run actions).2.lexer? i = some b ∧
      ∀ answer ∈ Report.answers i (h.run actions).1, answer = .ok none := by
  induction actions generalizing h with
  | nil => exact ⟨hb, by simp [Heap.run, Report.answers, Report.calls]⟩
  | cons action actions ih =>
    have heffect := h.effect_perform action
    obtain ⟨b', hb', hfollows⟩ := heffect.follows hsound hb
    obtain ⟨rfl, hanswer⟩ := hfollows.of_ended hended
    obtain ⟨hlast, hanswers⟩ := ih (heffect.sound hsound) hb'
    refine ⟨hlast, ?_⟩
    rw [run_cons, Report.answers, Report.calls_cons, List.filterMap_append]
    intro answer hmem
    rcases List.mem_append.1 hmem with hmem | hmem
    · obtain ⟨call, hcall, hmem⟩ := List.mem_filterMap.1 hmem
      exact hanswer call (Option.mem_toList.1 hcall) answer hmem
    · exact hanswers answer hmem

/-- A call of an ended lexer changes nothing at all. -/
theorem Sound.perform_of_ended (hsound : h.Sound) (hb : h.lexer? i = some b)
    (hended : b.machine.ended = true) :
    h.perform (.next i) = (.next i b.table (.ok none) [], h) ∧
      h.perform (.close i) = (.closed i [], h) := by
  obtain ⟨s, hs⟩ := hsound.exists_store hb
  obtain ⟨l, htracks⟩ := hsound.tracks hb
  obtain ⟨hclose, hclosing⟩ := htracks.close_eq (htracks.ended_eq ▸ hended)
  constructor
  · have hturn : Scene.turn ⟨b.machine, s, []⟩ = _ := hsound.turnOf_of_ended hb hended
    rw [perform, withLexer_of_some hb hs, hturn]
    exact congrArg (Prod.mk _) ((congrArg (setLexer · i b) (put_self hs)).trans (setLexer_self hb))
  · rw [perform, withLexer_of_some hb hs, hclose, hclosing]
    exact congrArg (Prod.mk _) (setLexer_self hb)

/-! ### Draining -/

lemma answers_next {s : Store} (hb : h.lexer? i = some b)
    (hs : h.tables.store? b.table = some s) (rest : List Action) :
    Report.answers i (h.run (.next i :: rest)).1 =
      (turnOf b s).answer :: Report.answers i ((h.perform (.next i)).2.run rest).1 := by
  have hcall : (h.perform (.next i)).1.call? i =
      some (.next (turnOf b s).answer (turnOf b s).scene.events) := by
    rw [perform_next hb hs, Report.call?, if_pos rfl]
  rw [run_cons, Report.answers, Report.calls_cons, hcall]
  rfl

/-- An error ends the stream. -/
lemma Sound.ended_of_error {s : Store} {e : Error} (hsound : h.Sound)
    (hb : h.lexer? i = some b) (hs : h.tables.store? b.table = some s)
    (hanswer : (turnOf b s).answer = .error e) : (turnOf b s).scene.machine.ended = true := by
  have hfollows := hsound.follows_turn hb hs
  rw [hanswer] at hfollows
  cases hfollows with
  | call hdeals _ => exact hdeals.ended_iff.2 (Or.inr rfl)

lemma Sound.answers_of_ended (hsound : h.Sound) (hb : h.lexer? i = some b)
    (hended : b.machine.ended = true) :
    Report.answers i (h.run [.next i]).1 = [.ok none] := by
  rw [run_cons, (hsound.perform_of_ended hb hended).1]
  simp [Heap.run, Report.answers, Report.calls, Report.call?, Report.Call.answer?]

/-- A lexer that is asked often enough gives tokens, then an error at most, then nothing. -/
theorem Sound.exists_drain {h : Heap} {b : BoundMachine} {l : Lexer} (hsound : h.Sound)
    (hb : h.lexer? i = some b) (htracks : b.machine.Tracks l) :
    ∃ (n : Nat) (tokens : List TokenRef) (failure : Option Error),
      Report.answers i (h.run (List.replicate n (.next i))).1 =
        tokens.map (fun token => .ok (some token)) ++ failure.toList.map .error ++ [.ok none] := by
  obtain ⟨s, hs⟩ := hsound.exists_store hb
  have hkeyed := hsound.tables.keyed_of_store? hs
  have hmirrors : Scene.Mirrors ⟨b.machine, s, []⟩ (turnOf b s) _ :=
    Scene.turn_mirrors htracks hkeyed
  have hsound' := (h.effect_perform (.next i)).sound hsound
  have hb' : (h.perform (.next i)).2.lexer? i =
      some ⟨b.table, (turnOf b s).scene.machine⟩ := by
    rw [perform_next hb hs, lexer?_setLexer (h := h.put _ _) hb, if_pos rfl]
  match hanswer : (turnOf b s).answer with
  | .ok none     =>
    refine ⟨1, [], none, ?_⟩
    rw [List.replicate_one, answers_next hb hs, hanswer]
    rfl
  | .error e     =>
    have hended := hsound.ended_of_error hb hs hanswer
    refine ⟨2, [], some e, ?_⟩
    rw [List.replicate_succ, List.replicate_one, answers_next hb hs, hanswer,
      hsound'.answers_of_ended hb' hended]
    rfl
  | .ok (some t) =>
    -- the lexer that the machine follows has less of the text left
    have htoken : (l.next s.registry.erase).answer = .ok (some t.token) := by
      rw [← hmirrors.answer, hanswer]
      rfl
    have hshorter := Lexer.next_shortens htoken
    obtain ⟨n, tokens, failure, hrest⟩ := exists_drain hsound' hb' hmirrors.machine
    refine ⟨n + 1, t :: tokens, failure, ?_⟩
    rw [List.replicate_succ, answers_next hb hs, hanswer, hrest]
    rfl
termination_by l.input.length

/-! ### Lexers in a run -/

/-- What a run with these reports did to the lexer in a slot, and what the lexer does from then
on. -/
structure FailFast (reports : List Report) (h : Heap) (i : Nat) (b : BoundMachine) : Prop where
  /-- The lexer gave tokens, then one error at most, then nothing. -/
  answers : ∃ (tokens : List TokenRef) (failure : Option Error) (n : Nat),
    Report.answers i reports =
      tokens.map (fun token => .ok (some token)) ++
        (failure.toList.map .error ++ List.replicate n (.ok none))
  /-- An error is about one character that starts neither a word nor a numeral. -/
  illegal : ∀ e, .error e ∈ Report.answers i reports → e.IsIllegal
  /-- The stream has ended exactly if a search gave no token or the lexer was closed. -/
  ended_iff : b.machine.ended = true ↔ ∃ call ∈ Report.calls i reports, call.ends = true
  /-- The stream has ended exactly if the source is released. -/
  ended_iff_released : b.machine.ended = true ↔ b.machine.source = none
  /-- The source is released once, if it is. -/
  released_once : ((Report.calls i reports).flatMap Report.Call.events).countP Event.isClosed =
    if b.machine.ended then 1 else 0
  /-- Once the stream has ended, a call changes nothing at all. -/
  still : b.machine.ended = true →
    h.perform (.next i) = (.next i b.table (.ok none) [], h) ∧
      h.perform (.close i) = (.closed i [], h)
  /-- Once the stream has ended, the lexer stays as it is and has no more tokens, whatever is done
  elsewhere. -/
  stays : b.machine.ended = true → ∀ actions,
    (h.run actions).2.lexer? i = some b ∧
      ∀ answer ∈ Report.answers i (h.run actions).1, answer = .ok none
  /-- Asked often enough, the lexer gives tokens, then one error at most, then nothing. -/
  drains : ∃ (n : Nat) (tokens : List TokenRef) (failure : Option Error),
    Report.answers i (h.run (List.replicate n (.next i))).1 =
      tokens.map (fun token => .ok (some token)) ++ failure.toList.map .error ++ [.ok none]

/-- Every lexer of a run fails fast, whatever else happens in the run. -/
theorem failFast_of_run (d : Directory) (actions : List Action) {i : Nat} {b : BoundMachine}
    (hb : ((start d).run actions).2.lexer? i = some b) :
    FailFast ((start d).run actions).1 ((start d).run actions).2 i b := by
  have hsound := (sound_start d).run actions
  have hhistory := (history_of_run d actions i).1 b hb
  obtain ⟨l, htracks⟩ := hsound.tracks hb
  constructor
  case answers =>
    obtain ⟨tokens, failure, n, hanswers, -⟩ := hhistory.answers
    exact ⟨tokens, failure, n, hanswers⟩
  case illegal            => exact hhistory.illegal
  case ended_iff          => exact hhistory.ended_iff
  case ended_iff_released => exact htracks.source_eq_none_iff.symm
  case released_once      => exact hhistory.countP_events
  case still              => exact hsound.perform_of_ended hb
  case stays              => exact hsound.run_of_ended hb
  case drains             => exact hsound.exists_drain hb htracks

/-- A lexer comes upon a character that starts no lexeme; another one reads on, on the same
registry. -/
theorem failFast_of_run_illegal :
    let actions : List Action := [.newSeeded .listed, .newLexer 0 (.text "x @ y" none),
      .newLexer 0 (.text "x" none), .next 0, .next 1, .next 0, .seed 0 .listed, .next 0, .close 0]
    let b : BoundMachine := ⟨0, ⟨defaultFile, none, none, ⟨1, 3⟩, true⟩⟩
    ((start ⟨[]⟩).run actions).2.lexer? 0 = some b ∧
      FailFast ((start ⟨[]⟩).run actions).1 ((start ⟨[]⟩).run actions).2 0 b := by
  have hb : ((start ⟨[]⟩).run [.newSeeded .listed, .newLexer 0 (.text "x @ y" none),
      .newLexer 0 (.text "x" none), .next 0, .next 1, .next 0, .seed 0 .listed, .next 0,
      .close 0]).2.lexer? 0 = some ⟨0, ⟨defaultFile, none, none, ⟨1, 3⟩, true⟩⟩ := by
    decide +kernel
  exact ⟨hb, failFast_of_run _ _ hb⟩

end Heap

end Lexis
