import Lexis.Proofs.FailFast
import Lexis.Proofs.Gap
import Lexis.Proofs.Loop

/-!
# Searches get on

What a search takes off the text is the token that it gives out, or the character that starts none,
and the blanks and comments in front of it (`SymbolTable.Consumes`, `Lexer.consumes_next`). So each
token and each error of a lexer is paid for with a character, and the lexer has no more of them to
give than there are characters left, whatever else happens on its registry (`Heap.GivesAtMost`,
`Heap.Sound.givesAtMost`).
-/

namespace Lexis

open Character

/-! ### What a search takes -/

namespace SymbolTable

/-- A text begins with blanks and with comments that the table knows, and goes on with the rest. A
comment takes the rest of its line. -/
inductive Passes (t : SymbolTable) : List Char → List Char → Prop where
  | done (text : List Char) : Passes t text text
  | blank {c : Char} {text rest : List Char} (hc : isBlank c = true) (h : Passes t text rest) :
      Passes t (c :: text) rest
  | comment {c : Char} {text rest : List Char} (hblank : isBlank c = false)
      (hopens : opensComment t c text = true) (h : Passes t (Text.afterLine text) rest) :
      Passes t (c :: text) rest

/-- What a search takes off a text for its answer, and what is left then. Only blanks and comments
are in front of a lexeme or of an illegal character, and an error leaves nothing. -/
inductive Consumes (t : SymbolTable) :
    List Char → Except Error (Option Token) → List Char → Prop where
  | token {text rest : List Char} {token : Token}
      (hpasses : t.Passes text (token.lexeme.toList ++ rest)) (hne : token.lexeme ≠ "") :
      Consumes t text (.ok (some token)) rest
  | illegal {text rest : List Char} {c : Char} {e : Error} (hpasses : t.Passes text (c :: rest))
      (hfault : e.fault = .illegalLexeme (String.ofList [c])) : Consumes t text (.error e) []
  | ending {text : List Char} (hpasses : t.Passes text []) : Consumes t text (.ok none) []

lemma Passes.isSuffix {t : SymbolTable} {text rest : List Char} (h : t.Passes text rest) :
    rest <:+ text := by
  induction h with
  | done text => exact List.suffix_rfl
  | blank hc _ ih => exact ih.trans (List.suffix_cons _ _)
  | @comment c text _ _ hopens _ ih =>
    have hline : Text.afterLine text <:+ text := ⟨_, Text.firstLine_append_afterLine text⟩
    exact ih.trans (hline.trans (List.suffix_cons _ _))

/-- Skipping passes over blanks and comments. -/
lemma passes_skip (t : SymbolTable) (l : Location) (text : List Char) :
    t.Passes text (Trivia.skip t false l text).rest := by
  match text with
  | [] => exact .done []
  | c :: text =>
    cases hblank : isBlank c with
    | true =>
      rw [Trivia.skip_blank hblank]
      exact .blank hblank (passes_skip t _ text)
    | false =>
      cases hopens : opensComment t c text with
      | true =>
        have hle := Text.length_afterLine_le text
        rw [Trivia.skip_comment hblank hopens, Trivia.skip_inside_eq]
        exact .comment hblank hopens (passes_skip t _ (Text.afterLine text))
      | false =>
        rw [Trivia.skip_stop hblank hopens]
        exact .done _
termination_by text.length

end SymbolTable

namespace Lexer

/-- What is not scanned yet. -/
def left (l : Lexer) : List Char := if l.ended then [] else l.input

/-- In front of a lexeme a step takes that lexeme. -/
lemma consumes_nextAt {l : Lexer} (hopen : l.ended = false) {t : SymbolTable}
    {text rest : List Char} (hpasses : t.Passes text rest) (place : Location) :
    t.Consumes text (l.nextAt t place rest).answer (l.nextAt t place rest).lexer.left := by
  cases rest with
  | nil => exact .ending hpasses
  | cons c rest =>
    cases hread : Piece.read? t c rest with
    | none =>
      rw [nextAt_of_none hread]
      exact .illegal hpasses rfl
    | some p =>
      -- the symbol has the characters that are cut off, also where the table knew it before
      obtain ⟨⟨after, hafter⟩, hne⟩ := Piece.text_of_read? hread
      have hchars : (p.enter t).1.lexeme.toList = p.text := p.toList_lexeme_enter t
      have hdrop : (c :: rest).drop p.text.length = after := by rw [← hafter, List.drop_left]
      rw [nextAt_of_some hread, hdrop]
      have hleft : left { l with input := after, location := place.advance p.text } = after :=
        if_neg (by simp [hopen])
      rw [hleft]
      refine .token ?_ ?_
      · show t.Passes text ((p.enter t).1.lexeme.toList ++ after)
        rwa [hchars, hafter]
      · show (p.enter t).1.lexeme ≠ ""
        intro hempty
        rw [hempty] at hchars
        exact hne hchars.symm

/-- A step takes a token off the text, or the character that starts none, or all of it. -/
theorem consumes_next (l : Lexer) (t : SymbolTable) :
    t.Consumes l.left (l.next t).answer (l.next t).lexer.left := by
  cases hended : l.ended with
  | true =>
    have hleft : l.left = [] := if_pos hended
    rw [next_of_ended hended, hleft]
    exact .ending (.done [])
  | false =>
    have hleft : l.left = l.input := if_neg (by simp [hended])
    rw [next_of_open hended, hleft]
    exact consumes_nextAt hended (t.passes_skip l.location l.input) _

end Lexer

lemma Machine.Stands.left_eq {file : String} {m : Machine} {l : Location} {text : List Char}
    (h : m.Stands file l text) : m.left = text := by
  cases h with
  | atEnd _ _ hrest  => exact hrest
  | here _ _ hrest _ => exact congrArg _ hrest

lemma Machine.Tracks.left_eq {m : Machine} {l : Lexer} (h : m.Tracks l) : m.left = l.left := by
  cases h with
  | opened hopen h   => rw [h.left_eq, Lexer.left, hopen, if_neg Bool.false_ne_true]
  | released hended => rw [Lexer.left, if_pos hended]; rfl

/-! ### What a lexer gives -/

namespace Report

/-- What an answer is in an iteration: a token or an error, or nothing at the end of the stream. -/
def item? {α : Type} : Except Error (Option α) → Option (Except Error α)
  | .ok (some a) => some (.ok a)
  | .ok none     => none
  | .error e     => some (.error e)

/-- The tokens and errors that the searches of the lexer in a slot gave. -/
def items (i : Nat) (reports : List Report) : List (Except Error TokenRef) :=
  (answers i reports).filterMap item?

lemma answers_cons (i : Nat) (report : Report) (reports : List Report) :
    answers i (report :: reports) =
      ((report.call? i).bind Call.answer?).toList ++ answers i reports := by
  rw [answers, calls_cons, List.filterMap_append]
  cases report.call? i with
  | none      => rfl
  | some call => cases h : call.answer? <;> simp [answers, h]

lemma items_cons (i : Nat) (report : Report) (reports : List Report) :
    items i (report :: reports) =
      (((report.call? i).bind Call.answer?).bind item?).toList ++ items i reports := by
  rw [items, answers_cons, List.filterMap_append]
  cases h : (report.call? i).bind Call.answer? with
  | none        => rfl
  | some answer => cases h' : item? answer <;> simp [items, h']

/-- An answer that is no item says that the stream has ended. -/
lemma mem_answers_of_length_lt {i : Nat} {reports : List Report}
    (h : (items i reports).length < (answers i reports).length) : .ok none ∈ answers i reports := by
  by_contra habsent
  have hlength : (items i reports).length = (answers i reports).length := by
    rw [items, List.length_filterMap_eq_countP, List.countP_eq_length]
    intro answer hanswer
    match answer with
    | .ok (some _) | .error _ => rfl
    | .ok none                => exact absurd hanswer habsent
  exact absurd h (by omega)

end Report

/-- Whether the action is a search of the lexer in a slot. -/
def Action.searches (i : Nat) : Action → Bool
  | .next j => j == i
  | _       => false

/-- An item is paid for with a character. -/
lemma SymbolTable.Consumes.length_add {t : SymbolTable} {text rest : List Char}
    {answer : Except Error (Option TokenRef)}
    (h : t.Consumes text (answer.map (·.map TokenRef.token)) rest) :
    (Report.item? answer).toList.length + rest.length ≤ text.length := by
  match answer, h with
  | .ok (some x), .token hpasses hne =>
    have hle := hpasses.isSuffix.length_le
    have hpos : x.token.lexeme.toList.length ≠ 0 := by simpa using hne
    rw [List.length_append] at hle
    show 1 + rest.length ≤ text.length
    omega
  | .error _, .illegal hpasses _ =>
    have hle := hpasses.isSuffix.length_le
    exact Nat.le_trans (Nat.le_add_left 1 _) hle
  | .ok none, .ending _ => exact Nat.zero_le _

namespace Heap

variable {h h' : Heap} {action : Action} {report : Report} {i : Nat} {b : BoundMachine}

/-- A search takes off what is left of the text what the step of a lexer takes. -/
lemma Sound.consumes_turn {s : Store} (hsound : h.Sound) (hb : h.lexer? i = some b)
    (hs : h.tables.store? b.table = some s) :
    s.registry.erase.Consumes b.machine.left ((turnOf b s).answer.map (·.map TokenRef.token))
      (turnOf b s).scene.machine.left := by
  obtain ⟨l, htracks, hmirrors⟩ := hsound.mirrors hb hs
  rw [hmirrors.answer, htracks.left_eq, hmirrors.machine.left_eq]
  exact l.consumes_next s.registry.erase

/-- An action gives no more items of a lexer than it takes characters off the text. -/
lemma Effect.length_items (heffect : h.Effect action report h') (hsound : h.Sound)
    (hb : h.lexer? i = some b) :
    ∃ b', h'.lexer? i = some b' ∧
      (((report.call? i).bind Report.Call.answer?).bind Report.item?).toList.length +
        b'.machine.left.length ≤ b.machine.left.length := by
  -- only calls of this lexer take anything, and closing it takes all that is left
  cases heffect with
  | absent | newTable | newSeeded | seed | intern | lookup | contains | size =>
    exact ⟨b, hb, (Nat.zero_add _).le⟩
  | failed _ _ => exact ⟨b, lexer?_append_of_some hb _, (Nat.zero_add _).le⟩
  | lexer _ _  => exact ⟨b, lexer?_append_of_some hb _, (Nat.zero_add _).le⟩
  | @next j c s hc hs =>
    rw [lexer?_setLexer (h := h.put _ _) hc, Report.call?]
    by_cases heq : j = i
    · obtain rfl : c = b := Option.some.inj (hc.symm.trans (heq ▸ hb))
      rw [if_pos heq, if_pos heq]
      exact ⟨_, rfl, (hsound.consumes_turn hc hs).length_add⟩
    · rw [if_neg heq, if_neg heq]
      exact ⟨b, hb, (Nat.zero_add _).le⟩
  | @close j c hc =>
    rw [lexer?_setLexer hc, Report.call?]
    by_cases heq : j = i
    · rw [if_pos heq, if_pos heq]
      exact ⟨_, rfl, Nat.zero_le _⟩
    · rw [if_neg heq, if_neg heq]
      exact ⟨b, hb, (Nat.zero_add _).le⟩

/-- However a run goes on, a lexer gives no more items than there are characters left. -/
theorem Sound.length_items_run (hsound : h.Sound) (hb : h.lexer? i = some b)
    (actions : List Action) :
    (Report.items i (h.run actions).1).length ≤ b.machine.left.length := by
  induction actions generalizing h b with
  | nil => exact Nat.zero_le _
  | cons action actions ih =>
    have heffect := h.effect_perform action
    obtain ⟨b', hb', hle⟩ := heffect.length_items hsound hb
    have hrest := ih (heffect.sound hsound) hb'
    rw [run_cons, Report.items_cons, List.length_append]
    omega

/-- A search is answered, and nothing else is. -/
lemma Sound.length_answer (hsound : h.Sound) (hb : h.lexer? i = some b) (action : Action) :
    (((h.perform action).1.call? i).bind Report.Call.answer?).toList.length =
      if action.searches i then 1 else 0 := by
  cases hsearches : action.searches i with
  | true =>
    cases action with
    | next j =>
      obtain rfl : j = i := by simpa [Action.searches] using hsearches
      obtain ⟨s, hs⟩ := hsound.exists_store hb
      simp [perform_next hb hs, Report.call?, Report.Call.answer?]
    | _ => cases hsearches
  | false =>
    have heffect := h.effect_perform action
    generalize h.perform action = outcome at heffect
    obtain ⟨report, h'⟩ := outcome
    cases heffect with
    | @next j _ _ _ _ =>
      have hne : j ≠ i := by simpa [Action.searches] using hsearches
      simp [Report.call?, hne]
    | @close j _ _ => by_cases heq : j = i <;> simp [Report.call?, heq, Report.Call.answer?]
    | _ => rfl

/-- However a run goes on, a lexer answers every search. -/
theorem Sound.length_answers_run (hsound : h.Sound) (hb : h.lexer? i = some b)
    (actions : List Action) :
    (Report.answers i (h.run actions).1).length = actions.countP (·.searches i) := by
  induction actions generalizing h b with
  | nil => rfl
  | cons action actions ih =>
    have heffect := h.effect_perform action
    obtain ⟨b', hb', -⟩ := heffect.length_items hsound hb
    have hanswer := hsound.length_answer hb action
    have hrest := ih (heffect.sound hsound) hb'
    rw [run_cons, Report.answers_cons, List.length_append, hanswer, hrest, List.countP_cons,
      Nat.add_comm]

/-- However a run goes on, the lexer in a slot gives so many items at most. Asked more often, it
says that the stream has ended. -/
structure GivesAtMost (h : Heap) (i n : Nat) : Prop where
  items : ∀ actions, (Report.items i (h.run actions).1).length ≤ n
  ends : ∀ actions, n < actions.countP (·.searches i) →
    .ok none ∈ Report.answers i (h.run actions).1

theorem Sound.givesAtMost (hsound : h.Sound) (hb : h.lexer? i = some b) :
    h.GivesAtMost i b.machine.left.length where
  items := hsound.length_items_run hb
  ends actions hasked := by
    rw [← hsound.length_answers_run hb actions] at hasked
    exact Report.mem_answers_of_length_lt
      (Nat.lt_of_le_of_lt (hsound.length_items_run hb actions) hasked)

/-- A new lexer has left what its reader has left. -/
lemma exists_left_of_new {table slot : Nat} {opening : Opening}
    (hnew : h.perform (.newLexer table opening) = (.lexer slot, h')) :
    ∃ r b, opening.readIn h.directory = .ok r ∧ h'.lexer? slot = some b ∧
      b.machine.left = r.rest := by
  have heffect := h.effect_perform (.newLexer table opening)
  rw [hnew] at heffect
  cases heffect with
  | @lexer _ s _ m hs hm =>
    cases hr : opening.readIn h.directory with
    | error e => rw [hr] at hm; cases hm
    | ok r =>
      rw [hr] at hm
      have hleft : m.left = r.rest := by
        cases hclosed : r.closed with
        | false =>
          obtain ⟨m', hm', hstands⟩ := Machine.new_stands hclosed
          obtain rfl := Except.ok.inj (hm'.symm.trans hm)
          exact hstands.left_eq
        | true => cases (Machine.new_of_closed hclosed).symm.trans hm
      exact ⟨r, ⟨table, m⟩, rfl, by rw [lexer?_append, if_pos rfl], hleft⟩

/-! ### Lexers in a run -/

/-- How the lexer in a slot gets on. -/
structure Progress (h : Heap) (i : Nat) (b : BoundMachine) : Prop where
  /-- A search comes to an answer, and takes that off the text. -/
  turn : ∃ s answer events m h', h.tables.store? b.table = some s ∧
    h.perform (.next i) = (.next i b.table answer events, h') ∧
    h'.lexer? i = some ⟨b.table, m⟩ ∧
    s.registry.erase.Consumes b.machine.left (answer.map (·.map TokenRef.token)) m.left
  /-- There are no more items to come than there are characters left. -/
  items : h.GivesAtMost i b.machine.left.length

lemma Sound.progress (hsound : h.Sound) (hb : h.lexer? i = some b) : h.Progress i b where
  turn := by
    obtain ⟨s, hs⟩ := hsound.exists_store hb
    have hnext := perform_next hb hs
    refine ⟨s, _, _, (turnOf b s).scene.machine, _, hs, hnext, ?_, hsound.consumes_turn hb hs⟩
    rw [lexer?_setLexer (h := h.put _ _) hb, if_pos rfl]
  items := hsound.givesAtMost hb

/-- Searches get on and end, on whatever registries. The loops end, after no more rounds than there
are characters left; each search takes its token off the text, or the character that starts none;
and a lexer gives no more tokens and errors than its source has characters. -/
theorem progress_of_run :
    (∀ (p : Char → Location → Bool) (m : Machine),
      ∃ n ≤ m.left.length, EndsAfter (Machine.skipRound p) n ((), m) (m.skipWhile p)) ∧
    (∀ (p : Char → Bool) (d : Draft) (m : Machine),
      ∃ n ≤ m.left.length, EndsAfter (Machine.takeRound p) n (d, m) (m.takeWhile p d)) ∧
    (∀ s : Scene, ∃ n ≤ s.machine.left.length, EndsAfter Scene.round n s s.next) ∧
    (∀ (d : Directory) (actions : List Action) (i : Nat) (b : BoundMachine),
      ((start d).run actions).2.lexer? i = some b → ((start d).run actions).2.Progress i b) ∧
    ∀ (d : Directory) (actions : List Action) (table slot : Nat) (opening : Opening) (h : Heap),
      ((start d).run actions).2.perform (.newLexer table opening) = (.lexer slot, h) →
        ∃ r, opening.readIn ((start d).run actions).2.directory = .ok r ∧
          h.GivesAtMost slot r.rest.length := by
  refine ⟨?_, ?_, ?_, ?_, ?_⟩
  · exact Machine.exists_endsAfter_skip
  · exact Machine.exists_endsAfter_take
  · exact Scene.exists_endsAfter_next
  · intro d actions i b hb
    exact ((sound_start d).run actions).progress hb
  · intro d actions table slot opening h hnew
    obtain ⟨r, b, hr, hb, hleft⟩ := exists_left_of_new hnew
    have hsound := ((sound_start d).run actions)
    have heffect := ((start d).run actions).2.effect_perform (.newLexer table opening)
    rw [hnew] at heffect
    exact ⟨r, hr, hleft ▸ (heffect.sound hsound).givesAtMost hb⟩

/-- A registry with a comment and an operator of its own: a lexer stands in front of both, and
another one is made. -/
theorem progress_of_run_registered :
    let actions : List Action := [.newTable, .intern 0 "#!" .comment,
      .intern 0 "@@" (.operator .plus), .newLexer 0 (.text "x #! y\n @@?" none), .next 0]
    let r : Reader := ⟨defaultFile, "#! y\n @@?".toList, ⟨1, 1⟩, ⟨1, 2⟩, false⟩
    let b : BoundMachine := ⟨0, ⟨defaultFile, some r, some ' ', ⟨1, 1⟩, false⟩⟩
    ((start ⟨[]⟩).run actions).2.lexer? 0 = some b ∧
      ((start ⟨[]⟩).run actions).2.Progress 0 b ∧
      ∃ h, ((start ⟨[]⟩).run actions).2.perform (.newLexer 0 (.text "@@ #!" none)) = (.lexer 1, h) ∧
        h.GivesAtMost 1 5 := by
  intro actions r b
  obtain ⟨-, -, -, hprogress, hnew⟩ := progress_of_run
  have hb : ((start ⟨[]⟩).run actions).2.lexer? 0 = some b := by decide +kernel
  obtain ⟨r', hr', hgives⟩ := hnew ⟨[]⟩ actions 0 1 (.text "@@ #!" none) _ rfl
  obtain rfl := Except.ok.inj hr'
  exact ⟨hb, hprogress ⟨[]⟩ actions 0 b hb, _, rfl, hgives⟩

end Heap

end Lexis
