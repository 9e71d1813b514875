import Lexis.Proofs.Kind
import Lexis.Proofs.Search

/-!
# What searches for tokens add

What several searches add to a registry is the words and numerals among the tokens that they give
out, with one object for each lexeme (`Store.Gains`, `Scene.gains_turns`). If the registry was
seeded and a source is scanned on it from the start, the tokens are those of the source
(`Scene.Follows.answers_turns`), and every entry has the kind that the characters of its lexeme
settle (`Kind.ofLexeme`, `Lexeme.kind_eq`).
-/

namespace Lexis

open Character

/-! ### Several searches -/

/-- What several searches for a token give, and the scene that the last one leaves. -/
structure Scene.Turns where
  answers : List (Except Error (Option TokenRef))
  scene : Scene

/-- Search for a token so many times. -/
def Scene.turns (s : Scene) : Nat → Turns
  | 0     => ⟨[], s⟩
  | n + 1 =>
    let rest := s.turn.scene.turns n
    ⟨s.turn.answer :: rest.answers, rest.scene⟩

/-- The tokens among the answers. -/
def TokenRef.given (answers : List (Except Error (Option TokenRef))) : List TokenRef :=
  answers.filterMap fun
    | .ok t    => t
    | .error _ => none

/-- What was added to a store when these tokens were given out: their words and numerals, with one
object for each lexeme. -/
structure Store.Gains (before : Store) (tokens : List TokenRef) (added : List (String × SymbolRef))
    (s : Store) : Prop where
  entries_eq : s.registry.entries = before.registry.entries ++ added
  nodup : (s.registry.entries.map (·.1)).Nodup
  mem_iff : ∀ lexeme x, (lexeme, x) ∈ added ↔
    x.symbol.lexeme = lexeme ∧ x.symbol.kind.isOpen = true ∧ ∃ t ∈ tokens, t.symbol = x

namespace Store.Gains

variable {before s s' : Store} {tokens : List TokenRef} {added : List (String × SymbolRef)}

/-- A token with an object that was there adds nothing. -/
lemma again (h : before.Gains tokens added s)
    (hclosed : ∀ entry ∈ before.registry.entries, entry.2.symbol.kind.isOpen = false)
    {t : TokenRef} {lexeme : String} (hfind : s.registry.find? lexeme = some t.symbol) :
    before.Gains (tokens ++ [t]) added s := by
  refine ⟨h.entries_eq, h.nodup, fun lexeme' x => ?_⟩
  constructor
  · intro hmem
    obtain ⟨hlexeme, hopen, t', ht', hx⟩ := (h.mem_iff lexeme' x).1 hmem
    exact ⟨hlexeme, hopen, t', List.mem_append_left _ ht', hx⟩
  · rintro ⟨rfl, hopen, t', ht', rfl⟩
    rcases List.mem_append.1 ht' with ht' | ht'
    · exact (h.mem_iff _ _).2 ⟨rfl, hopen, t', ht', rfl⟩
    · -- the object of a word or a numeral is none of those that were there before
      obtain rfl := List.mem_singleton.1 ht'
      have hentry := Registry.mem_of_find? hfind
      rw [h.entries_eq] at hentry
      rcases List.mem_append.1 hentry with hbefore | hadded
      · exact absurd hopen (by simp [hclosed _ hbefore])
      · obtain ⟨rfl, -, -⟩ := (h.mem_iff _ _).1 hadded
        exact hadded

/-- A token with a new object adds that object. -/
lemma another (h : before.Gains tokens added s) {t : TokenRef} {lexeme : String}
    (habsent : s.registry.find? lexeme = none) (hlexeme : t.symbol.symbol.lexeme = lexeme)
    (hopen : t.symbol.symbol.kind.isOpen = true)
    (hentries : s'.registry.entries = s.registry.entries ++ [(lexeme, t.symbol)]) :
    before.Gains (tokens ++ [t]) (added ++ [(lexeme, t.symbol)]) s' := by
  refine ⟨?_, ?_, fun lexeme' x => ?_⟩
  · rw [hentries, h.entries_eq, List.append_assoc]
  · have hnew := Registry.fst_ne_of_find? habsent
    rw [hentries, List.map_append, List.nodup_append]
    refine ⟨h.nodup, by simp, ?_⟩
    simpa using hnew
  · rw [List.mem_append, h.mem_iff, List.mem_singleton, Prod.mk.injEq]
    constructor
    · rintro (⟨hx, hkind, t', ht', rfl⟩ | ⟨rfl, rfl⟩)
      · exact ⟨hx, hkind, t', List.mem_append_left _ ht', rfl⟩
      · exact ⟨hlexeme, hopen, t, by simp, rfl⟩
    · rintro ⟨rfl, hkind, t', ht', rfl⟩
      rcases List.mem_append.1 ht' with ht' | ht'
      · exact Or.inl ⟨rfl, hkind, t', ht', rfl⟩
      · obtain rfl := List.mem_singleton.1 ht'
        exact Or.inr ⟨hlexeme, rfl⟩

/-- A search adds the object of the token that it gives out, if it is new. -/
lemma leaves {answer : Except Error (Option TokenRef)} (h : before.Gains tokens added s)
    (hclosed : ∀ entry ∈ before.registry.entries, entry.2.symbol.kind.isOpen = false)
    (hleaves : s.Leaves answer s') :
    ∃ added', before.Gains (tokens ++ TokenRef.given [answer]) added' s' := by
  cases hleaves with
  | same hfound =>
    match answer with
    | .error e | .ok none => exact ⟨added, by simpa [TokenRef.given] using h⟩
    | .ok (some t) =>
      obtain ⟨lexeme, hfind⟩ := hfound t rfl
      exact ⟨added, h.again hclosed hfind⟩
  | @added lexeme kind span habsent hkind =>
    refine ⟨_, h.another habsent rfl ?_ rfl⟩
    rcases hkind with rfl | rfl <;> rfl

end Store.Gains

/-- However many searches there are, they add the objects of the words and numerals that they give
out. -/
theorem Scene.gains_turns {before : Store}
    (hclosed : ∀ entry ∈ before.registry.entries, entry.2.symbol.kind.isOpen = false)
    {s : Scene} {tokens : List TokenRef} {added : List (String × SymbolRef)}
    (h : before.Gains tokens added s.store) (n : Nat) :
    ∃ added', before.Gains (tokens ++ TokenRef.given (s.turns n).answers) added'
      (s.turns n).scene.store := by
  induction n generalizing s tokens added with
  | zero => exact ⟨added, by simpa [turns, TokenRef.given] using h⟩
  | succ n ih =>
    obtain ⟨added₁, h₁⟩ := h.leaves hclosed s.leaves_turn
    obtain ⟨added₂, h₂⟩ := ih h₁
    rw [List.append_assoc, TokenRef.given, TokenRef.given, ← List.filterMap_append] at h₂
    exact ⟨added₂, h₂⟩

/-! ### Seeded registries -/

namespace Store

variable (fresh : Nat) (order : SeedOrder)

lemma nodup_keys_seed :
    ((Store.seed ⟨{}, fresh⟩ order).registry.entries.map (·.1)).Nodup :=
  (grows_seed ⟨{}, fresh⟩ order).nodup_keys .nil

/-- A seeded registry has no words but the reserved ones, and no numerals. -/
lemma isOpen_of_mem_seed :
    ∀ entry ∈ (Store.seed ⟨{}, fresh⟩ order).registry.entries,
      entry.2.symbol.kind.isOpen = false := by
  rintro ⟨lexeme, x⟩ hmem
  have hfind := (lookup_iff_mem (nodup_keys_seed fresh order) lexeme x).2 hmem
  have hsymbol := symbol_seed ⟨{}, fresh⟩ order lexeme
  have hsome : (Store.seed ⟨{}, fresh⟩ order).symbol? lexeme = some x.symbol :=
    congrArg (Option.map SymbolRef.symbol) hfind
  rw [hsome, ← order.kind?_words] at hsymbol
  obtain ⟨kind, hkind, hx⟩ := Option.map_eq_some_iff.1 hsymbol.symm
  have hword := order.words_perm.mem_iff.1 (Vocabulary.mem_of_kind? hkind)
  rw [← hx]
  exact Vocabulary.isOpen_of_mem_fixed hword

lemma gains_seed : (Store.seed ⟨{}, fresh⟩ order).Gains [] [] (Store.seed ⟨{}, fresh⟩ order) where
  entries_eq := (List.append_nil _).symm
  nodup := nodup_keys_seed fresh order
  mem_iff := by simp

end Store

/-! ### Draining -/

/-- The answers that a drain is made of. -/
def Drain.answers (d : Drain) : List (Except Error (Option Token)) :=
  d.tokens.map (fun token => .ok (some token)) ++ d.failure.toList.map .error

namespace Lexer

variable {l : Lexer} {t : SymbolTable}

lemma answers_drain_of_none (h : (l.next t).answer = .ok none) : (l.drain t).answers = [] := by
  rw [drain_of_none h]
  rfl

lemma answers_drain_of_error {e : Error} (h : (l.next t).answer = .error e) :
    (l.drain t).answers = [.error e] := by
  rw [drain_of_error h]
  rfl

lemma answers_drain_of_some {token : Token} (h : (l.next t).answer = .ok (some token)) :
    (l.drain t).answers =
      .ok (some token) :: ((l.next t).lexer.drain (l.next t).table).answers := by
  rw [drain_of_some h]
  rfl

/-- When a lexer has come to an end, nothing is left to drain. -/
lemma answers_drain_next (h : ∀ token, (l.next t).answer ≠ .ok (some token)) :
    ((l.next t).lexer.drain (l.next t).table).answers = [] := by
  apply answers_drain_of_none
  rw [next_of_ended (ended_of_no_token h)]

end Lexer

/-- A machine that follows a lexer, on a registry in which every entry has its own kind. -/
structure Scene.Follows (s : Scene) (l : Lexer) : Prop where
  tracks : s.machine.Tracks l
  keyed : s.store.registry.Keyed
  lexical : s.store.registry.erase.Lexical

namespace Scene.Follows

variable {s : Scene} {l : Lexer}

lemma turn (h : s.Follows l) : s.turn.scene.Follows (l.next s.store.registry.erase).lexer := by
  have hmirrors := turn_mirrors h.tracks h.keyed
  refine ⟨hmirrors.machine, hmirrors.store.keyed h.keyed, ?_⟩
  rw [hmirrors.table]
  exact (Lexer.next_of_lexical h.lexical h.lexical l).2

lemma turns (h : s.Follows l) (n : Nat) : ∃ l', (s.turns n).scene.Follows l' := by
  induction n generalizing s l with
  | zero      => exact ⟨l, h⟩
  | succ n ih => exact ih h.turn

/-- A machine gives the answers that the lexer has when it is drained, and none after them. -/
theorem answers_turns (h : s.Follows l) (n : Nat) :
    (s.turns n).answers.map (·.map (·.map TokenRef.token)) =
      (List.range n).map fun i => (l.drain s.store.registry.erase).answers.getD i (.ok none) := by
  induction n generalizing s l with
  | zero => rfl
  | succ n ih =>
    have hmirrors := turn_mirrors h.tracks h.keyed
    have hrest := ih h.turn
    rw [hmirrors.table] at hrest
    rw [Scene.turns, List.map_cons, hmirrors.answer, hrest, List.range_succ_eq_map, List.map_cons,
      List.map_map]
    match hanswer : (l.next s.store.registry.erase).answer with
    | .ok none =>
      rw [Lexer.answers_drain_of_none hanswer, Lexer.answers_drain_next (by simp [hanswer])]
      rfl
    | .error e =>
      rw [Lexer.answers_drain_of_error hanswer, Lexer.answers_drain_next (by simp [hanswer])]
      rfl
    | .ok (some token) =>
      rw [Lexer.answers_drain_of_some hanswer]
      rfl

/-- What is given out has a kind that tokens have. -/
lemma kind_ne_of_turn (h : s.Follows l) {t : TokenRef} (hanswer : s.turn.answer = .ok (some t)) :
    t.token.kind ≠ .comment ∧ t.token.kind ≠ .bogus := by
  have hstep := (turn_mirrors h.tracks h.keyed).answer
  rw [hanswer] at hstep
  replace hstep : .ok (some t.token) = (l.next s.store.registry.erase).answer := hstep
  cases hended : l.ended with
  | true =>
    rw [Lexer.next_of_ended hended] at hstep
    cases hstep
  | false =>
    have hfinds := Lexer.finds_next h.lexical hended
    rw [← hstep] at hfinds
    generalize (l.next s.store.registry.erase).lexer = l' at hfinds
    generalize t.token = token at hfinds
    cases hfinds with
    | token _ _ hlongest hne => exact hlongest.isLexeme.kind_ne hne

lemma kind_ne_of_given (h : s.Follows l) (n : Nat) :
    ∀ t ∈ TokenRef.given (s.turns n).answers, t.token.kind ≠ .comment ∧ t.token.kind ≠ .bogus := by
  induction n generalizing s l with
  | zero => simp [Scene.turns, TokenRef.given]
  | succ n ih =>
    intro t ht
    obtain ⟨answer, hmem, hsome⟩ := List.mem_filterMap.1 ht
    rcases List.mem_cons.1 hmem with rfl | hmem
    · refine h.kind_ne_of_turn ?_
      match hanswer : s.turn.answer with
      | .error e => simp [hanswer] at hsome
      | .ok t'   => simpa [hanswer] using hsome
    · exact ih h.turn t (List.mem_filterMap.2 ⟨answer, hmem, hsome⟩)

/-- Every entry has the kind that its lexeme has. -/
lemma symbol_eq (h : s.Follows l) :
    ∀ entry ∈ s.store.registry.entries, entry.2.symbol = ⟨entry.1, Kind.ofLexeme entry.1⟩ := by
  intro entry hentry
  have hlexeme := h.keyed entry hentry
  have hkind := (h.lexical.lexeme_of_mem _ (List.mem_map_of_mem hentry)).kind_eq
  rw [String.ofList_toList, hlexeme] at hkind
  rw [← hlexeme, ← hkind.trans (congrArg _ hlexeme.symm)]

end Scene.Follows

/-- Scanning leaves in a registry what it gave out. One search for a token, from any state of a
machine on any registry, adds nothing but the object of the word or numeral that it gives out, if
that is new. If a source is scanned on a registry that was seeded in some order, then after any
number of searches the answers are those of the source, the words and numerals among them are added,
one entry for each lexeme, every entry has the kind that its lexeme has, and no token has the kind
of a comment or of nothing. -/
theorem additions_of_turns :
    (∀ s : Scene, s.store.Leaves s.turn.answer s.turn.scene.store) ∧
    ∀ (source : String) (file? : Option String) (fresh : Nat) (order : SeedOrder),
      let seeded := Store.seed ⟨{}, fresh⟩ order
      ∃ m, Machine.new (Reader.ofSource source file?) = .ok m ∧ ∀ n,
        let turns := Scene.turns ⟨m, seeded, []⟩ n
        turns.answers.map (·.map (·.map TokenRef.token)) =
            (List.range n).map (fun i => (scan source file?).answers.getD i (.ok none)) ∧
          (∃ added, seeded.Gains (TokenRef.given turns.answers) added turns.scene.store) ∧
          (∀ entry ∈ turns.scene.store.registry.entries,
            entry.2.symbol = ⟨entry.1, Kind.ofLexeme entry.1⟩) ∧
          ∀ t ∈ TokenRef.given turns.answers, t.token.kind ≠ .comment ∧ t.token.kind ≠ .bogus := by
  constructor
  · exact Scene.leaves_turn
  · intro source file? fresh order seeded
    obtain ⟨m, hnew, hstands⟩ := Machine.new_stands (r := .ofSource source file?) rfl
    obtain ⟨hkeyed, hlexical⟩ := Store.lexical_seed fresh order
    have hfollows : Scene.Follows ⟨m, seeded, []⟩ (.ofSource source file?) :=
      ⟨.opened rfl hstands, hkeyed, hlexical⟩
    refine ⟨m, hnew, fun n => ⟨?_, ?_, ?_, hfollows.kind_ne_of_given n⟩⟩
    · have hdrain := (Lexer.drain_of_lexical hlexical SymbolTable.lexical_seeded
        (.ofSource source file?)).1
      have hanswers : ((Lexer.ofSource source file?).drain seeded.registry.erase).answers =
          (scan source file?).answers := by
        rw [Drain.answers, hdrain.tokens, hdrain.failure]
        rfl
      rw [← hanswers]
      exact hfollows.answers_turns n
    · exact Scene.gains_turns (s := ⟨m, seeded, []⟩) (Store.isOpen_of_mem_seed fresh order)
        (Store.gains_seed fresh order) n
    · obtain ⟨l, hl⟩ := hfollows.turns n
      exact hl.symbol_eq

end Lexis
