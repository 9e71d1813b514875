import Lexis.Proofs.Interning
import Lexis.Proofs.Offset

/-!
# Scanning from the middle of a source

A lexer keeps nothing in mind between two tokens. If a source is read up to the end of a token and a
lexer is made of what the reader has left, then it finds what comes behind that token
(`scan_resume`). The table may be any that lexers alone have written to; and a machine on a registry
finds the same (`Scene.Drains`), although it looks at a character that it has taken from the reader
already.
-/

namespace Lexis

open Character

/-! ### Behind a token -/

/-- The offset behind the last token; zero if there is none. -/
def Token.boundary (text : List Char) (tokens : List Token) : Nat :=
  tokens.getLast?.elim 0 fun token => token.lastOffset text + 1

namespace Munch

variable {file : String} {before text : List Char} {tokens done todo : List Token} {token : Token}
  {failure : Option Error}

/-- What comes behind a token is read from its end on. -/
theorem exists_behind (h : Munch file before text (done ++ token :: todo) failure) :
    ∃ head rest, text = head ++ rest ∧ Munch file (before ++ head) rest todo failure ∧
      token.lastOffset (before ++ text) + 1 = (before ++ head).length := by
  generalize htokens : done ++ token :: todo = tokens at h
  induction h generalizing done with
  | done | illegal _ _ => simp at htokens
  | @blank before rest c tokens failure hc _ ih =>
    obtain ⟨head, rest, rfl, hbehind, hlast⟩ := ih htokens
    rw [List.append_assoc, List.append_assoc, List.singleton_append] at hlast
    rw [List.append_assoc, List.singleton_append] at hbehind
    exact ⟨c :: head, rest, rfl, hbehind, hlast⟩
  | @comment before text tokens failure _ _ ih =>
    have hsplit := Text.firstLine_append_afterLine text
    obtain ⟨head, rest, hafter, hbehind, hlast⟩ := ih htokens
    rw [List.append_assoc] at hbehind
    rw [List.append_assoc, hsplit, List.append_assoc] at hlast
    refine ⟨Text.firstLine text ++ head, rest, ?_, hbehind, hlast⟩
    rw [List.append_assoc, ← hafter, hsplit]
  | @token before text lexeme kind tokens failure hlongest _ h ih =>
    obtain ⟨rest, rfl⟩ := hlongest.isPrefix
    rw [List.drop_left] at h ih
    cases done with
    | nil =>
      obtain ⟨rfl, rfl⟩ := List.cons.inj htokens
      have hlast := Token.lastOffset_spanAt before hlongest.isLexeme.ne_nil
        (lexeme ++ rest) ⟨String.ofList lexeme, kind⟩
      exact ⟨lexeme, rest, rfl, h, by rw [hlast, List.length_append]⟩
    | cons first done =>
      obtain ⟨rfl, hrest⟩ := List.cons.inj htokens
      obtain ⟨head, rest, rfl, hbehind, hlast⟩ := ih hrest
      rw [List.append_assoc] at hbehind
      rw [List.append_assoc, List.append_assoc] at hlast
      exact ⟨lexeme ++ head, rest, (List.append_assoc _ _ _).symm, hbehind, hlast⟩

/-- A reading may be taken up where some of its tokens are done. -/
lemma exists_boundary (h : Munch file [] text (done ++ todo) failure) :
    ∃ head rest, text = head ++ rest ∧ head.length = Token.boundary text done ∧
      Munch file head rest todo failure := by
  rcases List.eq_nil_or_concat done with rfl | ⟨done, token, rfl⟩
  · exact ⟨[], text, rfl, rfl, h⟩
  · rw [List.concat_eq_append, List.append_assoc, List.singleton_append] at h
    obtain ⟨head, rest, htext, hbehind, hlast⟩ := h.exists_behind
    refine ⟨head, rest, htext, ?_, hbehind⟩
    rw [Token.boundary, List.concat_eq_append, List.getLast?_concat]
    exact hlast.symm

end Munch

/-! ### Reading on -/

/-- The reader after it was asked for a number of characters. -/
def Reader.readTimes (r : Reader) : Nat → Except Error Reader
  | 0     => .ok r
  | n + 1 => match r.read with
    | .error e          => .error e
    | .ok none          => r.readTimes n
    | .ok (some (_, r)) => r.readTimes n

/-- Reading takes characters off the text and counts them. -/
lemma Reader.exists_readTimes {r : Reader} {head rest : List Char} (hopen : r.closed = false)
    (hrest : r.rest = head ++ rest) :
    ∃ r', r.readTimes head.length = .ok r' ∧ r'.closed = false ∧ r'.file = r.file ∧
      r'.rest = rest ∧ r'.upcoming = r.upcoming.advance head := by
  induction head generalizing r with
  | nil => exact ⟨r, rfl, hopen, rfl, hrest, rfl⟩
  | cons c head ih =>
    have hread : r.read = .ok (some (c, { r with
        rest     := head ++ rest
        last     := r.upcoming
        upcoming := r.upcoming.next c })) := by simp [Reader.read, hopen, hrest]
    rw [List.length_cons, readTimes, hread]
    exact ih hopen rfl

/-! ### Registries that lexers write to -/

/-- The stores of a registry that was seeded, in any order, and that machines alone have written to
since. Other registries may have taken addresses. -/
inductive Store.LexersOnly : Store → Prop where
  | seeded (fresh : Nat) (order : SeedOrder) : LexersOnly (Store.seed ⟨{}, fresh⟩ order)
  | turn {s : Store} {m : Machine} {l : Lexer} (hm : m.Tracks l) (h : LexersOnly s) :
      LexersOnly (Scene.turn ⟨m, s, []⟩).scene.store
  | reserve {s : Store} (n : Nat) (h : LexersOnly s) : LexersOnly ⟨s.registry, s.fresh + n⟩

namespace Store

/-- A registry that was seeded in some order is lexical. -/
lemma lexical_seed (fresh : Nat) (order : SeedOrder) :
    (Store.seed ⟨{}, fresh⟩ order).registry.Keyed ∧
      (Store.seed ⟨{}, fresh⟩ order).registry.erase.Lexical := by
  have hkeyed : (Store.seed ⟨{}, fresh⟩ order).registry.Keyed :=
    keyed_declareAll order.kind_ne_bogus (keyed_empty fresh)
  refine ⟨hkeyed, ?_, ?_⟩
  · rw [seed, erase_declareAll order.kind_ne_bogus (keyed_empty fresh)]
    apply SymbolTable.lexeme_of_mem_enterAll (by simp [Registry.erase])
    intro word hword
    exact SymbolTable.lexeme_of_mem_fixed (order.words_perm.mem_iff.1 hword)
  · intro word hword
    rw [SymbolTable.contains, Registry.lookup_erase hkeyed, Option.isSome_map, isSome_seed]
    exact Or.inr (List.mem_map_of_mem hword)

/-- Machines keep a registry lexical. -/
lemma LexersOnly.lexical {s : Store} (h : s.LexersOnly) :
    s.registry.Keyed ∧ s.registry.erase.Lexical := by
  induction h with
  | seeded fresh order => exact lexical_seed fresh order
  | @turn s m l hm _ ih =>
    have hmirrors := Scene.turn_mirrors (s := ⟨m, s, []⟩) hm ih.1
    refine ⟨hmirrors.store.keyed ih.1, ?_⟩
    rw [hmirrors.table]
    exact (Lexer.next_of_lexical ih.2 SymbolTable.lexical_seeded l).2
  | reserve _ _ ih => exact ih

end Store

/-! ### Draining machines -/

/-- The tokens that a machine gives out one by one, and the error that ends them if one does. -/
inductive Scene.Drains : Scene → List Token → Option Error → Prop where
  | ending {s : Scene} (h : s.turn.answer = .ok none) : Drains s [] none
  | failure {s : Scene} {e : Error} (h : s.turn.answer = .error e) : Drains s [] (some e)
  | token {s : Scene} {t : TokenRef} {tokens : List Token} {failure : Option Error}
      (h : s.turn.answer = .ok (some t)) (hrest : Drains s.turn.scene tokens failure) :
      Drains s (t.token :: tokens) failure

/-- A machine gives out what the lexer gives that it follows. -/
lemma Scene.drains_of_tracks {s : Scene} {l : Lexer} (h : s.machine.Tracks l)
    (hkeyed : s.store.registry.Keyed) :
    s.Drains (l.drain s.store.registry.erase).tokens (l.drain s.store.registry.erase).failure := by
  have hmirrors := turn_mirrors h hkeyed
  have hstep := hmirrors.answer.symm
  match hanswer : s.turn.answer with
  | .ok none =>
    rw [hanswer] at hstep
    rw [Lexer.drain_of_none hstep]
    exact .ending hanswer
  | .error e =>
    rw [hanswer] at hstep
    rw [Lexer.drain_of_error hstep]
    exact .failure hanswer
  | .ok (some t) =>
    rw [hanswer] at hstep
    have hshorter := Lexer.next_shortens hstep
    have hrest := drains_of_tracks hmirrors.machine (hmirrors.store.keyed hkeyed)
    rw [hmirrors.table] at hrest
    rw [Lexer.drain_of_some hstep]
    exact .token hanswer hrest
termination_by l.input.length

/-! ### Scanning on -/

/-- Whatever is made of a reader, a lexer or a machine, finds what is read behind the text that the
reader has handed out. -/
lemma Reader.finds_of_munch {r : Reader} {head : List Char} {tokens : List Token}
    {failure : Option Error} (hopen : r.closed = false) (hplace : r.upcoming = Location.after head)
    (h : Munch r.file head r.rest tokens failure) :
    (∃ l, Lexer.ofReader r = .ok l ∧ ∀ t : SymbolTable, t.LexersOnly →
        (l.drain t).tokens = tokens ∧ (l.drain t).failure = failure) ∧
      ∃ m, Machine.new r = .ok m ∧ ∀ s : Store, s.LexersOnly →
        Scene.Drains ⟨m, s, []⟩ tokens failure := by
  let l : Lexer := { file := r.file, input := r.rest, location := r.upcoming }
  have hlexer : Lexer.ofReader r = .ok l := by simp [Lexer.ofReader, hopen, l]
  have hdrain : ∀ t : SymbolTable, t.Lexical →
      (l.drain t).tokens = tokens ∧ (l.drain t).failure = failure :=
    fun t ht => (l.munch_drain ht rfl head hplace).unique h
  obtain ⟨m, hnew, hstands⟩ := Machine.new_stands hopen
  have htracks : m.Tracks l := .opened rfl hstands
  refine ⟨⟨l, hlexer, fun t ht => hdrain t ht.lexical⟩, m, hnew, ?_⟩
  intro s hs
  obtain ⟨hkeyed, hlexical⟩ := hs.lexical
  have hdrains := Scene.drains_of_tracks (s := ⟨m, s, []⟩) htracks hkeyed
  obtain ⟨htokens, hfailure⟩ := hdrain _ hlexical
  rwa [htokens, hfailure] at hdrains

/-- Scanning can be taken up at the end of any token. If a reader is read up to there and a lexer or
a machine is made of it, on a table that lexers alone have written to, then the tokens behind that
token are found, and the failure of the source if it has one. -/
theorem scan_resume (source : String) (file? : Option String) {done todo : List Token}
    (h : (scan source file?).tokens = done ++ todo) :
    ∃ r, (Reader.ofSource source file?).readTimes (Token.boundary source.toList done) = .ok r ∧
      (∃ l, Lexer.ofReader r = .ok l ∧ ∀ t : SymbolTable, t.LexersOnly →
        (l.drain t).tokens = todo ∧ (l.drain t).failure = (scan source file?).failure) ∧
      ∃ m, Machine.new r = .ok m ∧ ∀ s : Store, s.LexersOnly →
        Scene.Drains ⟨m, s, []⟩ todo (scan source file?).failure := by
  have hmunch := munch_scan source file?
  rw [h] at hmunch
  obtain ⟨head, rest, hsource, hlength, hbehind⟩ := hmunch.exists_boundary
  obtain ⟨r, hread, hopen, hfile, rfl, hupcoming⟩ :=
    Reader.exists_readTimes (r := Reader.ofSource source file?) rfl hsource
  have hplace : r.upcoming = Location.after head := hupcoming.trans (Location.advance_start head)
  rw [← hlength]
  exact ⟨r, hread, Reader.finds_of_munch hopen hplace (hfile ▸ hbehind)⟩

/-- A source is taken up in the middle of its second line, in front of a word and an illegal
character; another lexer has registered the word already. -/
theorem scan_resume_twoLines :
    let source := "x // y\n1.e+z @"
    let done : List Token :=
      [⟨⟨"x", .identifier⟩, ⟨1, 0, 0⟩⟩, ⟨⟨"1.e+", .literal .decimal⟩, ⟨2, 0, 3⟩⟩]
    let todo : List Token := [⟨⟨"z", .identifier⟩, ⟨2, 4, 4⟩⟩]
    (scan source none).tokens = done ++ todo ∧ Token.boundary source.toList done = 11 ∧
      ∃ r, (Reader.ofSource source none).readTimes 11 = .ok r ∧
        (∃ l, Lexer.ofReader r = .ok l ∧
          (l.drain ((Lexer.ofSource "z" none).next .seeded).table).tokens = todo) ∧
        ∃ m, Machine.new r = .ok m ∧
          Scene.Drains ⟨m, Store.seed ⟨{}, 0⟩ .listed, []⟩ todo
            (some ⟨.illegalLexeme "@", ⟨⟨2, 6⟩, defaultFile⟩⟩) := by
  intro source done todo
  have htokens : (scan source none).tokens = done ++ todo := by decide +kernel
  have hfailure : (scan source none).failure =
      some ⟨.illegalLexeme "@", ⟨⟨2, 6⟩, defaultFile⟩⟩ := by decide +kernel
  have hboundary : Token.boundary source.toList done = 11 := by decide
  obtain ⟨r, hread, ⟨l, hl, hlexer⟩, m, hm, hmachine⟩ := scan_resume source none htokens
  rw [hboundary] at hread
  rw [hfailure] at hmachine
  exact ⟨htokens, hboundary, r, hread, ⟨l, hl, (hlexer _ (.next _ .seeded)).1⟩, m, hm,
    hmachine _ (.seeded 0 .listed)⟩

end Lexis
