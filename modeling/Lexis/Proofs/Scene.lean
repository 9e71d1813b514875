import Lexis.Proofs.Machine
import Lexis.Proofs.Registry
import Lexis.Scene

/-!
# Turns of a machine

What the parts of a turn do, for a machine that stands at a text. A word or a numeral is taken as
far as it goes and interned (`Scene.scanNew_eq`). Behind the first character of an operator or
separator the pair is looked up (`Scene.scanMark_eq`); a comment is passed over through the end of
its line (`Scene.finishPair_of_comment`). `Scene.Reaches.next_eq` puts the parts together.
-/

namespace Lexis

open Character

namespace Scene

variable {file : String} {s : Scene} {l : Location} {c : Char} {text rest : List Char}

/-! ### Parts of a turn -/

lemma act_of_ok {α : Type} {x : EStateM Error Machine α} {a : α} {m : Machine}
    (h : x s.machine = .ok a m) : act x s = .ok a { s with machine := m } := by
  simp [act, h]

lemma find_eq (text : List Char) (s : Scene) :
    find text s = .ok (s.store.registry.find? (String.ofList text)) s := by
  rw [find, Store.lookup_eq]

/-- Resolving with a kind of its own gives the object that interning gives. -/
lemma resolve_of_intern {d : Draft} {kind : Kind} {x : SymbolRef} {store : Store}
    (h : s.store.intern (String.ofList d.text) kind = (some x, store)) :
    resolve d kind s = .ok x { s with store := store } := by
  rw [resolve, h]

/-- Past blanks there is a machine. -/
structure Reaches (s : Scene) (m : Machine) : Prop where
  isOpen : s.machine.ended = false
  skip : s.machine.skipWhile (fun c _ => isBlank c) = .ok () m

/-- The scene with another machine. -/
def withMachine (s : Scene) (m : Machine) : Scene := { s with machine := m }

/-- The end of the stream. -/
def ending (s : Scene) : Scene :=
  { s with machine := s.machine.close, events := s.events ++ s.machine.closing }

/-- The end of the stream at an illegal draft. -/
def refusal (s : Scene) (d : Draft) : Scene :=
  { s with
    machine := s.machine.close
    events := s.events ++ [.illegal (String.ofList d.text)] ++ s.machine.closing }

/-- The scene when a token was given out. -/
def emitted (s : Scene) (t : TokenRef) : Scene := { s with events := s.events ++ [.token t.token] }

/-- How a turn goes on when an operator or separator, or a comment, was scanned. -/
def afterMark :
    EStateM.Result Error Scene (Option TokenRef) → EStateM.Result Error Scene (Option TokenRef)
  | .error e s     => .error e s
  | .ok (some t) s => emit t s
  | .ok none s     => next s

lemma next_of_ended (h : s.machine.ended = true) : s.next = .ok none s.ending := by
  rw [next, if_pos h]
  rfl

namespace Reaches

variable {m : Machine}

lemma next_of_exhausted (h : s.Reaches m) (hch : m.ch = none) :
    s.next = .ok none (s.withMachine m).ending := by
  rw [next, if_neg (by simp [h.isOpen])]
  split
  · next e s' hskip => rw [act_of_ok h.skip] at hskip; cases hskip
  · next s' hskip =>
    rw [act_of_ok h.skip] at hskip
    obtain ⟨-, rfl⟩ := EStateM.Result.ok.inj hskip
    split
    · rfl
    · next c hc => simp [hch] at hc

/-- What the first character says about the rest of the turn. -/
lemma next_eq (h : s.Reaches m) (hch : m.ch = some c) :
    s.next =
      if isWordStart c then scanWord (.startingAt m.place) (s.withMachine m)
      else if m.startsNumeral c then scanNumeral (.startingAt m.place) (s.withMachine m)
      else afterMark (scanMark (.startingAt m.place) (s.withMachine m)) := by
  rw [next, if_neg (by simp [h.isOpen])]
  split
  · next e s' hskip => rw [act_of_ok h.skip] at hskip; cases hskip
  · next s' hskip =>
    rw [act_of_ok h.skip] at hskip
    obtain ⟨-, rfl⟩ := EStateM.Result.ok.inj hskip
    split
    · next hnone => simp [hch] at hnone
    · next c' hc =>
      obtain rfl : c = c' := by simpa [hch] using hc
      change (if _ then _ else if _ then _ else _) = _
      congr 2
      split <;> simp_all [afterMark, withMachine]

end Reaches

/-! ### Tokens -/

lemma machine_withMachine (s : Scene) (m : Machine) : (s.withMachine m).machine = m := rfl

/-- A word or a numeral is taken as far as it goes, and interned. -/
lemma scanNew_eq {take : Draft → EStateM Error Machine Draft} {cut : List Char → List Char}
    {kind : List Char → Kind} {x : SymbolRef} {store : Store} (htakes : Machine.Takes take cut)
    (h : s.machine.Stands file l text) (hcut : cut text ≠ [])
    (hintern : s.store.intern (String.ofList (cut text)) (kind (cut text)) = (some x, store)) :
    ∃ m, m.Stands file (l.advance (cut text)) (text.drop (cut text).length) ∧
      scanNew take kind (.startingAt l) s =
        .ok (some ⟨x, Lexer.spanAt l (cut text)⟩)
          (emitted ⟨m, store, s.events⟩ ⟨x, Lexer.spanAt l (cut text)⟩) := by
  have hstart : s.machine.Stands file (l.advance []) text := h
  obtain ⟨m, htake, -, hstands⟩ := htakes hstart List.not_mem_nil
  rw [List.nil_append] at htake hstands
  refine ⟨m, hstands, ?_⟩
  have hact := act_of_ok (s := s) htake
  have hresolve := resolve_of_intern (s := s.withMachine m) (d := .of l (cut text)) hintern
  rw [scanNew, Draft.startingAt_eq, bind_of_ok hact]
  change (resolve (.of l (cut text)) (kind (cut text)) >>= _) (s.withMachine m) = _
  rw [bind_of_ok hresolve, Draft.toToken, Draft.span_of l hcut]
  rfl

/-- The object of the two characters at the head of a text. -/
def pairIn (r : Registry) (c : Char) : List Char → Option SymbolRef
  | d :: _ => r.find? (String.ofList [c, d])
  | []     => none

lemma pairAt_erase {r : Registry} (h : r.Keyed) (c : Char) (rest : List Char) :
    pairAt r.erase c rest = (pairIn r c rest).map (·.symbol) := by
  cases rest with
  | nil      => rfl
  | cons d _ => exact r.lookup_erase h _

lemma findPair_eq (h : s.machine.Stands file l rest) (place : Location) :
    findPair (.of place [c]) s = .ok (pairIn s.store.registry c rest) s := by
  rw [findPair, h.ch_eq]
  cases rest with
  | nil      => rfl
  | cons d _ => exact find_eq _ _

/-- Behind the first character of an operator or separator the pair is looked up. -/
lemma scanMark_eq (h : s.machine.Stands file l (c :: rest)) :
    ∃ m, m.Stands file (l.next c) rest ∧
      scanMark (.startingAt l) s =
        (match pairIn s.store.registry c rest with
        | some x => finishPair (.of l [c]) x
        | none   => finishSingle (.of l [c])) (s.withMachine m) := by
  have hstart : s.machine.Stands file (l.advance []) (c :: rest) := h
  obtain ⟨m, htake, hstands⟩ := Machine.take_stands hstart List.not_mem_nil
  rw [List.nil_append] at htake hstands
  refine ⟨m, hstands, ?_⟩
  rw [scanMark, Draft.startingAt_eq, bind_of_ok (act_of_ok htake)]
  exact bind_of_ok (findPair_eq (s := s.withMachine m) hstands l) _

lemma take_second {d : Char} (h : s.machine.Stands file (l.next c) (d :: rest)) (hc : c ≠ '\n') :
    ∃ m, m.Stands file (l.advance [c, d]) rest ∧
      act (Machine.take (.of l [c])) s = .ok (.of l [c, d]) (s.withMachine m) := by
  have hline : '\n' ∉ [c] := by simpa using Ne.symm hc
  have hsecond : s.machine.Stands file (l.advance [c]) (d :: rest) := h
  obtain ⟨m, htake, hstands⟩ := Machine.take_stands hsecond hline
  exact ⟨m, hstands, act_of_ok htake⟩

lemma finishPair_of_ne {d : Char} {x : SymbolRef}
    (h : s.machine.Stands file (l.next c) (d :: rest)) (hc : c ≠ '\n')
    (hkind : x.symbol.kind ≠ .comment) :
    ∃ m, m.Stands file (l.advance [c, d]) rest ∧
      finishPair (.of l [c]) x s = .ok (some ⟨x, Lexer.spanAt l [c, d]⟩) (s.withMachine m) := by
  obtain ⟨m, hstands, htake⟩ := take_second h hc
  refine ⟨m, hstands, ?_⟩
  rw [finishPair, bind_of_ok htake, if_neg hkind, Draft.toToken,
    Draft.span_of l (List.cons_ne_nil c [d])]
  rfl

/-- A comment is passed over through the end of its line. -/
lemma finishPair_of_comment {d : Char} {x : SymbolRef} (t : SymbolTable)
    (h : s.machine.Stands file (l.next c) (d :: rest)) (hc : c ≠ '\n')
    (hkind : x.symbol.kind = .comment) :
    ∃ m l' rest', m.Stands file l' rest' ∧ rest'.length ≤ rest.length ∧
      Trivia.skip t true (l.next c) (d :: rest) = Trivia.skip t false l' rest' ∧
      finishPair (.of l [c]) x s =
        .ok none ⟨m, s.store, s.events ++ [.comment l.line]⟩ := by
  obtain ⟨m, hstands, htake⟩ := take_second h hc
  have hline : (l.next c).line = l.line := by rw [Location.next_of_ne hc]
  obtain ⟨m', l', rest', hskip, hstands', htrivia, hle⟩ :
      ∃ m' l' rest', m.skipWhile (fun _ place => place.line == l.line) = .ok () m' ∧
        m'.Stands file l' rest' ∧
        Trivia.skip t (d != '\n') (l.advance [c, d]) rest = Trivia.skip t false l' rest' ∧
        rest'.length ≤ rest.length := by
    by_cases hd : d = '\n'
    · subst hd
      have hbelow : (l.advance [c, '\n']).line ≠ l.line := by simp [hline]
      exact ⟨m, _, rest, Machine.skipWhile_of_line_ne hstands hbelow, hstands, rfl, Nat.le_refl _⟩
    · have hlevel : (l.advance [c, d]).line = l.line := by
        simp [Location.next_of_ne hd, hline]
      have hinside : (d != '\n') = true := by simpa using hd
      rw [hinside, ← hlevel]
      exact Machine.skipWhile_line t hstands
  refine ⟨m', l', rest', hstands', hle, htrivia, ?_⟩
  rw [finishPair, bind_of_ok htake, if_pos hkind]
  exact bind_of_ok (act_of_ok (s := ⟨m, s.store, s.events ++ [.comment l.line]⟩) hskip) _

lemma finishSingle_of_found {x : SymbolRef} {d : Draft}
    (h : s.store.registry.find? (String.ofList d.text) = some x) :
    finishSingle d s = .ok (some (d.toToken x)) s := by
  rw [finishSingle, bind_of_ok (find_eq d.text s), h]
  rfl

lemma finishSingle_of_absent {d : Draft}
    (h : s.store.registry.find? (String.ofList d.text) = none) :
    finishSingle d s = .error (s.illegal d) (s.refusal d) := by
  rw [finishSingle, bind_of_ok (find_eq d.text s), h]
  rfl

end Scene

end Lexis
