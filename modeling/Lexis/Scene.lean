import Lexis.Machine

/-!
# Machines on registries

A `Scene` is a machine together with the registry it works on. `Scene.next` finds the next token:
blanks are passed over, the first character decides between a word, a numeral and an operator or
separator, and a comment starts the search again. `Scene.close` ends the stream early.

The registry is given back as it was found, except that a word or a numeral may be new to it.
-/

namespace Lexis

open Character

/-- A machine, the registry it works on, and what was recorded. -/
structure Scene where
  machine : Machine
  store : Store
  events : List Event := []
deriving DecidableEq, Repr

namespace Scene

/-! ### Parts of a step -/

/-- Let the machine act. -/
def act {α : Type} (x : EStateM Error Machine α) : EStateM Error Scene α := fun s =>
  match x s.machine with
  | .ok a m    => .ok a { s with machine := m }
  | .error e m => .error e { s with machine := m }

def record (e : Event) : EStateM Error Scene Unit :=
  modify fun s => { s with events := s.events ++ [e] }

/-- End the stream. The source is released if it is still there. -/
def close : EStateM Error Scene Unit :=
  modify fun s =>
    { s with machine := s.machine.close, events := s.events ++ s.machine.closing }

def find (text : List Char) : EStateM Error Scene (Option SymbolRef) := fun s =>
  let (found, store) := s.store.lookup (String.ofList text)
  .ok found { s with store := store }

/-- The error of a draft that is no lexeme. -/
def illegal (s : Scene) (d : Draft) : Error :=
  ⟨.illegalLexeme (String.ofList d.text), ⟨⟨d.line, d.first⟩, s.machine.file⟩⟩

/-- The symbol object of a draft, which is made with the given kind if there is none. -/
def resolve (d : Draft) (kind : Kind) : EStateM Error Scene SymbolRef := fun s =>
  match s.store.intern (String.ofList d.text) kind with
  | (some x, store) => .ok x { s with store := store }
  | (none, store)   => .error (s.illegal d) { s with store := store }

/-! ### Words, numerals, operators and separators -/

/-- Record a token and give it out. -/
def emit (t : TokenRef) : EStateM Error Scene (Option TokenRef) := do
  record (.token t.token)
  return some t

/-- Scan a lexeme that may be new: what is taken decides on the kind it would have. -/
def scanNew (take : Draft → EStateM Error Machine Draft) (kind : List Char → Kind) (d : Draft) :
    EStateM Error Scene (Option TokenRef) := do
  let d ← act (take d)
  let x ← resolve d (kind d.text)
  emit (d.toToken x)

def scanWord : Draft → EStateM Error Scene (Option TokenRef) :=
  scanNew (Machine.takeWhile isWordPart) fun _ => .identifier

def scanNumeral : Draft → EStateM Error Scene (Option TokenRef) :=
  scanNew Machine.takeNumeral fun text => .literal (Numeral.classify text)

/-- The object of the draft with the character that is looked at. -/
def findPair (d : Draft) : EStateM Error Scene (Option SymbolRef) := fun s =>
  match s.machine.ch with
  | some c => find (d.text ++ [c]) s
  | none   => .ok none s

/-- A draft of one character is an operator or separator, or it ends the stream. -/
def finishSingle (d : Draft) : EStateM Error Scene (Option TokenRef) := do
  match ← find d.text with
  | some x => return some (d.toToken x)
  | none   =>
    record (.illegal (String.ofList d.text))
    let s ← get
    close
    throw (s.illegal d)

/-- A draft of two characters is an operator, unless it opens a comment; that runs through the end
of its line. -/
def finishPair (d : Draft) (x : SymbolRef) : EStateM Error Scene (Option TokenRef) := do
  let d ← act (Machine.take d)
  if x.symbol.kind = .comment then
    record (.comment d.line)
    act (Machine.skipWhile fun _ place => place.line == d.line)
    return none
  else return some (d.toToken x)

/-- Scan an operator or separator, or nothing where a comment was passed over. -/
def scanMark (d : Draft) : EStateM Error Scene (Option TokenRef) := do
  let d ← act (Machine.take d)
  match ← findPair d with
  | some x => finishPair d x
  | none   => finishSingle d

/-! ### Progress -/

theorem machine_of_act {α : Type} {x : EStateM Error Machine α} {a : α} {s s' : Scene}
    (h : act x s = .ok a s') : x s.machine = .ok a s'.machine := by
  unfold act at h
  split at h
  · next b m hx =>
    obtain ⟨rfl, rfl⟩ := EStateM.Result.ok.inj h
    exact hx
  · cases h

theorem machine_of_findPair {d : Draft} {found : Option SymbolRef} {s s' : Scene}
    (h : findPair d s = .ok found s') : s'.machine = s.machine := by
  unfold findPair find at h
  split at h <;> obtain ⟨-, rfl⟩ := EStateM.Result.ok.inj h <;> rfl

/-- A single character is never passed over. -/
theorem finishSingle_ne {d : Draft} {s s' : Scene} : finishSingle d s ≠ .ok none s' := by
  intro h
  obtain ⟨found, s₁, -, h⟩ := bind_eq_ok h
  cases found with
  | some x => cases h
  | none =>
    obtain ⟨_, _, -, h⟩ := bind_eq_ok h
    obtain ⟨_, _, -, h⟩ := bind_eq_ok h
    obtain ⟨_, _, -, h⟩ := bind_eq_ok h
    cases h

theorem pending_finishPair {d : Draft} {x : SymbolRef} {s s' : Scene}
    (h : finishPair d x s = .ok none s') : s'.machine.pending ≤ s.machine.pending := by
  obtain ⟨d', s₁, htake, h⟩ := bind_eq_ok h
  have hle := Machine.pending_advance (Machine.advance_of_take (machine_of_act htake))
  by_cases hkind : x.symbol.kind = .comment
  · rw [if_pos hkind] at h
    obtain ⟨_, s₂, hrecord, h⟩ := bind_eq_ok h
    obtain ⟨-, rfl⟩ := EStateM.Result.ok.inj hrecord
    obtain ⟨⟨⟩, s₃, hskip, h⟩ := bind_eq_ok h
    obtain ⟨-, rfl⟩ := EStateM.Result.ok.inj h
    have hskipped := Machine.pending_skipWhile (machine_of_act hskip)
    exact Nat.le_trans hskipped (Nat.le_of_add_right_le hle)
  · rw [if_neg hkind] at h
    cases h

/-- A comment takes at least the character it starts with. -/
theorem pending_scanMark {d : Draft} {c : Char} {s s' : Scene} (hch : s.machine.ch = some c)
    (h : scanMark d s = .ok none s') : s'.machine.pending < s.machine.pending := by
  obtain ⟨d', s₁, htake, h⟩ := bind_eq_ok h
  have hlt := Machine.pending_advance (Machine.advance_of_take (machine_of_act htake))
  rw [hch] at hlt
  obtain ⟨found, s₂, hfind, h⟩ := bind_eq_ok h
  cases found with
  | some x =>
    have hle := pending_finishPair h
    rw [machine_of_findPair hfind] at hle
    exact Nat.lt_of_le_of_lt hle hlt
  | none => exact absurd h finishSingle_ne

/-! ### Steps -/

def next (s : Scene) : EStateM.Result Error Scene (Option TokenRef) :=
  if s.machine.ended then (do close; return none : EStateM Error Scene _) s
  else
    match _hskip : act (Machine.skipWhile fun c _ => isBlank c) s with
    | .error e s => .error e s
    | .ok () s   =>
      match _hch : s.machine.ch with
      | none   => (do close; return none : EStateM Error Scene _) s
      | some c =>
        let d := Draft.startingAt s.machine.place
        if isWordStart c then scanWord d s
        else if s.machine.startsNumeral c then scanNumeral d s
        else
          match _hmark : scanMark d s with
          | .error e s     => .error e s
          | .ok (some t) s => emit t s
          | .ok none s     => next s
termination_by s.machine.pending
decreasing_by
  have hle := Machine.pending_skipWhile (machine_of_act _hskip)
  exact Nat.lt_of_lt_of_le (pending_scanMark _hch _hmark) hle

/-- What a search for a token gives, and the scene it leaves. -/
structure Turn where
  answer : Except Error (Option TokenRef)
  scene : Scene

def turn (s : Scene) : Turn :=
  match s.next with
  | .ok t s    => ⟨.ok t, s⟩
  | .error e s => ⟨.error e, s⟩

end Scene

end Lexis
