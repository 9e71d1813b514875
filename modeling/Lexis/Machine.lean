import Lexis.Event
import Lexis.Numeral
import Lexis.Reader
import Lexis.Registry

/-!
# The scanning machine

A lexer as it works on a reader: it looks at one character at a time, keeps the reader until the
stream ends, and takes symbol objects from a registry. Each action gives a result or an error, and
leaves a state in either case.

`Machine` is the state of a lexer alone. `Scene` is a machine together with the registry it works
on, and with what is recorded. Every loop takes characters off what is pending, so all of them end.
-/

namespace Lexis

open Character

/-- What follows a result is done with it, in the state that it left. -/
theorem bind_eq_ok {ε σ α β : Type} {x : EStateM ε σ α} {f : α → EStateM ε σ β} {s s' : σ} {b : β}
    (h : (x >>= f) s = .ok b s') : ∃ a s₁, x s = .ok a s₁ ∧ f a s₁ = .ok b s' := by
  change EStateM.bind x f s = .ok b s' at h
  unfold EStateM.bind at h
  split at h
  · next a s₁ hx => exact ⟨a, s₁, hx, h⟩
  · cases h

/-- An occurrence of a symbol object. -/
structure TokenRef where
  symbol : SymbolRef
  span : Span
deriving DecidableEq, Repr

def TokenRef.token (t : TokenRef) : Token := ⟨t.symbol.symbol, t.span⟩

/-- The characters of a token that is being scanned, and the columns they cover. -/
structure Draft where
  text : List Char
  line : Nat
  first : Nat
  last : Nat
deriving DecidableEq, Repr

namespace Draft

/-- A draft without characters. -/
def startingAt (l : Location) : Draft := ⟨[], l.line, l.column, l.column⟩

/-- The draft with the character at a column, if there is one. -/
def push (d : Draft) (column : Nat) : Option Char → Draft
  | some c => { d with text := d.text ++ [c], last := column }
  | none   => d

def span (d : Draft) : Span := ⟨d.line, d.first, d.last⟩

def toToken (d : Draft) (x : SymbolRef) : TokenRef := ⟨x, d.span⟩

end Draft

/-- The state of a lexer that works on a reader. -/
structure Machine where
  /-- The name under which positions are reported. -/
  file : String
  /-- The source, until it is released. -/
  source : Option Reader
  /-- The character that is looked at; nothing when the source is exhausted. -/
  ch : Option Char := none
  /-- The place of the last character that was looked at. -/
  place : Location := ⟨0, 0⟩
  /-- Whether the stream has ended. -/
  ended : Bool := false
deriving DecidableEq, Repr

namespace Machine

/-- The number of characters that are looked at or not read yet. -/
def pending (m : Machine) : Nat := m.ch.toList.length + m.source.elim 0 (·.rest.length)

/-! ### Single characters -/

def advance : EStateM Error Machine Unit := fun m =>
  match m.source with
  | none   => .ok () { m with ch := none }
  | some r =>
    match r.read with
    | .error e          => .error e m
    | .ok none          => .ok () { m with ch := none }
    | .ok (some (c, r)) => .ok () { m with source := some r, ch := some c, place := r.last }

def peek (m : Machine) : Option Char := m.source.bind Reader.peek

/-- Move the character that is looked at into the draft. -/
def take (d : Draft) : EStateM Error Machine Draft := do
  let m ← get
  advance
  return d.push m.place.column m.ch

/-- A machine that is about to scan what a reader has left. -/
def new (r : Reader) : Except Error Machine :=
  match advance { file := r.file, source := some r } with
  | .ok () m   => .ok m
  | .error e _ => .error e

/-- End the stream and release the source. -/
def close (m : Machine) : Machine := { m with source := none, ch := none, ended := true }

def closing (m : Machine) : List Event :=
  match m.source with
  | some r => if r.closed then [] else [.closed r.file]
  | none   => []

/-- Looking at the next character takes the present one off what is pending. -/
theorem pending_advance {m m' : Machine} (h : advance m = .ok () m') :
    m'.pending + m.ch.toList.length ≤ m.pending := by
  unfold advance at h
  split at h
  · next hsource =>
    obtain ⟨-, rfl⟩ := EStateM.Result.ok.inj h
    simp [pending, hsource]
  · next r hsource =>
    split at h
    · cases h
    · obtain ⟨-, rfl⟩ := EStateM.Result.ok.inj h
      simp [pending, hsource]
      omega
    · next c r' hread =>
      obtain ⟨-, rfl⟩ := EStateM.Result.ok.inj h
      have hrest := Reader.length_rest_of_read hread
      simp [pending, hsource]
      omega

theorem advance_of_take {d d' : Draft} {m m' : Machine} (h : take d m = .ok d' m') :
    advance m = .ok () m' := by
  obtain ⟨_, _, hget, h⟩ := bind_eq_ok h
  obtain ⟨rfl, rfl⟩ := EStateM.Result.ok.inj hget
  obtain ⟨⟨⟩, m₁, hadvance, h⟩ := bind_eq_ok h
  obtain ⟨-, rfl⟩ := EStateM.Result.ok.inj h
  exact hadvance

/-! ### Loops -/

/-- Pass over characters as long as a test of character and place holds. -/
def skipWhile (p : Char → Location → Bool) (m : Machine) : EStateM.Result Error Machine Unit :=
  match _hch : m.ch with
  | none   => .ok () m
  | some c =>
    if p c m.place then
      match _hstep : advance m with
      | .ok () m   => skipWhile p m
      | .error e m => .error e m
    else .ok () m
termination_by m.pending
decreasing_by
  have hpending := pending_advance _hstep
  rw [_hch] at hpending
  exact hpending

/-- Take characters of a class. -/
def takeWhile (p : Char → Bool) (d : Draft) (m : Machine) : EStateM.Result Error Machine Draft :=
  match _hch : m.ch with
  | none   => .ok d m
  | some c =>
    if p c then
      match _hstep : take d m with
      | .ok d m    => takeWhile p d m
      | .error e m => .error e m
    else .ok d m
termination_by m.pending
decreasing_by
  have hpending := pending_advance (advance_of_take _hstep)
  rw [_hch] at hpending
  exact hpending

def takeDigits (d : Draft) : EStateM Error Machine Draft := takeWhile Char.isDigit d

/-- Take a character of a class and go on with what is behind it, if there is one. -/
def takeIf (p : Char → Bool) (x : Draft → EStateM Error Machine Draft) (d : Draft) :
    EStateM Error Machine Draft := do
  if (← get).ch.any p then
    let d ← take d
    x d
  else return d

def takeFraction : Draft → EStateM Error Machine Draft := takeIf (· == '.') takeDigits

def takeSign : Draft → EStateM Error Machine Draft := takeIf isSign pure

def takeExponent : Draft → EStateM Error Machine Draft :=
  takeIf isExponentMark fun d => takeSign d >>= takeDigits

/-- Take a numeral: digits, a fraction and an exponent, each as far as it goes. -/
def takeNumeral (d : Draft) : EStateM Error Machine Draft := do
  let d ← takeDigits d
  let d ← takeFraction d
  takeExponent d

/-- Whether a numeral starts with the character that is looked at. -/
def startsNumeral (m : Machine) (c : Char) : Bool :=
  c.isDigit || (c == '.' && m.peek.any Char.isDigit)

theorem pending_skipWhile {p : Char → Location → Bool} {m m' : Machine}
    (h : skipWhile p m = .ok () m') : m'.pending ≤ m.pending := by
  fun_induction skipWhile p m with
  | case1 m _                     => obtain ⟨-, rfl⟩ := EStateM.Result.ok.inj h; exact Nat.le_refl _
  | case2 m c _ _ m₁ hstep ih     => have := pending_advance hstep; have := ih h; omega
  | case3 m c _ _ e m₁ _          => cases h
  | case4 m c _ _                 => obtain ⟨-, rfl⟩ := EStateM.Result.ok.inj h; exact Nat.le_refl _

end Machine

end Lexis
