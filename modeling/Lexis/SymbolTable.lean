import Lexis.Vocabulary

/-!
# Symbol tables

A symbol table keeps one symbol for each lexeme that was registered in it, in the order of
registration. The first registration of a lexeme settles its kind: later ones find the symbol that
is there. Entries are never changed or removed, so the place of a symbol in its table (`index`) is
the identity of the symbol.
-/

namespace Lexis

structure Symbol where
  lexeme : String
  kind : Kind
deriving DecidableEq, Repr

/-- The symbols registered so far, oldest first. -/
structure SymbolTable where
  entries : List Symbol := []
deriving DecidableEq, Repr

namespace SymbolTable

def empty : SymbolTable := ⟨[]⟩

def lookup (t : SymbolTable) (lexeme : String) : Option Symbol :=
  t.entries.find? fun s => s.lexeme == lexeme

def contains (t : SymbolTable) (lexeme : String) : Bool := (t.lookup lexeme).isSome

/-- The place of a lexeme's symbol in the table; the end of the table if there is none. -/
def index (t : SymbolTable) (lexeme : String) : Nat :=
  t.entries.findIdx fun s => s.lexeme == lexeme

def size (t : SymbolTable) : Nat := t.entries.length

/-- The symbol of a lexeme, registered with the given kind if the lexeme is new. -/
def enter (t : SymbolTable) (lexeme : String) (kind : Kind) : Symbol × SymbolTable :=
  match t.lookup lexeme with
  | some s => (s, t)
  | none   => (⟨lexeme, kind⟩, ⟨t.entries ++ [⟨lexeme, kind⟩]⟩)

/-- As `enter`, except that asking for `Kind.bogus` only looks the lexeme up. -/
def intern (t : SymbolTable) (lexeme : String) (kind : Kind) : Option Symbol × SymbolTable :=
  if kind = .bogus then (t.lookup lexeme, t)
  else ((t.enter lexeme kind).1, (t.enter lexeme kind).2)

/-- Register the words of a vocabulary that are not there yet. -/
def enterAll (t : SymbolTable) (words : Vocabulary) : SymbolTable :=
  words.foldl (fun t word => (t.enter word.1 word.2).2) t

def seed (t : SymbolTable) : SymbolTable := t.enterAll Vocabulary.fixed

/-- The table of the fixed vocabulary alone. -/
def seeded : SymbolTable := empty.seed

/-! ### Looking up and entering -/

/-- What is found under a lexeme is the symbol of that lexeme. -/
theorem lexeme_of_lookup {t : SymbolTable} {lexeme : String} {s : Symbol}
    (h : t.lookup lexeme = some s) : s.lexeme = lexeme := by
  simpa using List.find?_some h

theorem mem_of_lookup {t : SymbolTable} {lexeme : String} {s : Symbol}
    (h : t.lookup lexeme = some s) : s ∈ t.entries := List.mem_of_find?_eq_some h

/-- An entered lexeme that is known stays as it is. -/
theorem enter_of_lookup {t : SymbolTable} {lexeme : String} {s : Symbol}
    (h : t.lookup lexeme = some s) (kind : Kind) : t.enter lexeme kind = (s, t) := by
  simp [enter, h]

/-- An entered lexeme that is new goes to the end of the table. -/
theorem enter_of_absent {t : SymbolTable} {lexeme : String} (h : t.lookup lexeme = none)
    (kind : Kind) : t.enter lexeme kind = (⟨lexeme, kind⟩, ⟨t.entries ++ [⟨lexeme, kind⟩]⟩) := by
  simp [enter, h]

/-- Whatever was in the table, a lexeme is found once it is entered. -/
theorem lookup_enter_self (t : SymbolTable) (lexeme : String) (kind : Kind) :
    (t.enter lexeme kind).2.lookup lexeme = some (t.enter lexeme kind).1 := by
  cases h : t.lookup lexeme with
  | some s => rw [enter_of_lookup h, h]
  | none =>
    rw [enter_of_absent h]
    simp only [lookup] at h ⊢
    simp [List.find?_append, h]

/-- Entering a lexeme does not touch the others. -/
theorem lookup_enter_of_ne (t : SymbolTable) {lexeme other : String} (hne : lexeme ≠ other)
    (kind : Kind) : (t.enter lexeme kind).2.lookup other = t.lookup other := by
  cases h : t.lookup lexeme with
  | some s => rw [enter_of_lookup h]
  | none =>
    rw [enter_of_absent h]
    simp [lookup, List.find?_append, hne]

@[simp] theorem lexeme_enter (t : SymbolTable) (lexeme : String) (kind : Kind) :
    (t.enter lexeme kind).1.lexeme = lexeme := by
  cases h : t.lookup lexeme with
  | some s => rw [enter_of_lookup h]; exact lexeme_of_lookup h
  | none => rw [enter_of_absent h]

theorem entries_seeded :
    seeded.entries = Vocabulary.fixed.map fun word => ⟨word.1, word.2⟩ := by decide

end SymbolTable

end Lexis
