import Lexis.SymbolTable

/-!
# Registries of symbol objects

A symbol table as it is kept: a map from lexemes to symbol objects. Objects are told apart by their
addresses, and a new object gets an address that no object had before. `SymbolTable` is what remains
of a registry when the addresses are left out (`Registry.erase`).

The fixed vocabulary is registered word by word, the reserved words in some order and then the marks
in some order (`SeedOrder`).
-/

namespace Lexis

/-- A symbol object. What stands at an address never changes. -/
structure SymbolRef where
  address : Nat
  symbol : Symbol
deriving DecidableEq, Repr

/-- A map from lexemes to objects, in the order of registration. -/
structure Registry where
  entries : List (String × SymbolRef) := []
deriving DecidableEq, Repr

/-- A registry, and the first address that is still free. -/
structure Store where
  registry : Registry
  fresh : Nat
deriving DecidableEq, Repr

namespace Registry

def find? (r : Registry) (lexeme : String) : Option SymbolRef := r.entries.lookup lexeme

def contains (r : Registry) (lexeme : String) : Bool := (r.find? lexeme).isSome

def size (r : Registry) : Nat := r.entries.length

/-- Put an object under a lexeme, in place of the one that was there. -/
def insert (r : Registry) (lexeme : String) (x : SymbolRef) : Registry :=
  ⟨r.entries.filter (fun entry => entry.1 != lexeme) ++ [(lexeme, x)]⟩

/-- The symbols without their addresses. -/
def erase (r : Registry) : SymbolTable := ⟨r.entries.map fun entry => entry.2.symbol⟩

end Registry

namespace Store

/-- Make a new object and put it under its lexeme. -/
def register (s : Store) (lexeme : String) (kind : Kind) : SymbolRef × Store :=
  let x : SymbolRef := ⟨s.fresh, ⟨lexeme, kind⟩⟩
  (x, ⟨s.registry.insert lexeme x, s.fresh + 1⟩)

/-- The object under a lexeme, which is made with the given kind if there is none. Nothing is made
when `Kind.bogus` is asked for. -/
def intern (s : Store) (lexeme : String) (kind : Kind) : Option SymbolRef × Store :=
  match s.registry.find? lexeme with
  | some x => (some x, s)
  | none   =>
    if kind = .bogus then (none, s)
    else
      let (x, s) := s.register lexeme kind
      (some x, s)

def lookup (s : Store) (lexeme : String) : Option SymbolRef × Store := s.intern lexeme .bogus

/-- Make an object for a lexeme that has none. -/
def declare (s : Store) (lexeme : String) (kind : Kind) : Store :=
  if s.registry.contains lexeme then s else (s.register lexeme kind).2

def declareAll (s : Store) (words : Vocabulary) : Store :=
  words.foldl (fun s word => s.declare word.1 word.2) s

end Store

/-- An order in which the fixed vocabulary is gone through. -/
structure SeedOrder where
  reserved : Vocabulary
  marks : Vocabulary
  reserved_perm : reserved.Perm Vocabulary.reserved
  marks_perm : marks.Perm Vocabulary.marks

/-- All words in the order in which they are declared. -/
def SeedOrder.words (order : SeedOrder) : Vocabulary := order.reserved ++ order.marks

/-- The order in which the vocabulary is written down. -/
def SeedOrder.listed : SeedOrder := ⟨Vocabulary.reserved, Vocabulary.marks, .refl _, .refl _⟩

def Store.seed (s : Store) (order : SeedOrder) : Store := s.declareAll order.words

/-! ### Finding and registering -/

namespace Registry

variable {r : Registry} {lexeme other : String} {x : SymbolRef}

theorem mem_of_find? (h : r.find? lexeme = some x) : (lexeme, x) ∈ r.entries := by
  obtain ⟨before, after, heq, -⟩ := List.lookup_eq_some_iff.1 h
  simp [heq]

theorem fst_ne_of_find? (h : r.find? lexeme = none) : ∀ entry ∈ r.entries, entry.1 ≠ lexeme := by
  intro entry hentry heq
  have hne := List.lookup_eq_none_iff.1 h entry hentry
  simp [heq] at hne

/-- Under a lexeme that had no object the new one comes last. -/
theorem insert_of_absent (h : r.find? lexeme = none) (x : SymbolRef) :
    r.insert lexeme x = ⟨r.entries ++ [(lexeme, x)]⟩ := by
  have hfilter : r.entries.filter (fun entry => entry.1 != lexeme) = r.entries := by
    rw [List.filter_eq_self]
    intro entry hentry
    simpa using fst_ne_of_find? h entry hentry
  rw [insert, hfilter]

theorem find?_insert_self (h : r.find? lexeme = none) (x : SymbolRef) :
    (r.insert lexeme x).find? lexeme = some x := by
  rw [find?] at h
  rw [insert_of_absent h, find?, List.lookup_append, h]
  simp

theorem find?_insert_of_ne (h : r.find? lexeme = none) (hne : other ≠ lexeme) (x : SymbolRef) :
    (r.insert lexeme x).find? other = r.find? other := by
  have hbeq : (other == lexeme) = false := by simpa using hne
  rw [insert_of_absent h, find?, find?, List.lookup_append, List.lookup_cons, hbeq]
  simp

end Registry

namespace Store

variable {s : Store} {lexeme : String} {x : SymbolRef}

theorem intern_of_found (h : s.registry.find? lexeme = some x) (kind : Kind) :
    s.intern lexeme kind = (some x, s) := by
  simp [intern, h]

theorem intern_of_absent (h : s.registry.find? lexeme = none) {kind : Kind}
    (hkind : kind ≠ .bogus) :
    s.intern lexeme kind = (some (s.register lexeme kind).1, (s.register lexeme kind).2) := by
  simp [intern, h, hkind]

/-- Asking tells what is there and changes nothing. -/
theorem lookup_eq (s : Store) (lexeme : String) :
    s.lookup lexeme = (s.registry.find? lexeme, s) := by
  cases h : s.registry.find? lexeme with
  | some x => rw [lookup, intern_of_found h]
  | none   => simp [lookup, intern, h]

/-- Declaring is interning with nothing handed out. -/
theorem declare_eq (s : Store) (lexeme : String) {kind : Kind} (hkind : kind ≠ .bogus) :
    s.declare lexeme kind = (s.intern lexeme kind).2 := by
  cases h : s.registry.find? lexeme with
  | some x => rw [intern_of_found h]; simp [declare, Registry.contains, h]
  | none   => rw [intern_of_absent h hkind]; simp [declare, Registry.contains, h]

end Store

end Lexis
