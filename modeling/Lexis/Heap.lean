import Lexis.Directory
import Lexis.Scene

/-!
# Heaps

Registries and machines that are used side by side. Each kind of object has slots, numbered from
zero in the order of creation; a slot is empty if creating its object failed. All symbol objects
have their addresses from one supply, so an address tells the objects of different registries apart,
too. A machine works on the registry in a slot, which others may share.

A session does the same with symbol tables and lexers, where symbols have no addresses.
-/

namespace Lexis

/-- Registries that have their addresses from one supply. -/
structure Tables where
  registries : List Registry := []
  /-- The first address that is still free. -/
  fresh : Nat := 0
deriving DecidableEq, Repr

namespace Tables

/-- The registry in a slot, with the supply of addresses. -/
def store? (ts : Tables) (slot : Nat) : Option Store :=
  ts.registries[slot]?.map fun r => ⟨r, ts.fresh⟩

def put (ts : Tables) (slot : Nat) (s : Store) : Tables :=
  ⟨ts.registries.set slot s.registry, s.fresh⟩

def add (ts : Tables) : Tables := { ts with registries := ts.registries ++ [{}] }

/-- The object under a lexeme in the registry in a slot. -/
def find? (ts : Tables) (slot : Nat) (lexeme : String) : Option SymbolRef :=
  ts.registries[slot]?.bind fun r => r.find? lexeme

end Tables

structure BoundMachine where
  table : Nat
  machine : Machine
deriving DecidableEq, Repr

/-- Registries and machines, and the files that can be opened. -/
structure Heap where
  directory : Directory
  tables : Tables := {}
  lexers : List (Option BoundMachine) := []

/-- Where a lexer gets its text from. -/
inductive Opening where
  | reader (r : Reader)
  | text (source : String) (file? : Option String)
  | path (name : String)
deriving DecidableEq, Repr

/-- The reader that a lexer starts with. -/
def Opening.readIn (d : Directory) : Opening → Except Error Reader
  | reader r          => .ok r
  | text source file? => .ok (.ofSource source file?)
  | path name         => Reader.openIn d name

inductive Action where
  | newTable
  | newSeeded (order : SeedOrder)
  | seed (table : Nat) (order : SeedOrder)
  | intern (table : Nat) (lexeme : String) (kind : Kind)
  | lookup (table : Nat) (lexeme : String)
  | contains (table : Nat) (lexeme : String)
  | size (table : Nat)
  | newLexer (table : Nat) (opening : Opening)
  | next (lexer : Nat)
  | close (lexer : Nat)

inductive Report where
  | noSuchSlot
  | table (slot : Nat)
  | seeded (table size : Nat)
  | symbol (table : Nat) (found : Option SymbolRef)
  | contains (answer : Bool)
  | size (size : Nat)
  | failed (e : Error)
  | lexer (slot : Nat)
  | next (lexer table : Nat) (answer : Except Error (Option TokenRef)) (events : List Event)
  | closed (lexer : Nat) (events : List Event)

namespace Heap

/-- Nothing was made yet. -/
def start (d : Directory) : Heap := { directory := d }

def lexer? (h : Heap) (slot : Nat) : Option BoundMachine := h.lexers[slot]?.join

/-- Use the registry in a slot. -/
def withStore (h : Heap) (slot : Nat) (use : Store → Report × Heap) : Report × Heap :=
  match h.tables.store? slot with
  | some s => use s
  | none   => (.noSuchSlot, h)

def withLexer (h : Heap) (slot : Nat) (use : BoundMachine → Store → Report × Heap) :
    Report × Heap :=
  match h.lexer? slot with
  | some b => h.withStore b.table (use b)
  | none   => (.noSuchSlot, h)

def put (h : Heap) (slot : Nat) (s : Store) : Heap := { h with tables := h.tables.put slot s }

def setLexer (h : Heap) (slot : Nat) (b : BoundMachine) : Heap :=
  { h with lexers := h.lexers.set slot (some b) }

def seed (h : Heap) (slot : Nat) (order : SeedOrder) : Report × Heap :=
  h.withStore slot fun s =>
    (.seeded slot (s.seed order).registry.size, h.put slot (s.seed order))

def intern (h : Heap) (slot : Nat) (lexeme : String) (kind : Kind) : Report × Heap :=
  h.withStore slot fun s =>
    let (found, s) := s.intern lexeme kind
    (.symbol slot found, h.put slot s)

def perform (h : Heap) : Action → Report × Heap
  | .newTable         => (.table h.tables.registries.length, { h with tables := h.tables.add })
  | .newSeeded order  =>
    { h with tables := h.tables.add }.seed h.tables.registries.length order
  | .seed slot order  => h.seed slot order
  | .intern slot lexeme kind => h.intern slot lexeme kind
  | .lookup slot lexeme      => h.intern slot lexeme .bogus
  | .contains slot lexeme    => h.withStore slot fun s =>
    (.contains (s.registry.contains lexeme), h)
  | .size slot => h.withStore slot fun s => (.size s.registry.size, h)
  | .newLexer slot opening => h.withStore slot fun _ =>
    match (opening.readIn h.directory).bind Machine.new with
    | .ok m    =>
      (.lexer h.lexers.length, { h with lexers := h.lexers ++ [some ⟨slot, m⟩] })
    | .error e => (.failed e, { h with lexers := h.lexers ++ [none] })
  | .next slot => h.withLexer slot fun b s =>
    let turn := Scene.turn ⟨b.machine, s, []⟩
    (.next slot b.table turn.answer turn.scene.events,
      (h.put b.table turn.scene.store).setLexer slot ⟨b.table, turn.scene.machine⟩)
  | .close slot => h.withLexer slot fun b _ =>
    (.closed slot b.machine.closing, h.setLexer slot ⟨b.table, b.machine.close⟩)

def run (h : Heap) : List Action → List Report × Heap
  | []             => ([], h)
  | action :: rest =>
    let (report, h) := h.perform action
    let (reports, h) := run h rest
    (report :: reports, h)

end Heap

end Lexis
