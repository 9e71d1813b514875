import Lexis.Directory

/-!
# Sessions

Tables, readers and lexers that are used side by side. Each kind of object has slots, numbered from
zero in the order of creation; a slot is empty if creating its object failed or if the object was
handed over to another one. A lexer works on the table in a slot, which other lexers may share.

A symbol is shown with a number: the same number for the same place in the same table, and a new one
for a symbol not shown before.
-/

namespace Lexis

/-- The place of a symbol: the slot of its table, and its place in the table. -/
structure Identity where
  table : Nat
  index : Nat
deriving DecidableEq, Repr

/-- A lexer and the slot of the table it works on. -/
structure BoundLexer where
  table : Nat
  lexer : Lexer
deriving DecidableEq, Repr

structure Session where
  directory : Directory
  tables : List SymbolTable := []
  readers : List (Option Reader) := []
  lexers : List (Option BoundLexer) := []
  /-- The symbols shown so far, in order. -/
  shown : List Identity := []

inductive Command where
  | newTable
  | newSeeded
  | seed (table : Nat)
  | intern (table : Nat) (lexeme : String) (kind : Kind)
  | lookup (table : Nat) (lexeme : String)
  | contains (table : Nat) (lexeme : String)
  | size (table : Nat)
  | makeToken (table : Nat) (lexeme : String) (kind : Kind) (span : Span)
  | newReader (source : String) (file? : Option String)
  | openReader (path : String)
  | read (reader : Nat)
  | inspect (reader : Nat)
  | closeReader (reader : Nat)
  | newLexer (table : Nat) (source : String) (file? : Option String)
  | openLexer (table : Nat) (path : String)
  | lexerOfReader (table reader : Nat)
  | next (lexer : Nat)
  | drain (lexer : Nat)
  | closeLexer (lexer : Nat)
deriving DecidableEq, Repr

/-- The state of a lexer and its table, as far as it is shown. -/
structure Status where
  ended : Bool
  size : Nat
deriving DecidableEq, Repr

/-- A thing together with the number of its symbol. -/
structure Numbered (α : Type) where
  number : Nat
  item : α
deriving DecidableEq, Repr

inductive Reply where
  | noSuchSlot
  | failed (e : Error)
  | table (slot : Nat)
  | seeded (size : Nat)
  | symbol (found : Option (Numbered Symbol)) (size : Nat)
  | contains (answer : Bool)
  | size (size : Nat)
  | token (made : Option (Numbered Token))
  | reader (r : Reader)
  | character (c : Option Char) (r : Reader)
  | lexer (slot : Nat) (status : Status)
  | next (answer : Except Error (Option (Numbered Token))) (status : Status)
  | drained (tokens : List (Numbered Token)) (failure : Option Error) (status : Status)
  | closed (status : Status)

namespace Session

/-! ### Slots -/

def withTable (s : Session) (slot : Nat) (use : SymbolTable → Reply × Session) : Reply × Session :=
  match s.tables[slot]? with
  | some t => use t
  | none   => (.noSuchSlot, s)

def withReader (s : Session) (slot : Nat) (use : Reader → Reply × Session) : Reply × Session :=
  match s.readers[slot]? with
  | some (some r) => use r
  | _             => (.noSuchSlot, s)

def withLexer (s : Session) (slot : Nat) (use : BoundLexer → SymbolTable → Reply × Session) :
    Reply × Session :=
  match s.lexers[slot]? with
  | some (some b) => s.withTable b.table (use b)
  | _             => (.noSuchSlot, s)

def setTable (s : Session) (slot : Nat) (t : SymbolTable) : Session :=
  { s with tables := s.tables.set slot t }

/-- Put a reader into its slot, or empty the slot. -/
def setReader (s : Session) (slot : Nat) (r? : Option Reader) : Session :=
  { s with readers := s.readers.set slot r? }

def setLexer (s : Session) (slot : Nat) (b : BoundLexer) : Session :=
  { s with lexers := s.lexers.set slot (some b) }

def addTable (s : Session) (t : SymbolTable) : Reply × Session :=
  (.table s.tables.length, { s with tables := s.tables ++ [t] })

/-- A new reader, or an empty slot for it. -/
def addReader (s : Session) : Except Error Reader → Reply × Session
  | .ok r    => (.reader r, { s with readers := s.readers ++ [some r] })
  | .error e => (.failed e, { s with readers := s.readers ++ [none] })

/-- A new lexer on a table, or an empty slot for it. -/
def addLexer (s : Session) (slot : Nat) (t : SymbolTable) : Except Error Lexer → Reply × Session
  | .ok l    =>
    (.lexer s.lexers.length ⟨l.ended, t.size⟩, { s with lexers := s.lexers ++ [some ⟨slot, l⟩] })
  | .error e => (.failed e, { s with lexers := s.lexers ++ [none] })

/-! ### Numbers of symbols -/

/-- Show a symbol of the table in a slot. -/
def number (s : Session) (slot : Nat) (t : SymbolTable) (symbol : Symbol) : Nat × Session :=
  let identity : Identity := ⟨slot, t.index symbol.lexeme⟩
  let place := s.shown.findIdx (· == identity)
  (place, if place < s.shown.length then s else { s with shown := s.shown ++ [identity] })

def numberToken (s : Session) (slot : Nat) (t : SymbolTable) (token : Token) :
    Numbered Token × Session :=
  let (n, s) := s.number slot t token.symbol
  (⟨n, token⟩, s)

def numberTokens (s : Session) (slot : Nat) (t : SymbolTable) :
    List Token → List (Numbered Token) × Session
  | []            => ([], s)
  | token :: rest =>
    let (first, s) := s.numberToken slot t token
    let (others, s) := numberTokens s slot t rest
    (first :: others, s)

/-- Show a symbol that was asked for, and the size of its table. -/
def reportSymbol (s : Session) (slot : Nat) (t : SymbolTable) : Option Symbol → Reply × Session
  | none        => (.symbol none t.size, s)
  | some symbol =>
    let (n, s) := s.number slot t symbol
    (.symbol (some ⟨n, symbol⟩) t.size, s)

def reportToken (s : Session) (slot : Nat) (t : SymbolTable) : Option Token → Reply × Session
  | none       => (.token none, s)
  | some token =>
    let (numbered, s) := s.numberToken slot t token
    (.token (some numbered), s)

def reportStep (s : Session) (slot : Nat) (step : Step) : Reply × Session :=
  let status : Status := ⟨step.lexer.ended, step.table.size⟩
  match step.answer with
  | .error e         => (.next (.error e) status, s)
  | .ok none         => (.next (.ok none) status, s)
  | .ok (some token) =>
    let (numbered, s) := s.numberToken slot step.table token
    (.next (.ok (some numbered)) status, s)

/-- Show all that a lexer had left. -/
def reportDrain (s : Session) (slot : Nat) (d : Drain) : Reply × Session :=
  let (tokens, s) := s.numberTokens slot d.table d.tokens
  (.drained tokens d.failure ⟨d.lexer.ended, d.table.size⟩, s)

/-! ### Commands -/

def perform (s : Session) : Command → Reply × Session
  | .newTable  => s.addTable .empty
  | .newSeeded => s.addTable .seeded
  | .seed slot => s.withTable slot fun t => (.seeded t.seed.size, s.setTable slot t.seed)
  | .intern slot lexeme kind => s.withTable slot fun t =>
    let (symbol?, t) := t.intern lexeme kind
    (s.setTable slot t).reportSymbol slot t symbol?
  | .lookup slot lexeme => s.withTable slot fun t => s.reportSymbol slot t (t.lookup lexeme)
  | .contains slot lexeme => s.withTable slot fun t => (.contains (t.contains lexeme), s)
  | .size slot => s.withTable slot fun t => (.size t.size, s)
  | .makeToken slot lexeme kind span => s.withTable slot fun t =>
    let (symbol?, t) := t.intern lexeme kind
    (s.setTable slot t).reportToken slot t (symbol?.map fun symbol => ⟨symbol, span⟩)
  | .newReader source file? => s.addReader (.ok (.ofSource source file?))
  | .openReader path => s.addReader (Reader.openIn s.directory path)
  | .read slot => s.withReader slot fun r =>
    match r.read with
    | .error e          => (.failed e, s)
    | .ok none          => (.character none r, s)
    | .ok (some (c, r)) => (.character (some c) r, s.setReader slot (some r))
  | .inspect slot => s.withReader slot fun r => (.reader r, s)
  | .closeReader slot => s.withReader slot fun r =>
    (.reader r.close, s.setReader slot (some r.close))
  | .newLexer slot source file? => s.withTable slot fun t =>
    s.addLexer slot t (.ok (.ofSource source file?))
  | .openLexer slot path => s.withTable slot fun t =>
    s.addLexer slot t (Lexer.openIn s.directory path)
  | .lexerOfReader slot reader => s.withTable slot fun t =>
    s.withReader reader fun r => (s.setReader reader none).addLexer slot t (Lexer.ofReader r)
  | .next slot => s.withLexer slot fun b t =>
    let step := b.lexer.next t
    ((s.setLexer slot ⟨b.table, step.lexer⟩).setTable b.table step.table).reportStep b.table step
  | .drain slot => s.withLexer slot fun b t =>
    let d := b.lexer.drain t
    ((s.setLexer slot ⟨b.table, d.lexer⟩).setTable b.table d.table).reportDrain b.table d
  | .closeLexer slot => s.withLexer slot fun b t =>
    (.closed ⟨true, t.size⟩, s.setLexer slot ⟨b.table, b.lexer.close⟩)

def performAll (s : Session) : List Command → List Reply × Session
  | []              => ([], s)
  | command :: rest =>
    let (reply, s) := s.perform command
    let (replies, s) := performAll s rest
    (reply :: replies, s)

end Session

end Lexis
