import Lexis.Reader

/-!
# Tapes

A reader as it is kept: the whole text with a cursor in it, and the line and the column of the last
character as numbers of 32 bits. The counters move late. Behind a line feed it is only noted that
the next character starts a line, and both are moved when that character is read. A counter that
cannot be moved leaves no result.

`Tape.reader` is the reader that a tape stands for. Readers and tapes are asked the same
(`Reader.Call`), so that what they reply can be compared.
-/

namespace Lexis

/-- A source text that is being read, with a cursor and counters of 32 bits. -/
structure Tape where
  text : List Char
  /-- The number of characters that were read. -/
  cursor : Nat := 0
  /-- The name under which the text is reported. -/
  file : String
  /-- The line of the last character read. -/
  line : UInt32 := 0
  /-- The column of the last character read. -/
  column : UInt32 := 0
  /-- Whether the next character starts a line. -/
  startsLine : Bool := true
  closed : Bool := false
deriving DecidableEq, Repr

/-! ### Calls -/

namespace Reader

inductive Call where
  | read
  | peek
  | close
deriving DecidableEq, Repr

inductive Reply where
  | read (answer : Except Error (Option Char))
  | peek (found : Option Char)
  | closed

/-- The character that is handed out with a reply, if there is one. -/
def Reply.chars : Reply → List Char
  | read (.ok (some c)) => [c]
  | _                   => []

def call (r : Reader) : Call → Reply × Reader
  | .read  =>
    match r.read with
    | .error e          => (.read (.error e), r)
    | .ok none          => (.read (.ok none), r)
    | .ok (some (c, r)) => (.read (.ok (some c)), r)
  | .peek  => (.peek r.peek, r)
  | .close => (.closed, r.close)

/-- The replies to calls that are made one after the other, and the reader after them. -/
def run (r : Reader) : List Call → List Reply × Reader
  | []            => ([], r)
  | call :: calls =>
    let first := r.call call
    let others := first.2.run calls
    (first.1 :: others.1, others.2)

end Reader

namespace Tape

def ofSource (source : String) (file? : Option String) : Tape where
  text := source.toList
  file := file?.getD defaultFile

def closedError (t : Tape) : Error :=
  ⟨.sourceClosed, ⟨⟨t.line.toNat, t.column.toNat⟩, t.file⟩⟩

/-- One more, if it has 32 bits. -/
def increment? (n : UInt32) : Option UInt32 :=
  if n.toNat + 1 < UInt32.size then some (n + 1) else none

/-- Line and column of the next character. -/
def count? (t : Tape) : Option (UInt32 × UInt32) :=
  if t.startsLine then (increment? t.line).map fun line => (line, 0)
  else (increment? t.column).map fun column => (t.line, column)

/-- The tape behind the next character, with the counters of that character. -/
def behind (t : Tape) (c : Char) (counters : UInt32 × UInt32) : Tape :=
  { t with
    cursor     := t.cursor + 1
    line       := counters.1
    column     := counters.2
    startsLine := c == '\n' }

/-- The next character, nothing at the end of the text, or the error of a closed tape. -/
def read (t : Tape) : Option (Except Error (Option Char) × Tape) :=
  if t.closed then some (.error t.closedError, t)
  else match t.text[t.cursor]? with
    | none   => some (.ok none, t)
    | some c => t.count?.map fun counters => (.ok (some c), t.behind c counters)

def peek (t : Tape) : Option Char := if t.closed then none else t.text[t.cursor]?

/-- Give up the text. The counters stay. -/
def close (t : Tape) : Tape := if t.closed then t else { t with text := [], closed := true }

def call (t : Tape) : Reader.Call → Option (Reader.Reply × Tape)
  | .read  => t.read.map fun (answer, t) => (.read answer, t)
  | .peek  => some (.peek t.peek, t)
  | .close => some (.closed, t.close)

/-- The replies to calls that are made one after the other, and the tape after them. -/
def run (t : Tape) : List Reader.Call → Option (List Reader.Reply × Tape)
  | []            => some ([], t)
  | call :: calls =>
    (t.call call).bind fun first =>
      (first.2.run calls).map fun others => (first.1 :: others.1, others.2)

/-- The reader that a tape stands for. -/
def reader (t : Tape) : Reader where
  file := t.file
  rest := if t.closed then [] else t.text.drop t.cursor
  last := ⟨t.line.toNat, t.column.toNat⟩
  upcoming :=
    if t.startsLine then ⟨t.line.toNat + 1, 0⟩ else ⟨t.line.toNat, t.column.toNat + 1⟩
  closed := t.closed

end Tape

end Lexis
