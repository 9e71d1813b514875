import Lexis.Text.Quoted
import Lexis.Token

/-!
# Events

What is worth recording while a source is scanned. Each event has a level, a part of the library
that it comes from, and a text. A log at some level shows the events that are at least that severe.
-/

namespace Lexis

inductive Level where
  | error
  | warn
  | info
  | debug
  | trace
deriving DecidableEq, Repr

inductive Origin where
  | symbols
  | source
  | scanner
deriving DecidableEq, Repr

/-- Something that happened during a scan. -/
inductive Event where
  /-- The fixed vocabulary was registered in a table, which has this many symbols now. -/
  | seeded (size : Nat)
  /-- A file of this many bytes was opened. -/
  | opened (file : String) (bytes : Nat)
  /-- A source was closed. -/
  | closed (file : String)
  /-- A comment on this line was skipped. -/
  | comment (line : Nat)
  /-- A token was found. -/
  | token (t : Token)
  /-- A character was found that starts no lexeme. -/
  | illegal (lexeme : String)
deriving DecidableEq, Repr

namespace Level

/-- The place of a level, counted from the most severe. -/
def rank : Level → Nat
  | error => 1
  | warn  => 2
  | info  => 3
  | debug => 4
  | trace => 5

def name : Level → String
  | error => "ERROR"
  | warn  => "WARN"
  | info  => "INFO"
  | debug => "DEBUG"
  | trace => "TRACE"

end Level

namespace Event

def level : Event → Level
  | illegal _ => .error
  | token _   => .trace
  | _         => .debug

def origin : Event → Origin
  | seeded _            => .symbols
  | opened _ _ | closed _ => .source
  | _                   => .scanner

def message : Event → String
  | seeded size       => "symbol table seeded with " ++ size.repr ++ " entries"
  | opened file bytes => "opened " ++ file ++ " (" ++ bytes.repr ++ " bytes)"
  | closed file       => "closed " ++ file
  | comment line      => "skipping comment on line " ++ line.repr
  | token t           =>
    t.span.line.repr ++ ":" ++ t.span.first.repr ++ " " ++ t.kind.name ++ " " ++
      Text.quote t.lexeme
  | illegal lexeme    => "******** illegal character: " ++ lexeme

/-- Whether a log shows the event; `none` is the log that shows nothing. -/
def isShown (limit : Option Level) (e : Event) : Bool :=
  limit.any fun l => e.level.rank ≤ l.rank

end Event

end Lexis
