import Lexis.Event

/-!
# Loggers

Besides what it prints the program keeps records: the events of its scan, and how many tokens it
printed. What is written of them is up to the logger that is installed, of which nothing is known
here. It may depend on the time, so the place of a record among the records is given with it.
-/

namespace Lexis

/-- A record that the program keeps. -/
inductive Notice where
  | event (e : Event)
  /-- So many tokens were printed in this time. -/
  | tokenized (count : Nat) (elapsed : String)
deriving DecidableEq, Repr

def Notice.level : Notice → Level
  | event e       => e.level
  | tokenized _ _ => .info

/-- The path of the module that keeps the records of an origin. -/
def Origin.target : Origin → String
  | symbols => "frontend::lexer::symbols"
  | source  => "frontend::lexer::source"
  | scanner => "frontend::lexer::lexer"

def Notice.target : Notice → String
  | event e       => e.origin.target
  | tokenized _ _ => "frontend"

def Notice.message : Notice → String
  | event e                 => e.message
  | tokenized count elapsed => "Tokenized " ++ count.repr ++ " tokens in " ++ elapsed

/-- What is written where errors are expected of each record, given its place, and how the time
looks that a scan took. -/
structure Logger where
  write : Nat → Notice → String
  elapsed : String

namespace Logger

/-- The logger that writes nothing. -/
def off : Logger := ⟨fun _ _ => "", ""⟩

/-- The logger that writes a line for each error and nothing for other records, when the times of
the records are known. -/
def errors (time : Nat → String) (elapsed : String) : Logger where
  write place notice :=
    if notice.level = .error then
      "[" ++ time place ++ " " ++ notice.level.name ++ " " ++ notice.target ++ "] " ++
        notice.message ++ "\n"
    else ""
  elapsed := elapsed

end Logger

end Lexis
