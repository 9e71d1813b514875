import Lexis.Directory

/-!
# Logs

The events of a whole run: a fresh table is seeded, the source is opened if it is a file, and the
lexer is drained.
-/

namespace Lexis

inductive Source where
  | text (source : String) (file? : Option String)
  | file (path : String)
deriving DecidableEq, Repr

/-- The events of a run, and the error that ended it, if one did. -/
structure Log where
  events : List Event
  failure : Option Error
deriving DecidableEq, Repr

namespace Log

/-- The event of seeding a fresh table. -/
def opening : Event := .seeded SymbolTable.seeded.size

def ofRun (d : Directory) : Source → Log
  | .text source file? =>
    let run := scan source file?
    ⟨opening :: run.events, run.failure⟩
  | .file path =>
    match d.read path with
    | .error u => ⟨[opening], some (u.error path)⟩
    | .ok text =>
      let run := scan text (some path)
      ⟨opening :: .opened path text.utf8ByteSize :: run.events, run.failure⟩

/-- The events that a log shows at a level. -/
def shown (log : Log) (limit : Option Level) : List Event := log.events.filter (·.isShown limit)

end Log

end Lexis
