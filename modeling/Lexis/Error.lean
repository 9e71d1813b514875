import Lexis.Location
import Lexis.Text.Quoted

/-!
# Errors

What can go wrong, and where. A `Fault` is the cause; an `Error` is a fault at a position.
-/

namespace Lexis

/-- The causes of failure. -/
inductive Fault where
  /-- No lexeme starts with this text. -/
  | illegalLexeme (lexeme : String)
  /-- The source was read after it was closed. -/
  | sourceClosed
  /-- The source could not be read at all. -/
  | sourceUnavailable (path reason : String)
deriving DecidableEq, Repr

namespace Fault

def name : Fault → String
  | illegalLexeme _       => "IllegalLexeme"
  | sourceClosed          => "ResourceAlreadyClosed"
  | sourceUnavailable _ _ => "SourceUnavailable"

/-- The cause in words. -/
def message : Fault → String
  | illegalLexeme lexeme          => "illegal character: " ++ Text.quote lexeme
  | sourceClosed                  => "source read after it was closed"
  | sourceUnavailable path reason => "could not read " ++ Text.quote path ++ ": " ++ reason

/-- A hint for the writer of the source, if there is one to give. -/
def tip? : Fault → Option String
  | illegalLexeme lexeme  => some ("`" ++ lexeme ++ "` is not a valid operator or separator")
  | sourceClosed          =>
    some "the source was read again after the scanner reached end of stream"
  | sourceUnavailable _ _ => none

end Fault

/-- A fault and the place where it was found. -/
structure Error where
  fault : Fault
  position : Position
deriving DecidableEq, Repr

def Error.message (e : Error) : String := e.fault.message ++ " at " ++ e.position.text

end Lexis
