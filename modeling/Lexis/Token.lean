import Lexis.Location
import Lexis.SymbolTable
import Lexis.Text.Align

/-!
# Tokens

A token is a symbol and the columns of a line where its lexeme stands. `Token.row` is its row in a
printed token stream.
-/

namespace Lexis

/-- An occurrence of a symbol. -/
structure Token where
  symbol : Symbol
  span : Span
deriving DecidableEq, Repr

namespace Token

def kind (t : Token) : Kind := t.symbol.kind

def lexeme (t : Token) : String := t.symbol.lexeme

/-- First and last column, line, kind and lexeme, in columns of fixed width. -/
def row (t : Token) : String :=
  Text.alignRight 6 ' ' t.span.first.repr ++ " " ++ Text.alignRight 6 ' ' t.span.last.repr ++
    "   line: " ++ Text.alignRight 3 ' ' t.span.line.repr ++ "   " ++
    Text.alignLeft 14 t.kind.name ++ " " ++ t.lexeme

end Token

end Lexis
