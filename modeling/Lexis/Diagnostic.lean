import Lexis.Character.WhiteSpace
import Lexis.Error
import Lexis.Text.Line

/-!
# Diagnostics

An error is shown by its name and hint, the file, and, if the source has the line in question, that
line with an arrow below it:

```text
Error: IllegalLexeme (`@` is not a valid operator or separator)
-> sum.x
   |
20 | total = @
   | --------^
```

The line loses the blanks and tabs in front, and the arrow is that much shorter. An arrow longer
than `arrowLimit` is not drawn: then there is no diagnostic at all (`render?` is `none`).
-/

namespace Lexis

def isIndent (c : Char) : Bool := c == ' ' || c == '\t'

/-- The number of blanks and tabs at the head of a line. -/
def indentation (line : List Char) : Nat := (line.takeWhile isIndent).length

/-- A line without its indentation and without blank characters at its end. -/
def lineBody (line : List Char) : List Char :=
  Text.trimEnd Character.isBlank (line.dropWhile isIndent)

namespace Error

/-- The longest arrow that can be drawn. -/
def arrowLimit : Nat := 65535

def header (e : Error) : String :=
  let hint := match e.fault.tip? with
    | some tip => " (" ++ tip ++ ")"
    | none     => ""
  "Error: " ++ e.fault.name ++ hint ++ "\n-> " ++ e.position.file ++ "\n"

def arrowLength (e : Error) (line : List Char) : Nat := e.position.column - indentation line + 1

/-- The margin of a row without a line number, up to its bar. -/
def gutter (e : Error) : String := Text.alignRight (e.position.line.repr.length + 2) ' ' "|"

/-- The three rows that show a line and point into it. -/
def excerpt (e : Error) (line : List Char) : String :=
  e.gutter ++ "\n" ++
    e.position.line.repr ++ " | " ++ String.ofList (lineBody line) ++ "\n" ++
    e.gutter ++ " " ++ Text.alignRight (e.arrowLength line) '-' "^" ++ "\n"

/-- The error in its source, unless the arrow would be too long. -/
def render? (e : Error) (source : String) : Option String :=
  match Text.lineAt? source e.position.line with
  | none      => some e.header
  | some line =>
    if e.arrowLength line.toList ≤ arrowLimit then some (e.header ++ e.excerpt line.toList)
    else none

/-- The error in a source that may not be there any more; then it is shown without a line. -/
def renderFrom? {ε : Type} (e : Error) : Except ε String → Option String
  | .ok source => e.render? source
  | .error _   => e.render? ""

end Error

end Lexis
