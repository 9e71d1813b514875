import Lexis.Text.Align

/-!
# Lines of a text

A line runs up to and including its line feed; a text that does not end in one has a last line
without it. `lineAt?` shows a line without any line break characters at its end, and `listing` shows
all lines, each without its own line break (a line feed, or a carriage return and a line feed).
The lines together are the text (`flatten_lines`).
-/

namespace Lexis.Text

/-- The lines of a text, each with its line feed. -/
def lines : List Char → List (List Char)
  | []        => []
  | c :: rest =>
    if c = '\n' then [c] :: lines rest
    else match lines rest with
      | []             => [[c]]
      | line :: others => (c :: line) :: others

@[simp] theorem lines_nil : lines [] = [] := rfl

@[simp] theorem lines_lineFeed (rest : List Char) :
    lines ('\n' :: rest) = ['\n'] :: lines rest := by simp [lines]

/-- The lines put together again are the text. -/
theorem flatten_lines (text : List Char) : (lines text).flatten = text := by
  induction text with
  | nil => rfl
  | cons c rest ih =>
    unfold lines
    split
    · rw [List.flatten_cons, ih, List.singleton_append]
    · split
      · next h => rw [← ih, h]; rfl
      · next h => rw [← ih, h]; rfl

theorem lines_eq_nil_iff (text : List Char) : lines text = [] ↔ text = [] := by
  constructor
  · intro h
    rw [← flatten_lines text, h, List.flatten_nil]
  · rintro rfl; rfl

/-- The text without the characters of a class at its end. -/
def trimEnd (p : Char → Bool) (text : List Char) : List Char :=
  (text.reverse.dropWhile p).reverse

def isBreak (c : Char) : Bool := c == '\n' || c == '\r'

/-- The line of a given number, counted from one, without line breaks at its end. -/
def lineAt? (source : String) (number : Nat) : Option String :=
  if number = 0 then none
  else (lines source.toList)[number - 1]?.map fun line => String.ofList (trimEnd isBreak line)

@[simp] theorem lineAt?_zero (source : String) : lineAt? source 0 = none := rfl

@[simp] theorem lineAt?_succ (source : String) (n : Nat) :
    lineAt? source (n + 1) =
      (lines source.toList)[n]?.map fun line => String.ofList (trimEnd isBreak line) := by
  simp [lineAt?]

/-- The text without the last character, if that is `c`. -/
def dropLastIf (c : Char) (text : List Char) : List Char :=
  if text.getLast? = some c then text.dropLast else text

/-- A line without the line break that ends it. A carriage return counts only before a line feed. -/
def withoutBreak (line : List Char) : List Char :=
  if line.getLast? = some '\n' then dropLastIf '\r' line.dropLast else line

/-- A row of a listing: the number of a line and its text. -/
def listingRow (number : Nat) (line : List Char) : List Char :=
  (alignRight 3 ' ' number.repr).toList ++ ". ".toList ++ withoutBreak line ++ ['\n']

def listing (source : String) : String :=
  String.ofList <| (lines source.toList).zipIdx 1 |>.flatMap fun (line, number) =>
    listingRow number line

end Lexis.Text
