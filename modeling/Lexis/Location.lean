/-!
# Places in a source text

Lines are counted from one and columns from zero, both in characters. A line feed belongs to the
line that it ends, and the character after it is at column zero of the next line.
-/

namespace Lexis

structure Location where
  line : Nat
  column : Nat
deriving DecidableEq, Repr

namespace Location

def start : Location := ⟨1, 0⟩

def next (l : Location) (c : Char) : Location :=
  if c = '\n' then ⟨l.line + 1, 0⟩ else ⟨l.line, l.column + 1⟩

/-- The place after a text. -/
def advance (l : Location) (text : List Char) : Location := text.foldl next l

@[simp] theorem next_lineFeed (l : Location) : l.next '\n' = ⟨l.line + 1, 0⟩ := rfl

theorem next_of_ne {c : Char} (h : c ≠ '\n') (l : Location) :
    l.next c = ⟨l.line, l.column + 1⟩ := by simp [next, h]

@[simp] theorem advance_nil (l : Location) : l.advance [] = l := rfl

@[simp] theorem advance_cons (l : Location) (c : Char) (rest : List Char) :
    l.advance (c :: rest) = (l.next c).advance rest := rfl

@[simp] theorem advance_append (l : Location) (text rest : List Char) :
    l.advance (text ++ rest) = (l.advance text).advance rest := by
  simp [advance, List.foldl_append]

/-- A text without line feeds moves along its line. -/
theorem advance_of_notMem {text : List Char} (h : '\n' ∉ text) (l : Location) :
    l.advance text = ⟨l.line, l.column + text.length⟩ := by
  induction text generalizing l with
  | nil => rfl
  | cons c rest ih =>
    rw [List.mem_cons, not_or] at h
    rw [advance_cons, next_of_ne (Ne.symm h.1), ih h.2]
    simp [Nat.add_comm, Nat.add_left_comm]

end Location

structure Position extends Location where
  file : String
deriving DecidableEq, Repr

/-- File, line and column, divided by colons. -/
def Position.text (p : Position) : String :=
  p.file ++ ":" ++ p.line.repr ++ ":" ++ p.column.repr

/-- The columns from `first` through `last` of a line. -/
structure Span where
  line : Nat
  first : Nat
  last : Nat
deriving DecidableEq, Repr

end Lexis
