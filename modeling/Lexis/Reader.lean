import Lexis.Error

/-!
# Readers

A reader hands out the characters of a source one at a time and knows the place of the last one it
handed out (line and column zero before the first). A closed reader has given up its text: reading
on is an error, looking ahead finds nothing.
-/

namespace Lexis

structure Reader where
  /-- The name under which the text is reported. -/
  file : String
  /-- What has not been read yet. -/
  rest : List Char
  /-- The place of the last character read. -/
  last : Location := ⟨0, 0⟩
  /-- The place of the next character. -/
  upcoming : Location := Location.start
  closed : Bool := false
deriving DecidableEq, Repr

/-- The name of a source that comes without one. -/
def defaultFile : String := "shell"

namespace Reader

/-- A reader at the start of a text. -/
def ofSource (source : String) (file? : Option String) : Reader where
  file := file?.getD defaultFile
  rest := source.toList

def position (r : Reader) : Position := ⟨r.last, r.file⟩

def closedError (r : Reader) : Error := ⟨.sourceClosed, r.position⟩

/-- The next character, with the reader behind it; nothing at the end of the text. -/
def read (r : Reader) : Except Error (Option (Char × Reader)) :=
  if r.closed then .error r.closedError
  else match r.rest with
    | []        => .ok none
    | c :: rest => .ok (some (c, { r with
        rest     := rest
        last     := r.upcoming
        upcoming := r.upcoming.next c }))

def peek (r : Reader) : Option Char := if r.closed then none else r.rest.head?

/-- Give up the text. -/
def close (r : Reader) : Reader := { r with rest := [], closed := true }

theorem read_of_closed {r : Reader} (h : r.closed = true) : r.read = .error r.closedError := by
  simp [read, h]

/-- Reading takes one character off what is left. -/
theorem length_rest_of_read {r r' : Reader} {c : Char} (h : r.read = .ok (some (c, r'))) :
    r'.rest.length + 1 = r.rest.length := by
  unfold read at h
  split at h
  · cases h
  · split at h
    · cases h
    · next hrest =>
      simp only [Except.ok.injEq, Option.some.injEq, Prod.mk.injEq] at h
      simp [hrest, ← h.2]

end Reader

end Lexis
