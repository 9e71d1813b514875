import Lexis.Lexer

/-!
# Files

A directory with files and empty folders in it, and the way a path leads from it to a text. Names
are divided by slashes; an empty name and `.` stay where they are, `..` goes up. Outside of the
directory nothing is known but that there are folders.
-/

namespace Lexis

/-- Why a path does not lead to a text. -/
inductive Unreadable where
  | missing
  | notFolder
  | isFolder
  | nameTooLong
  | zeroInName
  | notText
  | other (reason : String)
deriving DecidableEq, Repr

def Unreadable.reason : Unreadable → String
  | missing      => "No such file or directory (os error 2)"
  | notFolder    => "Not a directory (os error 20)"
  | isFolder     => "Is a directory (os error 21)"
  | nameTooLong  => "File name too long (os error 36)"
  | zeroInName   => "file name contained an unexpected NUL byte"
  | notText      => "stream did not contain valid UTF-8"
  | other reason => reason

def Unreadable.error (u : Unreadable) (path : String) : Error :=
  ⟨.sourceUnavailable path u.reason, ⟨⟨0, 0⟩, path⟩⟩

inductive Entry where
  | file (contents : ByteArray)
  | folder

/-- Named files and empty folders. -/
structure Directory where
  entries : List (String × Entry) := []

namespace Directory

/-- Where a path has led so far. -/
inductive Place where
  /-- The directory itself. -/
  | here
  /-- A folder of the directory. -/
  | inside
  /-- Some folder outside of the directory. -/
  | outside
  /-- A file of the directory. -/
  | file (contents : ByteArray)

def names : List Char → List (List Char)
  | []        => [[]]
  | c :: rest =>
    if c = '/' then [] :: names rest
    else match names rest with
      | []             => [[c]]
      | name :: others => (c :: name) :: others

/-- The longest name a folder can have an entry under, in bytes. -/
def nameLimit : Nat := 255

/-- The longest path that can be followed, in bytes. -/
def pathLimit : Nat := 4095

def Place.parent : Place → Place
  | .inside => .here
  | _       => .outside

/-- The entry of a name in the directory. -/
def entry (d : Directory) (name : String) : Except Unreadable Place :=
  match d.entries.lookup name with
  | some (.file contents) => .ok (.file contents)
  | some .folder          => .ok .inside
  | none                  => .error .missing

def step (d : Directory) (p : Place) (name : String) : Except Unreadable Place :=
  match p with
  | .file _ => .error .notFolder
  | _       =>
    if name = "" ∨ name = "." then .ok p
    else if name = ".." then .ok p.parent
    else if nameLimit < name.utf8ByteSize then .error .nameTooLong
    else match p with
      | .here => d.entry name
      | _     => .error .missing

/-- Follow a path; one that starts with a slash does not start in the directory. -/
def follow (d : Directory) (path : String) : Except Unreadable Place :=
  (names path.toList).foldlM (fun p name => d.step p (String.ofList name))
    (if path.toList.head? = some '/' then .outside else .here)

def Place.text : Place → Except Unreadable String
  | .file contents => (String.fromUTF8? contents).elim (.error .notText) .ok
  | _              => .error .isFolder

def read (d : Directory) (path : String) : Except Unreadable String :=
  if '\x00' ∈ path.toList then .error .zeroInName
  else if path = "" then .error .missing
  else if pathLimit < path.utf8ByteSize then .error .nameTooLong
  else (d.follow path).bind Place.text

end Directory

/-- A reader at the start of a file, which is reported under its path. -/
def Reader.openIn (d : Directory) (path : String) : Except Error Reader :=
  match d.read path with
  | .ok text => .ok (Reader.ofSource text (some path))
  | .error u => .error (u.error path)

def Lexer.openIn (d : Directory) (path : String) : Except Error Lexer :=
  (Reader.openIn d path).bind Lexer.ofReader

end Lexis
