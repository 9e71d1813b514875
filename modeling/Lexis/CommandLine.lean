import Lexis.Diagnostic
import Lexis.Log
import Lexis.Logger

/-!
# The command line

The program prints the tokens of a file, then the error that ended the stream, if there was one, and
then the numbered source. Arguments are read from left to right: the first that settles what to do,
or that cannot be understood, decides. What the installed logger writes of the records that are kept
on the way goes where complaints go.
-/

namespace Lexis

/-- How the program ends. -/
inductive ExitStatus where
  | success
  | failure
  /-- The arguments could not be understood. -/
  | misuse
  /-- A diagnostic could not be drawn. -/
  | breakdown
deriving DecidableEq, Repr

def ExitStatus.code : ExitStatus → Nat
  | success   => 0
  | failure   => 1
  | misuse    => 2
  | breakdown => 101

structure Outcome where
  status : ExitStatus
  out : String
  err : String
deriving DecidableEq, Repr

namespace CommandLine

/-- What to scan, and whether to show the source after the tokens. -/
structure Options where
  file : String
  listing : Bool
deriving DecidableEq, Repr

inductive Request where
  | help
  | version
  | scan (options : Options)
  | misuse
deriving DecidableEq, Repr

/-! ### Arguments -/

inductive Argument where
  /-- Everything after this argument is a file. -/
  | endOfOptions
  | help
  | version
  | noListing
  | unknown
  | file (name : String)
deriving DecidableEq, Repr

/-- Read an argument where options are allowed. A group of letters after a single dash is a group of
options, of which the first one decides. -/
def Argument.ofString (arg : String) : Argument :=
  if arg = "--" then endOfOptions
  else if arg = "--help" then help
  else if arg = "--version" then version
  else if arg = "--no-listing" then noListing
  else match arg.toList with
    | '-' :: 'h' :: _ => help
    | '-' :: 'V' :: _ => version
    | '-' :: _ :: _   => unknown
    | _               => file arg

/-- What has been read so far. -/
structure Progress where
  file : Option String := none
  noListing : Bool := false
  /-- Whether options are still allowed. -/
  options : Bool := true
deriving DecidableEq, Repr

def Progress.argument (p : Progress) (arg : String) : Argument :=
  if p.options then .ofString arg else .file arg

/-- Read arguments until one of them decides. A file has a name, and there is exactly one; an option
is given at most once. -/
def parseFrom (p : Progress) : List String → Request
  | []          =>
    match p.file with
    | some file => .scan ⟨file, !p.noListing⟩
    | none      => .misuse
  | arg :: rest =>
    match p.argument arg with
    | .endOfOptions => parseFrom { p with options := false } rest
    | .help         => .help
    | .version      => .version
    | .noListing    => if p.noListing then .misuse else parseFrom { p with noListing := true } rest
    | .unknown      => .misuse
    | .file name    =>
      if name = "" ∨ p.file.isSome then .misuse else parseFrom { p with file := some name } rest

def parse (args : List String) : Request := parseFrom {} args

/-! ### Texts -/

def usage : String := "Usage: frontend [OPTIONS] <FILE>\n"

def helpText : String :=
  "Print the token stream of an X source file\n\n" ++ usage ++
    "\nArguments:\n  <FILE>  Source file to scan\n\n" ++
    "Options:\n" ++
    "      --no-listing  Do not echo the numbered source after the tokens\n" ++
    "  -h, --help        Print help\n" ++
    "  -V, --version     Print version\n"

def versionText : String := "frontend 0.1.0\n"

/-! ### Running -/

/-- What the program reads its file for. The file is read anew for each, and may have changed. -/
inductive Reading where
  | scan
  | diagnostic
  | listing
deriving DecidableEq, Repr

/-- The ways in which files are read. -/
abbrev Disk := Reading → String → Except Unreadable String

/-- What the program has printed, and how many records it has kept. -/
structure Console where
  out : String := ""
  err : String := ""
  recorded : Nat := 0
deriving DecidableEq, Repr

/-- An action prints, and may end the program. What was printed before stays. -/
abbrev Action := EStateM ExitStatus Console

def print (text : String) : Action Unit := modify fun c => { c with out := c.out ++ text }

/-- Print a text where errors are expected. -/
def complain (text : String) : Action Unit := modify fun c => { c with err := c.err ++ text }

/-- Keep a record, of which the logger may write something. -/
def record (logger : Logger) (notice : Notice) : Action Unit :=
  modify fun c =>
    { c with
      err      := c.err ++ logger.write c.recorded notice
      recorded := c.recorded + 1 }

def recordAll (logger : Logger) (events : List Event) : Action Unit :=
  events.forM fun e => record logger (.event e)

/-- What an action leaves behind that starts with nothing printed. -/
def Action.outcome (a : Action ExitStatus) : Outcome :=
  match a {} with
  | .ok status c    => ⟨status, c.out, c.err⟩
  | .error status c => ⟨status, c.out, c.err⟩

/-- Open a file for scanning. The table for it is seeded first. -/
def openLexer (logger : Logger) (disk : Disk) (file : String) : Action Lexer := do
  record logger (.event Log.opening)
  match disk .scan file with
  | .ok source =>
    record logger (.event (.opened file source.utf8ByteSize))
    return Lexer.ofSource source (some file)
  | .error u =>
    complain ("Error: " ++ (u.error file).message ++ "\n")
    throw .failure

/-- What is kept while tokens are printed: the last error, and how many tokens there were. -/
structure Tally where
  failure : Option Error := none
  count : Nat := 0
deriving DecidableEq, Repr

/-- Print tokens until the lexer has nothing more to say. An error does not stop the search for
tokens. -/
def printTokens (logger : Logger) (l : Lexer) (t : SymbolTable) (seen : Tally) : Action Tally := do
  let step := l.next t
  recordAll logger step.events
  match _h : step.answer with
  | .ok none         => return seen
  | .error e         => printTokens logger step.lexer step.table { seen with failure := some e }
  | .ok (some token) =>
    print (token.row ++ "\n")
    printTokens logger step.lexer step.table { seen with count := seen.count + 1 }
termination_by l.pending
decreasing_by all_goals exact Lexer.pending_next (by simp [step, _h])

/-- Print the diagnostic of an error in a file. The program breaks down if there is none. -/
def display (disk : Disk) (file : String) (e : Error) : Action Unit :=
  match e.renderFrom? (disk .diagnostic file) with
  | some diagnostic => print diagnostic
  | none            => throw .breakdown

/-- Print the numbered source, set off by an empty line. -/
def echo (disk : Disk) (file : String) : Action Unit :=
  match disk .listing file with
  | .ok source => do
    print "\n"
    print (Text.listing source)
  | .error u   => complain ("Error: could not echo " ++ file ++ ": " ++ u.reason ++ "\n")

/-- What is done when the tokens are printed: the diagnostic of the error that ended them, if there
was one, and the listing if it is asked for. -/
def Options.finish (o : Options) (disk : Disk) (failure : Option Error) : Action ExitStatus := do
  failure.forM (display disk o.file)
  if o.listing then echo disk o.file
  return if failure.isSome then .failure else .success

def Options.scan (o : Options) (logger : Logger) (disk : Disk) : Action ExitStatus := do
  let lexer ← openLexer logger disk o.file
  let seen ← printTokens logger lexer SymbolTable.seeded {}
  record logger (.tokenized seen.count logger.elapsed)
  o.finish disk seen.failure

/-- Do what is asked for, with a logger and a way to read files. -/
def Request.run (logger : Logger) (disk : Disk) : Request → Outcome
  | .help    => ⟨.success, helpText, ""⟩
  | .version => ⟨.success, versionText, ""⟩
  | .misuse  => ⟨.misuse, "", usage⟩
  | .scan o  => (o.scan logger disk).outcome

/-- Run the program in a directory, with logging off. -/
def run (d : Directory) (args : List String) : Outcome := (parse args).run .off fun _ => d.read

end CommandLine

end Lexis
