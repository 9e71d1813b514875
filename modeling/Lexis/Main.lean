import Lexis.CommandLine

/-!
# The program

Reads the file that the arguments name, and prints what the command line makes of it. Errors are
logged, with the milliseconds on the clock when the program started.
-/

namespace Lexis.CommandLine

/-- The reason behind a failed access to the disk. -/
def unreadable : IO.Error → Unreadable
  | .noFileOrDirectory ..     => .missing
  | .inappropriateType _ 21 _ => .isFolder
  | .inappropriateType ..     => .notFolder
  | .invalidArgument ..       => .nameTooLong
  | .permissionDenied ..      => .other "Permission denied (os error 13)"
  | e                         => .other (toString e)

def readText (path : String) : IO (Except Unreadable String) := do
  try
    let contents ← IO.FS.readBinFile path
    return (Directory.Place.file contents).text
  catch e => return .error (unreadable e)

/-- Read the file that a request is about, if it is about one. -/
def Request.contents : Request → IO (Except Unreadable String)
  | .scan options => readText options.file
  | _             => return .error .missing

end Lexis.CommandLine

/-- Print the outcome of the arguments. -/
def main (args : List String) : IO UInt32 := do
  let time ← IO.monoMsNow
  let request := Lexis.CommandLine.parse args
  let contents ← request.contents
  let outcome := request.run (.errors (fun _ => time.repr) "") fun _ _ => contents
  (← IO.getStdout).putStr outcome.out
  (← IO.getStderr).putStr outcome.err
  return outcome.status.code.toUInt32
