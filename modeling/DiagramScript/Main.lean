import DiagramScript.CommandLine.Run

/-!
# The program

The command line among the files and streams of the system.

* `fileErrorOf` — the system's errors, by their numbers.
* `systemHost` — files and standard input.
* `main` — prints what the run prints, and exits with its code.
-/

namespace DiagramScript

namespace CommandLine

/-- Why the system cannot read or write a file.  Error numbers come with either sign. -/
def fileErrorOf : IO.Error → FileError
  | .inappropriateType _ code _ => if code = 21 ∨ code = 0 - 21 then .isDirectory else .notDirectory
  | .invalidArgument .. => .nameTooLong
  | _ => .notFound

/-- What comes of an action on a file; a broken path never reaches the system. -/
def attempt {α : Type} (path : FilePath) (action : String → IO α) : IO (Except FileError α) := do
  if path.isBroken then pure (.error .broken)
  else
    try
      let x ← action path.text
      pure (.ok x)
    catch e => pure (.error (fileErrorOf e))

/-- Files and standard input of the system. -/
def systemHost : Host IO where
  standardInput := do
    let stream ← IO.getStdin
    if ← stream.isTty then pure none
    else
      let text ← stream.readToEnd
      pure (some text)
  readFile path := attempt path fun name => IO.FS.readFile name
  writeFile path content := attempt path fun name => IO.FS.writeFile name content

end CommandLine

end DiagramScript

/-- Runs the command line. -/
def main (args : List String) : IO UInt32 := do
  let response ← DiagramScript.CommandLine.systemHost.respond args
  IO.print response.stdout
  IO.eprint response.stderr
  pure response.exitCode.toUInt32
