import DiagramScript.CommandLine.Arguments
import DiagramScript.Diagnostic
import DiagramScript.Json.Printer

/-!
# Reports of errors

* `Report` — what is said of a run that fails, and the code it exits with.
* `Report.ofDiagnostic`, `Report.ofFailure` — reports of mistakes in a script, and of what
  else can stop a run.
* `Report.text`, `Report.json` — the two ways to write them.
* `exitCode_ofDiagnostic` — mistakes found before a script is run exit with 2, and those
  found while it runs with 3.
-/

namespace DiagramScript

namespace CommandLine

/-- What is said of a run that fails. -/
structure Report where
  /-- A code for the kind of error. -/
  code : String
  /-- What is wrong. -/
  message : String
  /-- What can be done about it. -/
  hint : Option String := none
  /-- The code the run exits with. -/
  exitCode : Nat
  /-- The file it is about. -/
  file : Option String := none
  /-- The place in the script. -/
  place : Option SourcePos := none
  /-- Whether another try with other input makes sense. -/
  retryable : Bool := true
  deriving Repr

namespace Report

/-! ## Reports of mistakes in scripts -/

/-- What can be done about a mistake. -/
def hintFor : Cause → String
  | .lex _ => "Check string quotes, numbers and stray characters near the reported position."
  | .parse _ => "Check statement syntax and which attributes the object class accepts."
  | .reference _ => "Labels must be declared before use and be unique within a block."
  | .eval _ => "Check variable names, function arguments and divisions."

/-- The code that a run with a mistake exits with. -/
def exitCodeFor : Cause → Nat
  | .lex _ | .parse _ => 2
  | .reference _ | .eval _ => 3

/-- The report of a mistake in a script. -/
def ofDiagnostic (name : String) (d : Diagnostic) : Report where
  code := d.cause.code
  message := d.message
  hint := some (hintFor d.cause)
  exitCode := exitCodeFor d.cause
  file := some name
  place := d.place

/-- A report of something that is no mistake of the script. -/
def internal (message : String) : Report where
  code := "E_INTERNAL"
  message := message
  hint := some "Re-run with --debug to see traceback."
  exitCode := 1
  retryable := false

/-- The report of whatever stops a run of a script. -/
def ofFailure (name : String) : Failure → Report
  | .mistake d => ofDiagnostic name d
  | .fault f => internal f.message
  | .missing key => internal (quoted key)
  | .outOfRange => internal "list index out of range"
  | .noPath => internal "AssertionError"

/-- Mistakes found before a script is run exit with 2, and those found while it runs with 3. -/
theorem exitCode_ofDiagnostic (name : String) (d : Diagnostic) :
    (ofDiagnostic name d).exitCode = 2 ∨ (ofDiagnostic name d).exitCode = 3 := by
  cases h : d.cause <;> simp [ofDiagnostic, exitCodeFor, h]

/-! ## Other reports -/

/-- The names of all commands. -/
def commandNames : String := ", ".intercalate (Command.all.map Command.name)

/-- The report of arguments that cannot go together. -/
def arguments (message hint : String) : Report where
  code := "E_ARGS"
  message := message
  hint := some hint
  exitCode := 2

/-- The report of arguments that make no sense. -/
def usage (e : UsageError) : Report :=
  arguments e.message ("Use subcommands: " ++ commandNames ++ ".")

/-- The report of arguments that name no command. -/
def missingCommand : Report :=
  arguments "missing subcommand" ("Use one of: " ++ commandNames ++ ".")

/-! ## Writing reports -/

/-- Where the error is, for a reader. -/
def location (r : Report) : String :=
  match r.place with
  | none => ""
  | some p =>
    r.file.getD "<input>" ++ ":" ++ toString p.line ++ ":" ++ toString p.column ++ ": "

/-- The report for a reader. -/
def text (r : Report) : String :=
  "error[" ++ r.code ++ "]: " ++ r.location ++ r.message ++ "\n"
    ++ (match r.hint with
      | none => ""
      | some h => if h.isEmpty then "" else "hint: " ++ h ++ "\n")

/-- The report as a document. -/
def toJson (r : Report) : Json MachineNumber :=
  .object [
    ("ok", .bool false),
    ("code", .str r.code),
    ("message", .str r.message),
    ("file", .optional .str r.file),
    ("line", .optional (fun p => .nat p.line) r.place),
    ("column", .optional (fun p => .nat p.column) r.place),
    ("hint", .optional .str r.hint),
    ("retryable", .bool r.retryable)]

/-- The report for a program. -/
def json (r : Report) : String := r.toJson.compact ++ "\n"

/-- The report in the format asked for. -/
def write (format : ErrorFormat) (r : Report) : String :=
  match format with
  | .text => r.text
  | .json => r.json

end Report

end CommandLine

end DiagramScript
