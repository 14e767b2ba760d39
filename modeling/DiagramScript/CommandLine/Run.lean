import DiagramScript.CommandLine.Job
import DiagramScript.CommandLine.QuickReference

/-!
# Runs of the command line

* `Host` — what a run needs of its surroundings: standard input and files.
* `Host.respond` — the run for some arguments: what it prints, and the code it exits with.
* `Surroundings`, `runIn` — the same in a tree of files that is a value.
* `respond_nil` — without arguments a run reads nothing and writes nothing.
-/

namespace DiagramScript

namespace CommandLine

/-! ## What a run needs, and what it prints -/

/-- What a run needs of its surroundings. -/
structure Host (m : Type → Type) where
  /-- What stands on standard input, unless that is a terminal. -/
  standardInput : m (Option String)
  /-- The content of a file. -/
  readFile : FilePath → m (Except FileError String)
  /-- Gives a file a content. -/
  writeFile : FilePath → String → m (Except FileError Unit)

/-- What a run prints, and the code it exits with. -/
structure Response where
  /-- The code. -/
  exitCode : Nat := 0
  /-- What goes to standard output. -/
  stdout : String := ""
  /-- What goes to standard error. -/
  stderr : String := ""
  deriving DecidableEq, Repr

/-- The response of a run that fails. -/
def Response.failed (format : ErrorFormat) (r : Report) : Response :=
  { exitCode := r.exitCode, stderr := r.write format }

/-- The response after some text on standard error. -/
def Response.after (r : Response) (text : String) : Response :=
  { r with stderr := text ++ r.stderr }

/-- How the program is called. -/
def usageLine : String :=
  "usage: picscript [-h] [--error-format FORMAT] [--debug] COMMAND ...\n"

namespace Host

variable {m : Type → Type} [Monad m] (h : Host m)

/-! ## Scripts -/

/-- Reads a script. -/
def readScript : Origin → m (Except Report Script)
  | .argument source => pure (.ok { source := source, name := "<text>" })
  | .file path => do
    let content ← h.readFile path
    pure (Script.ofFile path content)
  | .standardInput => do
    let input ← h.standardInput
    pure (Script.ofStandardInput input)

/-- Delivers a document. -/
def deliver (format : ErrorFormat) (document : String) : Delivery → m Response
  | .standardOutput => pure { stdout := withLineEnd document }
  | .file path => do
    match ← h.writeFile path document with
    | .ok () => pure { stdout := "Wrote " ++ path.text ++ "\n" }
    | .error e => pure (.failed format (writeReport path e))

/-- Makes something of a script and delivers it. -/
def deliverProduct (format : ErrorFormat) (s : Settings) (p : Product) (script : Script) :
    m Response := do
  let (lines, made) := p.make script
  match made with
  | .error r => pure ((Response.failed format r).after lines)
  | .ok document => do
    let response ← h.deliver format document (.of s script p)
    pure (response.after lines)

/-- Checks the settings, reads a script, makes what is asked for of it and delivers it. -/
def work (format : ErrorFormat) (s : Settings) (wanted : Except Report Product) : m Response := do
  let planned : Except Report (Product × Origin) := do
    checkTargets s
    let p ← wanted
    let origin ← Origin.ofSettings s
    .ok (p, origin)
  match planned with
  | .error r => pure (.failed format r)
  | .ok (p, origin) => do
    match ← h.readScript origin with
    | .error r => pure (.failed format r)
    | .ok script => h.deliverProduct format s p script

/-! ## Runs -/

/-- The run of a command. -/
def perform (format : ErrorFormat) (s : Settings) : Command → m Response
  | .compile => h.work format s (Product.drawingAt s.scale)
  | .layout => h.work format s (.ok .layout)
  | .cheatsheet => pure { stdout := quickReference ++ "\n" }

/-- The run for some arguments. -/
def respond (args : List String) : m Response :=
  if args.isEmpty then pure (.failed .text .missingCommand)
  else
    match Invocation.ofArguments args with
    | .error .help => pure { stdout := usageLine }
    | .error (.usage e) => pure (.failed (announcedFormat args) (.usage e))
    | .ok i =>
      match i.command with
      | none => pure (.failed i.errorFormat .missingCommand)
      | some (c, s) => h.perform i.errorFormat s c

/-- Without arguments a run reads nothing and writes nothing. -/
theorem respond_nil : h.respond [] = pure (.failed .text .missingCommand) := rfl

end Host

/-! ## Runs among files that are values -/

/-- Files, and what stands on standard input. -/
structure Surroundings where
  /-- The files. -/
  files : FileTree
  /-- What stands on standard input, unless that is a terminal. -/
  standardInput : Option String

/-- Surroundings as a host. -/
def surroundingsHost : Host (StateM Surroundings) where
  standardInput := do
    let w ← get
    pure w.standardInput
  readFile path := do
    let w ← get
    pure (w.files.read path)
  writeFile path content := do
    let w ← get
    match w.files.write path content with
    | .ok files => do
      set { w with files := files }
      pure (.ok ())
    | .error e => pure (.error e)

/-- The run for some arguments, and the files after it. -/
def runIn (w : Surroundings) (args : List String) : Response × FileTree :=
  let (response, after) := (surroundingsHost.respond args).run w
  (response, after.files)

end CommandLine

end DiagramScript
