import DiagramScript.CommandLine.FileTree
import DiagramScript.CommandLine.Report
import DiagramScript.Layout
import DiagramScript.Svg.Document

/-!
# Jobs

What a command does, as far as it needs neither files nor streams.

* `Origin`, `Script` — where a script comes from, and what was read there.
* `Product` — what is made of a script: a drawing or a description of its layout.
* `Product.make` — the messages of the script, and the finished document.
* `Delivery` — where the document goes.
-/

namespace DiagramScript

namespace CommandLine

/-! ## Scripts -/

/-- Where a script comes from. -/
inductive Origin where
  /-- From the arguments. -/
  | argument (source : String)
  /-- From a file. -/
  | file (path : FilePath)
  /-- From standard input. -/
  | standardInput

/-- A script that was read. -/
structure Script where
  /-- Its text. -/
  source : String
  /-- How messages name it. -/
  name : String
  /-- The file it was read from. -/
  path : Option FilePath := none

/-- The word, unless it is empty. -/
def nonempty (s : Option String) : Option String := s.filter (!·.isEmpty)

/-- Where the script comes from; it can come from one place only. -/
def Origin.ofSettings (s : Settings) : Except Report Origin :=
  match nonempty s.input, s.text with
  | some _, some _ =>
    .error (.arguments "--text cannot be combined with file input" "Use either FILE or --text.")
  | _, some source => .ok (.argument source)
  | some name, none => .ok (.file (.ofText name))
  | none, none => .ok .standardInput

/-- The script on standard input, which must neither be a terminal nor blank. -/
def Script.ofStandardInput (input : Option String) : Except Report Script :=
  match input with
  | none =>
    .error (.arguments "no input provided" "Use a subcommand with FILE, --text, or pipe stdin.")
  | some source =>
    if isBlankText source.toList then
      .error (.arguments "stdin was empty" "Pipe picscript source into stdin.")
    else .ok { source := source, name := "<stdin>" }

/-- The report of a script that cannot be read. -/
def readReport (p : FilePath) (e : FileError) : Report :=
  let about (message : String) (hint : Option String) : Report :=
    { code := "E_IO_READ", message := message ++ p.text, hint := hint, exitCode := 2,
      file := some p.text }
  match e with
  | .notFound | .notDirectory | .broken => about "input file not found: " none
  | .isDirectory => about "failed to read input file: " (some (e.message p))
  | .nameTooLong => .internal (e.message p)

/-- A text with all ends of lines written alike. -/
def plainLines : List Char → List Char
  | '\r' :: '\n' :: cs => '\n' :: plainLines cs
  | '\r' :: cs => '\n' :: plainLines cs
  | c :: cs => c :: plainLines cs
  | [] => []

/-- A text with all ends of lines written alike holds no carriage return. -/
theorem not_mem_plainLines (cs : List Char) : '\r' ∉ plainLines cs := by
  fun_induction plainLines cs with
  | case1 cs ih => simp [ih]
  | case2 cs _ ih => simp [ih]
  | case3 c cs _ h ih => simpa [ih] using fun e => h e.symm
  | case4 => simp

/-- The script in a file. -/
def Script.ofFile (p : FilePath) (content : Except FileError String) : Except Report Script :=
  match content with
  | .ok text =>
    .ok { source := String.ofList (plainLines text.toList), name := p.text, path := some p }
  | .error e => .error (readReport p e)

/-! ## Products -/

/-- What is made of a script. -/
inductive Product where
  /-- A drawing, at a scale that is given or else is that of the script. -/
  | drawing (scale : Option Float)
  /-- A description of its layout. -/
  | layout

namespace Product

/-- The suffix of files with such a product. -/
def suffix : Product → String
  | drawing _ => ".svg"
  | layout => ".json"

/-- A drawing at the scale that is asked for, which must not be zero or negative. -/
def drawingAt : ScaleChoice → Except Report Product
  | .ofScript => .ok (drawing none)
  | .given x =>
    if x ≤ Arith.num 0 then
      .error (.arguments "--scale must be > 0" "Use a positive scale factor like 1 or 2.")
    else .ok (drawing (some x))
  | .unspecified => .error (.internal "'<=' not supported between instances of 'list' and 'int'")

/-- The document of a diagram. -/
def document (p : Product) (d : Diagram MachineNumber) : Except Report String :=
  match p with
  | drawing scale => (Svg.render d (scale.map .plain) none).mapError fun f => .internal f.message
  | layout => .ok (Layout.ofDiagram d).pretty

/-- The lines that a script prints, and its document.  The lines are printed even if there is no
document in the end. -/
def make (p : Product) (s : Script) : String × Except Report String :=
  match Diagram.compile Resources.standard s.source with
  | .error e => ("", .error (.ofFailure s.name e))
  | .ok d => ("".intercalate (d.messages.map (· ++ "\n")), p.document d)

end Product

/-! ## Deliveries -/

/-- Where a document goes. -/
inductive Delivery where
  /-- To standard output. -/
  | standardOutput
  /-- Into a file. -/
  | file (path : FilePath)

/-- Refuses two places for a document. -/
def checkTargets (s : Settings) : Except Report Unit :=
  if s.stdout && (nonempty s.output).isSome then
    .error (.arguments "--stdout and --output are mutually exclusive"
      "Choose either --stdout or --output.")
  else .ok ()

/-- Where a document goes: where the settings say, or else beside the file of the script, or
else to standard output. -/
def Delivery.of (s : Settings) (script : Script) (p : Product) : Delivery :=
  if s.stdout then .standardOutput
  else
    match nonempty s.output, script.path with
    | some name, _ => .file (.ofText name)
    | none, some path => .file (path.withSuffix p.suffix)
    | none, none => .standardOutput

/-- A text that ends in an end of line. -/
def withLineEnd (s : String) : String := if s.toList.getLast? = some '\n' then s else s ++ "\n"

/-- The report of a document that cannot be written. -/
def writeReport (p : FilePath) (e : FileError) : Report :=
  match e with
  | .broken => .internal (e.message p)
  | _ =>
    { code := "E_IO_WRITE", message := "failed to write output file: " ++ p.text,
      hint := some (e.message p), exitCode := 4, file := some p.text }

end CommandLine

end DiagramScript
