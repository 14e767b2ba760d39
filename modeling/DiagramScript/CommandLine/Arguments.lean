import DiagramScript.Number.Typed
import DiagramScript.Text.Quoted

/-!
# Arguments of the command line

The arguments name a command, its input and its options.  Options may stand anywhere
after what they belong to, may be abbreviated, and may have their value joined to them.
Two hyphens that are joined to an option are no value: the option is given without one.

* `OptionSpec`, `Grammar` — the options that are understood, with their spellings.
* `Word` — what an argument is; `Grammar.word` tells options from operands, and refuses
  abbreviations of several options.
* `readWords` — the settings that some words make, up to the first operand if that is
  the name of a command.
* `Invocation.ofArguments` — the command that all arguments ask for.
* `UsageError.message` — what is said of arguments that make no sense.
-/

namespace DiagramScript

namespace CommandLine

/-! ## Options -/

/-- What an option sets. -/
inductive Key where
  /-- Asks for help. -/
  | help
  /-- How errors are reported. -/
  | errorFormat
  /-- Asks for details of internal errors. -/
  | debug
  /-- A script given as an argument. -/
  | text
  /-- Writes to standard output. -/
  | stdout
  /-- Where the result is written. -/
  | output
  /-- The scale of a drawing. -/
  | scale
  deriving DecidableEq, Repr

/-- An option. -/
structure OptionSpec where
  /-- What it sets. -/
  key : Key
  /-- How it can be written. -/
  spellings : List String
  /-- Whether it has a value. -/
  takesValue : Bool
  deriving Repr

/-- How messages name an option. -/
def OptionSpec.name (o : OptionSpec) : String := "/".intercalate o.spellings

/-- The options that are understood in some place. -/
abbrev Grammar := List OptionSpec

/-- Asks for help. -/
def helpOption : OptionSpec := ⟨.help, ["-h", "--help"], false⟩

/-- The options before the command. -/
def commonOptions : Grammar :=
  [helpOption, ⟨.errorFormat, ["--error-format"], true⟩, ⟨.debug, ["--debug"], false⟩]

/-- The options of all commands that make something of a script. -/
def scriptOptions : Grammar :=
  [helpOption, ⟨.text, ["--text"], true⟩, ⟨.stdout, ["--stdout"], false⟩,
    ⟨.output, ["-o", "--output"], true⟩]

/-- The options of the command that draws. -/
def drawingOptions : Grammar := scriptOptions ++ [⟨.scale, ["--scale"], true⟩]

/-! ## Errors -/

/-- Why arguments make no sense. -/
inductive UsageError where
  /-- An abbreviation of several options. -/
  | ambiguous (word : String) (spellings : List String)
  /-- An option without its value. -/
  | expectedValue (option : String)
  /-- A value of an option that has none. -/
  | ignoredValue (option value : String)
  /-- A value that is none of those possible. -/
  | invalidChoice (option value : String) (choices : List String)
  /-- A value that is no number. -/
  | invalidNumber (option value : String)
  /-- Arguments that nothing is known about. -/
  | unrecognized (words : List String)
  deriving DecidableEq, Repr

/-- The sentence that reports arguments that make no sense. -/
def UsageError.message : UsageError → String
  | ambiguous w ss => "ambiguous option: " ++ w ++ " could match " ++ ", ".intercalate ss
  | expectedValue o => "argument " ++ o ++ ": expected one argument"
  | ignoredValue o v => "argument " ++ o ++ ": ignored explicit argument " ++ quoted v
  | invalidChoice o v cs =>
    "argument " ++ o ++ ": invalid choice: " ++ quoted v ++ " (choose from "
      ++ ", ".intercalate (cs.map quoted) ++ ")"
  | invalidNumber o v => "argument " ++ o ++ ": invalid float value: " ++ quoted v
  | unrecognized ws => "unrecognized arguments: " ++ " ".intercalate ws

/-- Why reading arguments stops before their end. -/
inductive Stop where
  /-- They make no sense. -/
  | usage (e : UsageError)
  /-- They ask for help. -/
  | help
  deriving DecidableEq, Repr

/-! ## Words -/

/-- A value that is part of the same argument as its option. -/
inductive Attached where
  /-- There is none. -/
  | nothing
  /-- It follows a short option, immediately or after an equals sign. -/
  | joined (value : List Char)
  /-- It follows a long option, after an equals sign. -/
  | equated (value : List Char)
  deriving DecidableEq, Repr

/-- The value that is joined to an option; two hyphens are none. -/
def joinedValue (cs : List Char) : Option String :=
  if cs = ['-', '-'] then none else some (String.ofList cs)

/-- What an argument is. -/
inductive Word where
  /-- An operand, or the value of an option. -/
  | operand
  /-- The mark after which everything is an operand. -/
  | separator
  /-- An option that is not understood. -/
  | unknown
  /-- An option. -/
  | option (o : OptionSpec) (attached : Attached)
  deriving Repr

namespace Grammar

/-- All spellings, each with its option. -/
def spelled (g : Grammar) : List (List Char × OptionSpec) :=
  g.flatMap fun o => o.spellings.map fun s => (s.toList, o)

/-- The option with a spelling. -/
def find (g : Grammar) (spelling : List Char) : Option OptionSpec := g.spelled.lookup spelling

/-- Whether a spelling is that of a long option. -/
def isLong (spelling : List Char) : Bool := ['-', '-'].isPrefixOf spelling

/-- What stands before the first equals sign, and the value after it. -/
def splitEquals (cs : List Char) : List Char × Attached :=
  match cs.dropWhile (· ≠ '=') with
  | [] => (cs, .nothing)
  | _ :: value => (cs.takeWhile (· ≠ '='), if isLong cs then .equated value else .joined value)

/-- The options that an argument may abbreviate, with their spellings: a long one by its start,
a short one together with its value. -/
def candidates (g : Grammar) (cs : List Char) : List (List Char × OptionSpec × Attached) :=
  match cs with
  | '-' :: '-' :: _ =>
    let (start, attached) := splitEquals cs
    (g.spelled.filter fun e => start.isPrefixOf e.1).map fun e => (e.1, e.2, attached)
  | _ =>
    g.spelled.filterMap fun e =>
      if e.1 = cs.take 2 then some (e.1, e.2, .joined (cs.drop 2))
      else if cs.isPrefixOf e.1 then some (e.1, e.2, .nothing)
      else none

/-- What an argument that starts with a hyphen and is no spelling of an option is. -/
def hyphenated (g : Grammar) (w : String) : Except UsageError Word :=
  match splitEquals w.toList with
  | (_, .nothing) => abbreviation w
  | (start, attached) =>
    match g.find start with
    | some o => .ok (.option o attached)
    | none => abbreviation w
where
  /-- What an argument is that may be an abbreviation. -/
  abbreviation (w : String) : Except UsageError Word :=
    match g.candidates w.toList with
    | [] => .ok (if isNegativeNumeral w || w.toList.contains ' ' then .operand else .unknown)
    | [(_, o, attached)] => .ok (.option o attached)
    | several => .error (.ambiguous w (several.map fun e => String.ofList e.1))

/-- What an argument is. -/
def word (g : Grammar) (w : String) : Except UsageError Word :=
  match w.toList with
  | '-' :: rest =>
    match g.find w.toList with
    | some o => .ok (.option o .nothing)
    | none => if rest.isEmpty then .ok .operand else g.hyphenated w
  | _ => .ok .operand

/-- What each of some arguments is. -/
def words (g : Grammar) : List String → Except UsageError (List (String × Word))
  | [] => .ok []
  | w :: rest =>
    if w = "--" then .ok ((w, .separator) :: rest.map fun v => (v, .operand))
    else do
      let first ← g.word w
      let others ← words g rest
      .ok ((w, first) :: others)

end Grammar

/-! ## Settings -/

/-- How errors are reported. -/
inductive ErrorFormat where
  /-- As a line of text. -/
  | text
  /-- As a JSON document. -/
  | json
  deriving DecidableEq, Repr

/-- The names of the ways to report errors. -/
def ErrorFormat.names : List (String × ErrorFormat) := [("text", .text), ("json", .json)]

/-- Which scale is asked for. -/
inductive ScaleChoice where
  /-- That of the script. -/
  | ofScript
  /-- The given one. -/
  | given (scale : Float)
  /-- None: the option has no value. -/
  | unspecified
  deriving Repr

/-- What the arguments say. -/
structure Settings where
  /-- How errors are reported. -/
  errorFormat : ErrorFormat := .text
  /-- The name of the input file. -/
  input : Option String := none
  /-- The script itself. -/
  text : Option String := none
  /-- Whether the result goes to standard output. -/
  stdout : Bool := false
  /-- The name of the output file. -/
  output : Option String := none
  /-- The scale of the drawing. -/
  scale : ScaleChoice := .ofScript
  /-- The arguments that nothing is known about. -/
  extra : List String := []

namespace Settings

/-- The effect of an option without a value. -/
def mark (s : Settings) : Key → Except Stop Settings
  | .help => .error .help
  | .stdout => .ok { s with stdout := true }
  | _ => .ok s

/-- The effect of an option that takes a value.  Without one, errors are reported as usual, the
script is empty, and it is not said where the result is written. -/
def assign (s : Settings) (o : OptionSpec) (value : Option String) : Except Stop Settings :=
  match o.key, value with
  | .errorFormat, none => .ok { s with errorFormat := .text }
  | .errorFormat, some v =>
    match ErrorFormat.names.lookup v with
    | some f => .ok { s with errorFormat := f }
    | none => .error (.usage (.invalidChoice o.name v (ErrorFormat.names.map Prod.fst)))
  | .text, v => .ok { s with text := some (v.getD "") }
  | .output, v => .ok { s with output := v }
  | .scale, none => .ok { s with scale := .unspecified }
  | .scale, some v =>
    match Binary64.ofTyped? v with
    | some x => .ok { s with scale := .given x }
    | none => .error (.usage (.invalidNumber o.name v))
  | _, _ => .ok s

/-- With one more argument that nothing is known about. -/
def addExtra (s : Settings) (w : String) : Settings := { s with extra := s.extra ++ [w] }

end Settings

/-! ## Reading words -/

/-- What the first operand is taken for. -/
inductive Slot where
  /-- The name of a command, which everything after it belongs to. -/
  | command
  /-- The name of the input file. -/
  | input
  /-- Nothing any more. -/
  | closed
  deriving DecidableEq, Repr

/-- Whether the first of some words is an operand. -/
def startsWithOperand : List (String × Word) → Bool
  | (_, .operand) :: _ => true
  | _ => false

/-- Refuses what is joined to a short option that takes no value, unless it is made of more short
options; the last of them may take a value. -/
def checkCluster (g : Grammar) (o : OptionSpec) (following : List (String × Word)) :
    List Char → Except UsageError Unit
  | [] => .error (.ignoredValue o.name "")
  | c :: rest =>
    match g.find ['-', c] with
    | none => .error (.ignoredValue o.name (String.ofList (c :: rest)))
    | some next =>
      if next.takesValue then
        if rest.isEmpty && !startsWithOperand following then .error (.expectedValue next.name)
        else .ok ()
      else if rest.isEmpty then .ok ()
      else checkCluster g next following rest

/-- The effect of an option that takes no value and that something may be attached to.  The only
such option that is short asks for help, so nothing else in the argument takes effect. -/
def markAttached (g : Grammar) (s : Settings) (o : OptionSpec) (following : List (String × Word)) :
    Attached → Except Stop Settings
  | .nothing => s.mark o.key
  | .equated value => .error (.usage (.ignoredValue o.name (String.ofList value)))
  | .joined value =>
    match checkCluster g o following value with
    | .error e => .error (.usage e)
    | .ok () => s.mark o.key

/-- A command and the arguments after it. -/
abbrev Named := Option (String × List String)

/-- The settings that some words make.  If the first operand names a command, it comes back with
all that follows it. -/
def readWords (g : Grammar) :
    Slot → Settings → List (String × Word) → Except Stop (Settings × Named)
  | _, s, [] => .ok (s, none)
  | slot, s, (w, .unknown) :: rest => readWords g slot (s.addExtra w) rest
  | slot, s, (_, .option o attached) :: rest =>
    if o.takesValue then
      match attached, rest with
      | .nothing, (v, .operand) :: rest => do
        let s ← s.assign o (some v)
        readWords g slot s rest
      | .nothing, _ => .error (.usage (.expectedValue o.name))
      | .joined v, rest => do
        let s ← s.assign o (joinedValue v)
        readWords g slot s rest
      | .equated v, rest => do
        let s ← s.assign o (joinedValue v)
        readWords g slot s rest
    else do
      let s ← markAttached g s o rest attached
      readWords g slot s rest
  | .command, s, (w, .operand) :: rest => .ok (s, some (w, rest.map Prod.fst))
  | .command, s, [(w, .separator)] => .ok (s.addExtra w, none)
  | .command, s, (w, .separator) :: rest => .ok (s, some (w, rest.map Prod.fst))
  | .input, s, (w, .operand) :: (_, .separator) :: rest =>
    readWords g .closed { s with input := some w } rest
  | .input, s, (w, .operand) :: rest => readWords g .closed { s with input := some w } rest
  | .input, s, (_, .separator) :: (w, .operand) :: rest =>
    readWords g .closed { s with input := some w } rest
  | .input, s, (_, .separator) :: rest => readWords g .closed s rest
  | .closed, s, (w, .operand) :: rest => readWords g .closed (s.addExtra w) rest
  | .closed, s, (w, .separator) :: rest => readWords g .closed (s.addExtra w) rest

/-- The settings that some arguments make. -/
def readArguments (g : Grammar) (slot : Slot) (args : List String) :
    Except Stop (Settings × Named) := do
  let ws ← (g.words args).mapError .usage
  readWords g slot {} ws

/-! ## Commands -/

/-- What can be asked for. -/
inductive Command where
  /-- Draws a script. -/
  | compile
  /-- Describes the layout of a script. -/
  | layout
  /-- Prints a summary of the language. -/
  | cheatsheet
  deriving DecidableEq, Repr

namespace Command

/-- The commands. -/
def all : List Command := [compile, layout, cheatsheet]

/-- The name of a command. -/
def name : Command → String
  | compile => "compile"
  | layout => "layout"
  | cheatsheet => "cheatsheet"

/-- The command with a name. -/
def ofName? (word : String) : Option Command := all.find? (·.name = word)

/-- The options of a command. -/
def options : Command → Grammar
  | compile => drawingOptions
  | layout => scriptOptions
  | cheatsheet => [helpOption]

/-- What the first operand of a command is. -/
def slot : Command → Slot
  | cheatsheet => .closed
  | _ => .input

/-- Every command is found under its name. -/
theorem ofName?_name (c : Command) : ofName? c.name = some c := by
  cases c <;> decide

end Command

/-- What the arguments ask for. -/
structure Invocation where
  /-- How errors are reported. -/
  errorFormat : ErrorFormat
  /-- The command and its settings, if there is one. -/
  command : Option (Command × Settings)

/-- Refuses arguments that nothing is known about. -/
def refuseExtra (extra : List String) : Except Stop Unit :=
  if extra.isEmpty then .ok () else .error (.usage (.unrecognized extra))

/-- What the arguments ask for. -/
def Invocation.ofArguments (args : List String) : Except Stop Invocation := do
  let (s, named) ← readArguments commonOptions .command args
  match named with
  | none => do
    refuseExtra s.extra
    .ok { errorFormat := s.errorFormat, command := none }
  | some (name, rest) =>
    match Command.ofName? name with
    | none => .error (.usage (.invalidChoice "command" name (Command.all.map Command.name)))
    | some c => do
      let (own, _) ← readArguments c.options c.slot rest
      refuseExtra (s.extra ++ own.extra)
      .ok { errorFormat := s.errorFormat, command := some (c, own) }

/-- How errors are reported when the arguments make no sense: as the argument after the first one
that is the option itself says. -/
def announcedFormat : List String → ErrorFormat
  | [] => .text
  | w :: rest =>
    if w = "--error-format" then if rest.head? = some "json" then .json else .text
    else announcedFormat rest

end CommandLine

end DiagramScript
