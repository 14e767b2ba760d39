import DiagramScript.CommandLine.Run
import DiagramScript.Proofs.ReadingSteps

/-!
# The stages of a run of the command line

A command first needs something to make and a script to make it of, then it compiles the script, and
last it delivers a document.  Each stage either goes on or fails for a reason of its own.

* `Reason`, `Reason.exitCode` — the kinds of reasons that a run can fail for, and their codes.
* `Plans`, `Supplies` — what a command makes of which script, and `Refuses` — why there is nothing
  to make.
* `prepare_eq_ok`, `Refuses.exists_prepare`, `exists_supplies_or_refuses` — the stage before a
  script is compiled.
* `perform_run`, `runIn_of_command` — what a run does with a command.
* `deliverProduct_of_error`, `deliverProduct_of_document` — the stage after that.
-/

namespace DiagramScript

/-! ## Documents -/

/-- The text of an element ends with a bracket. -/
theorem Markup.getLast?_printAt (depth : Nat) (m : Markup) :
    (m.printAt depth).getLast? = some '>' := by
  cases m with
  | node tag attributes children =>
    cases children with
    | nil => simp [printAt]
    | cons m ms => rw [printAt, printClosing, ← List.append_assoc, List.getLast?_concat]
  | text tag attributes content =>
    unfold printAt
    split
    · simp
    · rw [printClosing, ← List.append_assoc, List.getLast?_concat]

/-- So does a drawing. -/
theorem Svg.render_ends {K : Type} [Arith K] (d : Diagram K) (scale margin : Option K) :
    Ensures (fun text : String => text.toList.getLast? = some '>') (Svg.render d scale margin) := by
  refine .andThen fun m => .ok ?_
  rw [Markup.print, String.toList_ofList, Markup.getLast?_printAt]

/-- The text of an object of JSON ends with a brace. -/
theorem Json.getLast?_print_object (s : Spacing) (depth : Nat)
    (fields : List (String × Json MachineNumber)) :
    (print s depth (.object fields)).getLast? = some '\x7d' := by
  cases fields with
  | nil => rw [print]; rfl
  | cons field fields =>
    obtain ⟨name, x⟩ := field
    rw [print, ← List.cons_append, List.getLast?_append]
    rfl

namespace CommandLine

/-- No document ends in an end of line. -/
theorem withLineEnd_document {p : Product} {d : Diagram MachineNumber} {document : String}
    (h : p.document d = .ok document) : withLineEnd document = document ++ "\n" := by
  have last : document.toList.getLast? ≠ some '\n' := by
    cases p with
    | drawing scale =>
      rw [Ensures.mapError (Svg.render_ends d (scale.map .plain) none) _ document h]
      decide
    | layout =>
      have same : (Layout.ofDiagram d).pretty = document := Except.ok.inj h
      rw [← same, Layout.ofDiagram, Json.pretty, String.toList_ofList, Json.getLast?_print_object]
      decide
  rw [withLineEnd, if_neg last]

/-! ## Reasons -/

/-- The kinds of reasons that a run can fail for. -/
inductive Reason where
  /-- The arguments make no sense, or do not go together. -/
  | arguments
  /-- There is no input. -/
  | noInput
  /-- Standard input, from which the script was to be read, is blank. -/
  | blankInput
  /-- The input file is missing, or cannot be read. -/
  | unreadable
  /-- The script has a mistake. -/
  | mistake (c : Cause)
  /-- The document cannot be written. -/
  | unwritable
  /-- Anything else. -/
  | other
  deriving DecidableEq, Repr

namespace Reason

/-- The code that a run exits with. -/
def exitCode : Reason → Nat
  | arguments | noInput | blankInput | unreadable => 2
  | mistake (.lex _) | mistake (.parse _) => 2
  | mistake (.reference _) | mistake (.eval _) => 3
  | unwritable => 4
  | other => 1

/-- What it means that the input file cannot be read.  A name that is too long is found out where
nobody looks for it. -/
def ofRead : FileError → Reason
  | .nameTooLong => other
  | _ => unreadable

/-- What it means that the output file cannot be written.  The same is true of a name that ends
before its end. -/
def ofWrite : FileError → Reason
  | .broken => other
  | _ => unwritable

theorem exitCode_ne_zero (r : Reason) : r.exitCode ≠ 0 := by
  cases r with
  | mistake c => cases c <;> exact Nat.succ_ne_zero _
  | _ => exact Nat.succ_ne_zero _

theorem exitCode_readReport (p : FilePath) (e : FileError) :
    (readReport p e).exitCode = (ofRead e).exitCode := by
  cases e <;> rfl

theorem exitCode_writeReport (p : FilePath) (e : FileError) :
    (writeReport p e).exitCode = (ofWrite e).exitCode := by
  cases e <;> rfl

theorem exitCode_ofDiagnostic (name : String) (d : Diagnostic) :
    (Report.ofDiagnostic name d).exitCode = (mistake d.cause).exitCode := by
  unfold Report.ofDiagnostic
  cases d.cause <;> rfl

end Reason

/-! ## Before a script is compiled -/

/-- What a command makes, at which scale. -/
inductive Makes (s : Settings) : Command → Product → Prop where
  /-- A drawing at the scale of the script. -/
  | drawing (h : s.scale = .ofScript) : Makes s .compile (.drawing none)
  /-- A drawing at a scale of its own. -/
  | scaled {x : Float} (h : s.scale = .given x) (positive : ¬ x ≤ Arith.num 0) :
    Makes s .compile (.drawing (some x))
  /-- A description. -/
  | layout : Makes s .layout .layout

/-- What a command makes, if its options go together. -/
structure Plans (s : Settings) (c : Command) (p : Product) : Prop where
  /-- It has one place for it. -/
  target : s.stdout = true → nonempty s.output = none
  /-- It is to make this. -/
  makes : Makes s c p

/-- The script that a command works on. -/
inductive Supplies (w : Surroundings) (s : Settings) : Script → Prop where
  /-- It is an argument. -/
  | argument {source : String} (given : s.text = some source) (alone : nonempty s.input = none) :
    Supplies w s { source := source, name := "<text>" }
  /-- It is in a file, where ends of lines are written in any way. -/
  | file {name content : String} (named : nonempty s.input = some name) (alone : s.text = none)
    (read : w.files.read (.ofText name) = .ok content) :
    Supplies w s { source := String.ofList (plainLines content.toList)
                   name := (FilePath.ofText name).text, path := some (.ofText name) }
  /-- It stands on standard input. -/
  | standardInput {source : String} (nameless : nonempty s.input = none) (alone : s.text = none)
    (read : w.standardInput = some source) (written : isBlankText source.toList = false) :
    Supplies w s { source := source, name := "<stdin>" }

/-- Why a command has nothing to work on. -/
inductive Refuses (w : Surroundings) (s : Settings) (c : Command) : Reason → Prop where
  /-- There are two places for what it makes. -/
  | twoTargets {name : String} (printed : s.stdout = true)
    (written : nonempty s.output = some name) : Refuses w s c .arguments
  /-- The scale is not positive. -/
  | scale {x : Float} (target : s.stdout = true → nonempty s.output = none) (draws : c = .compile)
    (given : s.scale = .given x) (low : x ≤ Arith.num 0) : Refuses w s c .arguments
  /-- The option for the scale has no value. -/
  | noScale (target : s.stdout = true → nonempty s.output = none) (draws : c = .compile)
    (unspecified : s.scale = .unspecified) : Refuses w s c .other
  /-- There are two scripts. -/
  | twoScripts {p : Product} {name source : String} (plans : Plans s c p)
    (named : nonempty s.input = some name) (given : s.text = some source) : Refuses w s c .arguments
  /-- The script cannot be read from its file. -/
  | unread {p : Product} {name : String} {e : FileError} (plans : Plans s c p)
    (named : nonempty s.input = some name) (alone : s.text = none)
    (read : w.files.read (.ofText name) = .error e) : Refuses w s c (.ofRead e)
  /-- There is no script. -/
  | noInput {p : Product} (plans : Plans s c p) (nameless : nonempty s.input = none)
    (alone : s.text = none) (read : w.standardInput = none) : Refuses w s c .noInput
  /-- There is nothing on standard input. -/
  | blankInput {p : Product} {source : String} (plans : Plans s c p)
    (nameless : nonempty s.input = none) (alone : s.text = none)
    (read : w.standardInput = some source) (blank : isBlankText source.toList = true) :
    Refuses w s c .blankInput

section Preparing

variable {w : Surroundings} {s : Settings} {c : Command} {p : Product} {script : Script}

/-- What a command is to make. -/
def Command.wanted (s : Settings) : Command → Except Report Product
  | .compile => Product.drawingAt s.scale
  | _ => .ok .layout

/-- The script that comes from somewhere. -/
def scriptFrom (w : Surroundings) : Origin → Except Report Script
  | .argument source => .ok { source := source, name := "<text>" }
  | .file path => Script.ofFile path (w.files.read path)
  | .standardInput => Script.ofStandardInput w.standardInput

/-- What is to be made of which script. -/
def prepare (w : Surroundings) (s : Settings) (c : Command) : Except Report (Product × Script) := do
  checkTargets s
  let p ← c.wanted s
  let origin ← Origin.ofSettings s
  let script ← scriptFrom w origin
  .ok (p, script)

theorem Makes.wanted_eq (h : Makes s c p) : c.wanted s = .ok p := by
  cases h with
  | drawing h => rw [Command.wanted, h, Product.drawingAt]
  | scaled h positive => rw [Command.wanted, h, Product.drawingAt, if_neg positive]
  | layout => rfl

theorem checkTargets_of_one (h : s.stdout = true → nonempty s.output = none) :
    checkTargets s = .ok () := by
  unfold checkTargets
  cases hs : s.stdout with
  | false => rfl
  | true => rw [h hs]; rfl

/-- Once it is known what to make, it is about the script only. -/
theorem Plans.prepare_eq (h : Plans s c p) : prepare w s c = (do
    let origin ← Origin.ofSettings s
    let script ← scriptFrom w origin
    .ok (p, script)) := by
  rw [prepare, checkTargets_of_one h.target, h.makes.wanted_eq]
  rfl

theorem prepare_eq_ok (h : Plans s c p) (hs : Supplies w s script) :
    prepare w s c = .ok (p, script) := by
  rw [h.prepare_eq, Origin.ofSettings]
  cases hs with
  | argument given alone =>
    rw [alone, given]
    rfl
  | file named alone read =>
    rw [named, alone]
    simp only [ok_bind, scriptFrom, read, Script.ofFile]
  | standardInput nameless alone read written =>
    rw [nameless, alone]
    simp only [ok_bind, scriptFrom, read, Script.ofStandardInput, written]
    rfl

theorem Refuses.exists_prepare {reason : Reason} (h : Refuses w s c reason) :
    ∃ r, prepare w s c = .error r ∧ r.exitCode = reason.exitCode := by
  cases h with
  | twoTargets printed written =>
    rw [prepare, checkTargets, printed, written]
    exact ⟨_, rfl, rfl⟩
  | scale target draws given low =>
    subst draws
    rw [prepare, checkTargets_of_one target, Command.wanted, given, Product.drawingAt, if_pos low]
    exact ⟨_, rfl, rfl⟩
  | noScale target draws unspecified =>
    subst draws
    rw [prepare, checkTargets_of_one target, Command.wanted, unspecified]
    exact ⟨_, rfl, rfl⟩
  | twoScripts plans named given =>
    rw [plans.prepare_eq, Origin.ofSettings, named, given]
    exact ⟨_, rfl, rfl⟩
  | unread plans named alone read =>
    rw [plans.prepare_eq, Origin.ofSettings, named, alone]
    simp only [ok_bind, scriptFrom, read, Script.ofFile]
    exact ⟨_, rfl, Reason.exitCode_readReport ..⟩
  | noInput plans nameless alone read =>
    rw [plans.prepare_eq, Origin.ofSettings, nameless, alone]
    simp only [ok_bind, scriptFrom, read, Script.ofStandardInput]
    exact ⟨_, rfl, rfl⟩
  | blankInput plans nameless alone read blank =>
    rw [plans.prepare_eq, Origin.ofSettings, nameless, alone]
    simp only [ok_bind, scriptFrom, read, Script.ofStandardInput, blank]
    exact ⟨_, rfl, rfl⟩

/-- A command has something to work on, or a reason why not. -/
theorem exists_supplies_or_refuses (w : Surroundings) (s : Settings) (hc : c ≠ .cheatsheet) :
    (∃ p script, Plans s c p ∧ Supplies w s script) ∨ ∃ reason, Refuses w s c reason := by
  -- the cases are split in the order in which `prepare` looks at them
  by_cases target : s.stdout = true → nonempty s.output = none
  · have plan : (∃ p, Makes s c p) ∨ ∃ reason, Refuses w s c reason := by
      cases c with
      | compile =>
        cases hs : s.scale with
        | ofScript => exact .inl ⟨_, .drawing hs⟩
        | given x =>
          by_cases low : x ≤ Arith.num 0
          · exact .inr ⟨_, .scale target rfl hs low⟩
          · exact .inl ⟨_, .scaled hs low⟩
        | unspecified => exact .inr ⟨_, .noScale target rfl hs⟩
      | layout => exact .inl ⟨_, .layout⟩
      | cheatsheet => exact absurd rfl hc
    refine plan.elim (fun ⟨p, makes⟩ => ?_) .inr
    have plans : Plans s c p := ⟨target, makes⟩
    cases hn : nonempty s.input with
    | some name =>
      cases ht : s.text with
      | some source => exact .inr ⟨_, .twoScripts plans hn ht⟩
      | none =>
        cases hr : w.files.read (.ofText name) with
        | ok content => exact .inl ⟨p, _, plans, .file hn ht hr⟩
        | error e => exact .inr ⟨_, .unread plans hn ht hr⟩
    | none =>
      cases ht : s.text with
      | some source => exact .inl ⟨p, _, plans, .argument ht hn⟩
      | none =>
        cases hr : w.standardInput with
        | none => exact .inr ⟨_, .noInput plans hn ht hr⟩
        | some source =>
          cases hb : isBlankText source.toList with
          | true => exact .inr ⟨_, .blankInput plans hn ht hr hb⟩
          | false => exact .inl ⟨p, _, plans, .standardInput hn ht hr hb⟩
  · obtain ⟨printed, written⟩ := Classical.not_imp.1 target
    obtain ⟨name, named⟩ := Option.ne_none_iff_exists'.1 written
    exact .inr ⟨_, .twoTargets printed named⟩

end Preparing

/-! ## What a command does -/

/-- What a script compiles to. -/
def Script.diagram (script : Script) : Except Failure (Diagram MachineNumber) :=
  Diagram.compile Resources.standard script.source

/-- What a script prints, line by line. -/
def printed (d : Diagram MachineNumber) : String := "".intercalate (d.messages.map (· ++ "\n"))

section Running

variable {w : Surroundings} {args : List String} {s : Settings} {c : Command} {p : Product}
  {script : Script} {d : Diagram MachineNumber} {format : ErrorFormat}

theorem readScript_run (origin : Origin) :
    (surroundingsHost.readScript origin).run w = (scriptFrom w origin, w) := by
  cases origin <;> rfl

theorem writeFile_run (path : FilePath) (content : String) :
    (surroundingsHost.writeFile path content).run w =
      match w.files.write path content with
      | .ok files => (.ok (), { w with files := files })
      | .error e => (.error e, w) := by
  simp only [surroundingsHost, StateT.run_bind, StateT.run_get, pure_bind]
  cases w.files.write path content <;> rfl

/-- A command either has nothing to work on or goes on with its script. -/
theorem perform_run (hc : c ≠ .cheatsheet) : (surroundingsHost.perform format s c).run w =
    match prepare w s c with
    | .error r => (.failed format r, w)
    | .ok (p, script) => (surroundingsHost.deliverProduct format s p script).run w := by
  have work :
      surroundingsHost.perform format s c = surroundingsHost.work format s (c.wanted s) := by
    cases c with
    | cheatsheet => exact absurd rfl hc
    | _ => rfl
  rw [work, Host.work, prepare]
  cases checkTargets s with
  | error r => rfl
  | ok u =>
    cases c.wanted s with
    | error r => rfl
    | ok p =>
      cases Origin.ofSettings s with
      | error r => rfl
      | ok origin =>
        simp only [ok_bind]
        rw [StateT.run_bind, readScript_run]
        cases scriptFrom w origin <;> rfl

/-- Without arguments a run does what it does without a command. -/
theorem respond_eq (args : List String) : surroundingsHost.respond args =
    match Invocation.ofArguments args with
    | .error .help => pure { stdout := usageLine }
    | .error (.usage e) => pure (.failed (announcedFormat args) (.usage e))
    | .ok i =>
      match i.command with
      | none => pure (.failed i.errorFormat .missingCommand)
      | some (c, s) => surroundingsHost.perform i.errorFormat s c := by
  cases args <;> rfl

theorem runIn_of_help (h : Invocation.ofArguments args = .error .help) :
    runIn w args = ({ stdout := usageLine }, w.files) := by
  rw [runIn, respond_eq, h]
  rfl

theorem runIn_of_usage {e : UsageError} (h : Invocation.ofArguments args = .error (.usage e)) :
    runIn w args = (.failed (announcedFormat args) (.usage e), w.files) := by
  rw [runIn, respond_eq, h]
  rfl

theorem runIn_of_noCommand (h : Invocation.ofArguments args = .ok ⟨format, none⟩) :
    runIn w args = (.failed format .missingCommand, w.files) := by
  rw [runIn, respond_eq, h]
  rfl

theorem runIn_of_command (h : Invocation.ofArguments args = .ok ⟨format, some (c, s)⟩) :
    runIn w args = (((surroundingsHost.perform format s c).run w).1,
      ((surroundingsHost.perform format s c).run w).2.files) := by
  rw [runIn, respond_eq, h]
  rfl

/-! ## After a script has been compiled -/

theorem deliverProduct_of_error {f : Failure} (h : script.diagram = .error f) :
    (surroundingsHost.deliverProduct format s p script).run w =
      (.failed format (.ofFailure script.name f), w) := by
  have made : p.make script = ("", .error (.ofFailure script.name f)) := by
    rw [Product.make, show Diagram.compile _ _ = _ from h]
  rw [Host.deliverProduct, made]
  simp only [Response.after, Response.failed, String.empty_append]
  rfl

theorem make_of_diagram (h : script.diagram = .ok d) :
    p.make script = (printed d, p.document d) := by
  rw [Product.make, show Diagram.compile _ _ = _ from h, printed]

theorem deliverProduct_of_undrawable {r : Report} (h : script.diagram = .ok d)
    (hd : p.document d = .error r) : (surroundingsHost.deliverProduct format s p script).run w =
      ((Response.failed format r).after (printed d), w) := by
  rw [Host.deliverProduct, make_of_diagram h, hd]
  rfl

/-- A document that cannot be made is no mistake of the script. -/
theorem document_error {r : Report} (h : p.document d = .error r) : r.exitCode = 1 := by
  cases p with
  | layout => cases h
  | drawing scale =>
    unfold Product.document at h
    dsimp only at h
    cases hr : Svg.render d (scale.map .plain) none with
    | ok text =>
      rw [hr] at h
      cases h
    | error f =>
      rw [hr] at h
      cases h
      rfl

/-- A document goes to standard output, or into a file. -/
theorem deliverProduct_of_document {document : String} (h : script.diagram = .ok d)
    (hd : p.document d = .ok document) :
    (surroundingsHost.deliverProduct format s p script).run w =
      match Delivery.of s script p with
      | .standardOutput => ({ stdout := document ++ "\n", stderr := printed d }, w)
      | .file path =>
        match w.files.write path document with
        | .ok files =>
          ({ stdout := "Wrote " ++ path.text ++ "\n", stderr := printed d },
            { w with files := files })
        | .error e => ((Response.failed format (writeReport path e)).after (printed d), w) := by
  rw [Host.deliverProduct, make_of_diagram h, hd]
  cases Delivery.of s script p with
  | standardOutput =>
    show (Response.after { stdout := withLineEnd document } (printed d), w) = _
    rw [Response.after, withLineEnd_document hd, String.append_empty]
  | file path =>
    simp only [Host.deliver, StateT.run_bind, writeFile_run]
    cases w.files.write path document with
    | ok files =>
      show (Response.after { stdout := "Wrote " ++ path.text ++ "\n" } (printed d), _) = _
      rw [Response.after, String.append_empty]
      rfl
    | error e => rfl

end Running

end CommandLine

end DiagramScript
