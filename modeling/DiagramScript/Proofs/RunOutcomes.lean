import DiagramScript.Proofs.FileNames
import DiagramScript.Proofs.RunStages

/-!
# What a run of the command line comes to

A run either fails, says why, and leaves everything as it was, or delivers one document to one
place.  The code it exits with tells for what kind of reason it fails, and what a script prints is
shown if the script compiles, whatever happens afterwards.

* `Attempts`, `Compiles` — the script that a run compiles, and to what.
* `Stops` — when a run fails for what reason, and `Stops.exitCode_runIn` — the code of it.
* `Delivered` — what becomes of a document.
* `Course`, `runIn_course` — the few ways that a run can take.
* `runIn_accounts` — what a run comes to, for all arguments, input and files.
-/

namespace DiagramScript

namespace CommandLine

/-! ## Scripts that are compiled -/

/-- Whether a run gets as far as compiling a script. -/
structure Attempts (w : Surroundings) (args : List String) (s : Settings) (p : Product)
    (script : Script) : Prop where
  /-- The arguments ask for it. -/
  asked : ∃ format c, Invocation.ofArguments args = .ok ⟨format, some (c, s)⟩ ∧ Plans s c p
  /-- There is the script. -/
  supplied : Supplies w s script

/-- Whether a run compiles a script, and to what. -/
structure Compiles (w : Surroundings) (args : List String) (s : Settings) (p : Product)
    (script : Script) (d : Diagram MachineNumber) : Prop extends Attempts w args s p script where
  /-- It compiles. -/
  compiled : script.diagram = .ok d

section Running

variable {w : Surroundings} {args : List String} {s : Settings} {c : Command} {p : Product}
  {script : Script} {d : Diagram MachineNumber} {format : ErrorFormat}

/-- What a run does that gets as far as compiling a script. -/
theorem Attempts.runIn_eq (h : Attempts w args s p script) : ∃ format, runIn w args =
    (((surroundingsHost.deliverProduct format s p script).run w).1,
      ((surroundingsHost.deliverProduct format s p script).run w).2.files) := by
  obtain ⟨format, c, asked, plans⟩ := h.asked
  have works : c ≠ .cheatsheet := by
    rintro rfl
    cases plans.makes
  refine ⟨format, ?_⟩
  rw [runIn_of_command asked, perform_run works, prepare_eq_ok plans h.supplied]

/-- It gets as far as compiling one script only. -/
theorem Attempts.unique {s' : Settings} {p' : Product} {script' : Script}
    (h : Attempts w args s p script) (h' : Attempts w args s' p' script') :
    s = s' ∧ p = p' ∧ script = script' := by
  obtain ⟨format, c, asked, plans⟩ := h.asked
  obtain ⟨format', c', asked', plans'⟩ := h'.asked
  cases asked.symm.trans asked'
  have same := (prepare_eq_ok plans h.supplied).symm.trans (prepare_eq_ok plans' h'.supplied)
  cases same
  exact ⟨rfl, rfl, rfl⟩

/-- It compiles one script only. -/
theorem Compiles.unique {s' : Settings} {p' : Product} {script' : Script}
    {d' : Diagram MachineNumber} (h : Compiles w args s p script d)
    (h' : Compiles w args s' p' script' d') : d = d' := by
  obtain ⟨rfl, rfl, rfl⟩ := h.toAttempts.unique h'.toAttempts
  cases h.compiled.symm.trans h'.compiled
  rfl

theorem Attempts.not_compiles {f : Failure} (h : Attempts w args s p script)
    (fails : script.diagram = .error f) {s' : Settings} {p' : Product} {script' : Script} :
    ¬ Compiles w args s' p' script' d := by
  intro compiles
  obtain ⟨rfl, rfl, rfl⟩ := h.unique compiles.toAttempts
  cases fails.symm.trans compiles.compiled

theorem Refuses.not_attempts {reason : Reason}
    (asked : Invocation.ofArguments args = .ok ⟨format, some (c, s)⟩)
    (h : Refuses w s c reason) {s' : Settings} : ¬ Attempts w args s' p script := by
  intro attempts
  obtain ⟨format', c', asked', plans⟩ := attempts.asked
  cases asked.symm.trans asked'
  obtain ⟨r, refused, -⟩ := h.exists_prepare
  cases refused.symm.trans (prepare_eq_ok plans attempts.supplied)

/-! ## Runs that fail -/

/-- When a run fails, and for what reason. -/
inductive Stops (w : Surroundings) (args : List String) : Reason → Prop where
  /-- The arguments make no sense. -/
  | usage {e : UsageError} (read : Invocation.ofArguments args = .error (.usage e)) :
    Stops w args .arguments
  /-- They name no command. -/
  | noCommand {format : ErrorFormat} (read : Invocation.ofArguments args = .ok ⟨format, none⟩) :
    Stops w args .arguments
  /-- The command has nothing to work on. -/
  | refused {format : ErrorFormat} {c : Command} {s : Settings} {reason : Reason}
    (read : Invocation.ofArguments args = .ok ⟨format, some (c, s)⟩) (works : c ≠ .cheatsheet)
    (refuses : Refuses w s c reason) : Stops w args reason
  /-- The script has a mistake. -/
  | mistake {s : Settings} {p : Product} {script : Script} {e : Diagnostic}
    (attempts : Attempts w args s p script) (fails : script.diagram = .error (.mistake e)) :
    Stops w args (.mistake e.cause)
  /-- It cannot be run to its end for another reason. -/
  | escape {s : Settings} {p : Product} {script : Script} {f : Failure}
    (attempts : Attempts w args s p script) (fails : script.diagram = .error f)
    (other : ∀ e, f ≠ .mistake e) : Stops w args .other
  /-- There is no document of what it draws. -/
  | undrawable {s : Settings} {p : Product} {script : Script} {d : Diagram MachineNumber}
    {r : Report} (compiles : Compiles w args s p script d) (fails : p.document d = .error r) :
    Stops w args .other
  /-- The document cannot be written. -/
  | unwritten {s : Settings} {p : Product} {script : Script} {d : Diagram MachineNumber}
    {document : String} {path : FilePath} {e : FileError}
    (compiles : Compiles w args s p script d) (made : p.document d = .ok document)
    (goal : Delivery.of s script p = .file path) (write : w.files.write path document = .error e) :
    Stops w args (.ofWrite e)

theorem runIn_of_refuses {reason : Reason}
    (asked : Invocation.ofArguments args = .ok ⟨format, some (c, s)⟩) (hc : c ≠ .cheatsheet)
    (h : Refuses w s c reason) : ∃ r : Report, runIn w args = (.failed format r, w.files) ∧
      r.exitCode = reason.exitCode := by
  obtain ⟨r, refused, code⟩ := h.exists_prepare
  refine ⟨r, ?_, code⟩
  rw [runIn_of_command asked, perform_run hc, refused]

/-- A run that fails for a reason exits with its code. -/
theorem Stops.exitCode_runIn {reason : Reason} (h : Stops w args reason) :
    (runIn w args).1.exitCode = reason.exitCode := by
  cases h with
  | usage read =>
    rw [runIn_of_usage read]
    rfl
  | noCommand read =>
    rw [runIn_of_noCommand read]
    rfl
  | refused read works refuses =>
    obtain ⟨r, run, code⟩ := runIn_of_refuses read works refuses
    rw [run]
    exact code
  | @mistake s p script e attempts fails =>
    obtain ⟨format, run⟩ := attempts.runIn_eq
    rw [run, deliverProduct_of_error fails]
    exact Reason.exitCode_ofDiagnostic script.name e
  | @escape s p script f attempts fails other =>
    obtain ⟨format, run⟩ := attempts.runIn_eq
    rw [run, deliverProduct_of_error fails]
    cases f with
    | mistake e => exact absurd rfl (other e)
    | _ => rfl
  | undrawable compiles fails =>
    obtain ⟨format, run⟩ := compiles.runIn_eq
    rw [run, deliverProduct_of_undrawable compiles.compiled fails]
    exact document_error fails
  | unwritten compiles made goal write =>
    obtain ⟨format, run⟩ := compiles.runIn_eq
    rw [run, deliverProduct_of_document compiles.compiled made, goal]
    dsimp only
    rw [write]
    exact Reason.exitCode_writeReport ..

/-! ## What runs come to -/

/-- What has become of a document that was to go somewhere. -/
inductive Delivered (w : Surroundings) (document : String) :
    Delivery → Response → FileTree → Prop where
  /-- It stands on standard output, and no file has changed. -/
  | printed {r : Response} (shown : r.stdout = document ++ "\n") :
    Delivered w document .standardOutput r w.files
  /-- It is in its file, whose name stands on standard output, and no other file has changed. -/
  | written {path : FilePath} {place : List String} {r : Response} {files : FileTree}
    (shown : r.stdout = "Wrote " ++ path.text ++ "\n") (goal : w.files.locate path = .ok place)
    (found : files.entries.lookup place = some (.file document))
    (others : ∀ q, q ≠ place → files.entries.lookup q = w.files.entries.lookup q)
    (start : files.start = w.files.start) : Delivered w document (.file path) r files

theorem delivered_of_write {document : String} {path : FilePath} {files : FileTree}
    (h : w.files.write path document = .ok files) {r : Response}
    (shown : r.stdout = "Wrote " ++ path.text ++ "\n") :
    Delivered w document (.file path) r files := by
  obtain ⟨place, goal, h⟩ := exists_of_bind_eq_ok h
  split at h
  · cases h
  · cases h
    exact .written shown goal (Entries.lookup_put_self ..)
      (fun q hq => Entries.lookup_put_of_ne document hq w.files.entries) rfl

/-- The ways that a run can take. -/
inductive Course (w : Surroundings) (args : List String) : Response → FileTree → Prop where
  /-- It fails before a script has been compiled. -/
  | refused {reason : Reason} {report : Report} (format : ErrorFormat)
    (stops : Stops w args reason) (code : report.exitCode = reason.exitCode)
    (idle : ∀ s p script d, ¬ Compiles w args s p script d) :
    Course w args (.failed format report) w.files
  /-- It does not work on a script. -/
  | aside (text : String) (idle : ∀ s p script d, ¬ Compiles w args s p script d)
    (other : ∀ format c s, Invocation.ofArguments args = .ok ⟨format, some (c, s)⟩ →
      c = .cheatsheet) : Course w args { stdout := text } w.files
  /-- It fails after a script has been compiled. -/
  | failed {s : Settings} {p : Product} {script : Script} {d : Diagram MachineNumber}
    {reason : Reason} {report : Report} (format : ErrorFormat)
    (compiles : Compiles w args s p script d) (stops : Stops w args reason)
    (code : report.exitCode = reason.exitCode) :
    Course w args ((Response.failed format report).after (printed d)) w.files
  /-- It delivers a document. -/
  | delivered {s : Settings} {p : Product} {script : Script} {d : Diagram MachineNumber}
    {document : String} {target : Delivery} {r : Response} {files : FileTree}
    (compiles : Compiles w args s p script d) (made : p.document d = .ok document)
    (goal : Delivery.of s script p = target) (done : Delivered w document target r files)
    (code : r.exitCode = 0) (said : r.stderr = printed d) : Course w args r files

/-- What can become of a script that has been compiled. -/
theorem Compiles.course (h : Compiles w args s p script d) :
    Course w args (runIn w args).1 (runIn w args).2 := by
  obtain ⟨format, run⟩ := h.runIn_eq
  rw [run]
  cases made : p.document d with
  | error r =>
    rw [deliverProduct_of_undrawable h.compiled made]
    exact .failed format h (.undrawable h made) (document_error made)
  | ok document =>
    rw [deliverProduct_of_document h.compiled made]
    cases goal : Delivery.of s script p with
    | standardOutput => exact .delivered h made goal (.printed rfl) rfl rfl
    | file path =>
      dsimp only
      cases write : w.files.write path document with
      | ok files => exact .delivered h made goal (delivered_of_write write rfl) rfl rfl
      | error e =>
        exact .failed format h (.unwritten h made goal write) (Reason.exitCode_writeReport path e)

theorem Attempts.course (h : Attempts w args s p script) :
    Course w args (runIn w args).1 (runIn w args).2 := by
  cases compiled : script.diagram with
  | ok d => exact Compiles.course ⟨h, compiled⟩
  | error f =>
    obtain ⟨format, run⟩ := h.runIn_eq
    rw [run, deliverProduct_of_error compiled]
    have idle : ∀ s p script d, ¬ Compiles w args s p script d :=
      fun _ _ _ _ => h.not_compiles compiled
    cases f with
    | mistake e =>
      exact .refused format (.mistake h compiled) (Reason.exitCode_ofDiagnostic _ e) idle
    | _ => exact .refused format (.escape h compiled nofun) rfl idle

/-- Every run takes one of these ways. -/
theorem runIn_course (w : Surroundings) (args : List String) :
    Course w args (runIn w args).1 (runIn w args).2 := by
  cases read : Invocation.ofArguments args with
  | error stop =>
    have idle : ∀ s p script d, ¬ Compiles w args s p script d := fun s p script d h => by
      obtain ⟨format, c, asked, -⟩ := h.asked
      cases read.symm.trans asked
    cases stop with
    | help =>
      rw [runIn_of_help read]
      exact .aside usageLine idle fun _ _ _ asked => nomatch read.symm.trans asked
    | usage e =>
      rw [runIn_of_usage read]
      exact .refused _ (.usage read) rfl idle
  | ok i =>
    obtain ⟨format, command⟩ := i
    cases command with
    | none =>
      rw [runIn_of_noCommand read]
      refine .refused _ (.noCommand read) rfl fun s p script d h => ?_
      obtain ⟨format, c, asked, -⟩ := h.asked
      cases read.symm.trans asked
    | some asked =>
      obtain ⟨c, s⟩ := asked
      by_cases hc : c = .cheatsheet
      · subst hc
        rw [runIn_of_command read]
        refine .aside (quickReference ++ "\n") (fun s p script d h => ?_) fun _ _ _ asked => ?_
        · obtain ⟨format, c, asked, plans⟩ := h.asked
          cases read.symm.trans asked
          cases plans.makes
        · cases read.symm.trans asked
          rfl
      · rcases exists_supplies_or_refuses w s hc with ⟨p, script, plans, supplied⟩ | ⟨reason, why⟩
        · exact Attempts.course ⟨⟨format, c, read, plans⟩, supplied⟩
        · obtain ⟨r, run, code⟩ := runIn_of_refuses read hc why
          rw [run]
          exact .refused format (.refused read hc why) code fun _ _ _ _ h =>
            why.not_attempts read h.toAttempts

/-- What a run says about its end: nothing, or why it has failed. -/
inductive Response.Closes (r : Response) : String → Prop where
  /-- It succeeds. -/
  | success (code : r.exitCode = 0) : r.Closes ""
  /-- It fails. -/
  | failure {report : Report} (format : ErrorFormat) (failed : r.exitCode ≠ 0)
    (code : r.exitCode = report.exitCode) : r.Closes (report.write format)

/-- What a run comes to. -/
structure Accounts (w : Surroundings) (args : List String) (r : Response) (files : FileTree) :
    Prop where
  /-- If it fails, nothing stands on standard output, and no file has changed. -/
  clean : r.exitCode ≠ 0 → r.stdout = "" ∧ files = w.files
  /-- The code tells for what kind of reason it fails. -/
  code : ∀ reason, Stops w args reason → r.exitCode = reason.exitCode
  /-- It only fails for a reason. -/
  reason : r.exitCode ≠ 0 → ∃ reason, Stops w args reason
  /-- If it succeeds and works on a script, it delivers the document of that, once. -/
  delivers : r.exitCode = 0 → ∀ format c s, c ≠ .cheatsheet →
    Invocation.ofArguments args = .ok ⟨format, some (c, s)⟩ → ∃ p script d document,
      Compiles w args s p script d ∧ p.document d = .ok document ∧
        Delivered w document (.of s script p) r files
  /-- If the script compiles, what it prints is shown in order, and then how the run ends. -/
  shows : ∀ s p script d, Compiles w args s p script d →
    ∃ said, r.stderr = printed d ++ said ∧ r.Closes said
  /-- Otherwise nothing is shown but how the run ends. -/
  silent : (∀ s p script d, ¬ Compiles w args s p script d) → r.Closes r.stderr

namespace Course

variable {r : Response} {files : FileTree}

theorem clean (h : Course w args r files) (failed : r.exitCode ≠ 0) :
    r.stdout = "" ∧ files = w.files := by
  cases h with
  | refused => exact ⟨rfl, rfl⟩
  | aside => exact absurd rfl failed
  | failed => exact ⟨rfl, rfl⟩
  | delivered _ _ _ _ code => exact absurd code failed

theorem reason (h : Course w args r files) (failed : r.exitCode ≠ 0) :
    ∃ reason, Stops w args reason := by
  cases h with
  | refused _ stops => exact ⟨_, stops⟩
  | aside => exact absurd rfl failed
  | failed _ _ stops => exact ⟨_, stops⟩
  | delivered _ _ _ _ code => exact absurd code failed

theorem delivers (h : Course w args r files) (succeeds : r.exitCode = 0) (hc : c ≠ .cheatsheet)
    (asked : Invocation.ofArguments args = .ok ⟨format, some (c, s)⟩) : ∃ p script d document,
      Compiles w args s p script d ∧ p.document d = .ok document ∧
        Delivered w document (.of s script p) r files := by
  cases h with
  | @refused reason _ _ _ code => exact absurd (code.symm.trans succeeds) reason.exitCode_ne_zero
  | aside _ _ other => exact absurd (other _ _ _ asked) hc
  | @failed _ _ _ _ reason _ _ _ _ code =>
    exact absurd (code.symm.trans succeeds) reason.exitCode_ne_zero
  | delivered compiles made goal done =>
    obtain ⟨format', c', asked', -⟩ := compiles.asked
    cases asked.symm.trans asked'
    exact ⟨_, _, _, _, compiles, made, goal ▸ done⟩

theorem shows (h : Course w args r files) (compiles : Compiles w args s p script d) :
    ∃ said, r.stderr = printed d ++ said ∧ r.Closes said := by
  cases h with
  | refused _ _ _ idle => exact absurd compiles (idle s p script d)
  | aside _ idle => exact absurd compiles (idle s p script d)
  | @failed _ _ _ _ reason report format compiles' _ code =>
    obtain rfl := compiles.unique compiles'
    have failed : report.exitCode ≠ 0 := code ▸ reason.exitCode_ne_zero
    exact ⟨_, rfl, .failure format failed rfl⟩
  | delivered compiles' _ _ _ code said =>
    obtain rfl := compiles.unique compiles'
    exact ⟨"", said.trans String.append_empty.symm, .success code⟩

theorem silent (h : Course w args r files) (idle : ∀ s p script d, ¬ Compiles w args s p script d) :
    r.Closes r.stderr := by
  cases h with
  | @refused reason report format _ code _ =>
    have failed : report.exitCode ≠ 0 := code ▸ reason.exitCode_ne_zero
    exact .failure format failed rfl
  | aside => exact .success rfl
  | failed _ compiles => exact absurd compiles (idle _ _ _ _)
  | delivered compiles => exact absurd compiles (idle _ _ _ _)

end Course

/-- What every run comes to, whatever the arguments, standard input and files are. -/
theorem runIn_accounts (w : Surroundings) (args : List String) :
    Accounts w args (runIn w args).1 (runIn w args).2 :=
  have course := runIn_course w args
  { clean := course.clean
    code := fun _ stops => stops.exitCode_runIn
    reason := course.reason
    delivers := fun succeeds _ _ _ hc asked => course.delivers succeeds hc asked
    shows := fun _ _ _ _ compiles => course.shows compiles
    silent := course.silent }

/-- A file whose name is too long cannot be read, but that is not what the code tells. -/
theorem runIn_long_name :
    let name := String.ofList (List.replicate 256 'a')
    let w : Surroundings := { files := ⟨[], []⟩, standardInput := none }
    w.files.read (.ofText name) = .error .nameTooLong ∧
      (runIn w ["compile", name]).1.exitCode = 1 := by
  intro name w
  have letters : name.toList = List.replicate 256 'a' := String.toList_ofList
  have absent : ∀ c, c ≠ 'a' → c ∉ name.toList := fun c hc hm => by
    rw [letters] at hm
    exact hc (List.eq_of_mem_replicate hm)
  have read : w.files.read (.ofText name) = .error .nameTooLong :=
    FileTree.read_of_long rfl (absent _ (by decide)) (absent _ (by decide)) (by decide +kernel)
      (by decide +kernel)
  have named : nonempty (some name) = some name := by
    have full : name.isEmpty = false := by decide +kernel
    rw [nonempty, Option.filter_some, full]
    rfl
  have stops : Stops w ["compile", name] (.ofRead .nameTooLong) :=
    .refused (Invocation.ofArguments_compile letters (by decide)) nofun
      (.unread ⟨nofun, .drawing rfl⟩ named rfl read)
  exact ⟨read, stops.exitCode_runIn⟩

end Running

end CommandLine

end DiagramScript
