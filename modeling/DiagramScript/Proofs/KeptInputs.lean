import DiagramScript.Proofs.BracketedDrawing
import DiagramScript.Proofs.RunOutcomes
import DiagramScript.Proofs.ScanSteps

/-!
# What becomes of the input file

Without a file for its document a run derives one from the file of its script, by another suffix.
The input file stays as it is unless it has that suffix already: then it is the file that the
document goes to.

* `FileTree.read_write_self`, `FileTree.read_write_of_ne` — writing gives one file its content and
  leaves the others alone.
* `FilePath.suffix`, `FileTree.suffix_eq_of_locate` — a path with another suffix leads elsewhere.
* `runIn_input` — what is in the input file after a run.
-/

namespace DiagramScript

namespace CommandLine

/-! ## Writing -/

theorem Entries.keys_put {q : List String} {t : Entries} (place : List String) (content : String)
    (h : ∃ e ∈ t, e.1 = q) : ∃ e ∈ t.put place content, e.1 = q := by
  induction t with
  | nil => simp at h
  | cons e rest ih =>
    obtain ⟨r, e⟩ := e
    obtain ⟨e', he', rfl⟩ := h
    rw [put]
    split_ifs with hr
    · rcases List.mem_cons.1 he' with rfl | he'
      · exact ⟨_, List.mem_cons_self, rfl⟩
      · exact ⟨e', List.mem_cons_of_mem _ he', rfl⟩
    · rcases List.mem_cons.1 he' with rfl | he'
      · exact ⟨_, List.mem_cons_self, rfl⟩
      · obtain ⟨e'', he'', same⟩ := ih ⟨e', he', rfl⟩
        exact ⟨e'', List.mem_cons_of_mem _ he'', same⟩

namespace FileTree

variable {t t' : FileTree} {p q : FilePath} {place here : List String} {text content : String}

/-- The tree with a content for the file at a place. -/
def put (t : FileTree) (place : List String) (text : String) : FileTree :=
  { t with entries := t.entries.put place text }

theorem write_eq_ok : t.write p text = .ok t' ↔ ∃ place, t.locate p = .ok place ∧
    t.entry? place ≠ some .directory ∧ t' = t.put place text := by
  unfold write put
  cases t.locate p with
  | error e => simp [bind, Except.bind]
  | ok place =>
    rw [ok_bind]
    rcases he : t.entry? place with - | - | old <;> simp [he, eq_comm]

/-- A directory stays one when a file is written, which is something else. -/
theorem entry?_put_directory (file : t.entry? place ≠ some .directory)
    (h : t.entry? here = some .directory) :
    FileTree.entry? (t.put place text) here = some .directory := by
  have apart : here ≠ place := by
    rintro rfl
    exact file h
  have same : (t.put place text).entries.lookup here = t.entries.lookup here :=
    Entries.lookup_put_of_ne text apart t.entries
  unfold entry? at h ⊢
  rw [same]
  cases found : t.entries.lookup here with
  | some e => rwa [found] at h
  | none =>
    rw [found] at h
    dsimp only at h ⊢
    split_ifs at h with inside
    refine if_pos ?_
    simp only [Bool.or_eq_true, List.any_eq_true] at inside ⊢
    refine inside.imp_right ?_
    rintro ⟨e, he, below⟩
    obtain ⟨e', he', key⟩ := Entries.keys_put place text ⟨e, he, rfl⟩
    exact ⟨e', he', key ▸ below⟩

/-- A file stays one when another is written. -/
theorem entry?_put_file (apart : here ≠ place) (h : t.entry? here = some (.file content)) :
    FileTree.entry? (t.put place text) here = some (.file content) := by
  have same : (t.put place text).entries.lookup here = t.entries.lookup here :=
    Entries.lookup_put_of_ne text apart t.entries
  unfold entry? at h ⊢
  rw [same]
  cases found : t.entries.lookup here with
  | some e => rwa [found] at h
  | none =>
    rw [found] at h
    dsimp only at h
    split_ifs at h
    cases h

theorem step_put (file : t.entry? place ≠ some .directory) {name : String} {next : List String}
    (h : t.step here name = .ok next) : (t.put place text).step here name = .ok next := by
  unfold FileTree.step at h ⊢
  split at h
  · cases h
  · cases h
  · rename_i directory
    rw [entry?_put_directory file directory]
    exact h

theorem locate_eq_ok : t.locate q = .ok place ↔ q.isBroken = false ∧
    q.text.utf8ByteSize ≤ longestPath ∧
    q.components.foldlM t.step (if q.root.isEmpty then t.start else []) = .ok place := by
  unfold locate
  by_cases broken : q.isBroken = true
  · simp [broken]
  · by_cases long : longestPath < q.text.utf8ByteSize
    · simp [broken, long, Nat.not_le.2 long]
    · simp [broken, long, Nat.not_lt.1 long]

/-- Whatever a path leads to, it leads there after a file has been written. -/
theorem locate_put (file : t.entry? place ≠ some .directory) {found : List String}
    (h : t.locate q = .ok found) : (t.put place text).locate q = .ok found := by
  have walk : ∀ (names : List String) (here : List String), names.foldlM t.step here = .ok found →
      names.foldlM (t.put place text).step here = .ok found := by
    intro names
    induction names with
    | nil => exact fun _ h => h
    | cons name names ih =>
      intro here h
      obtain ⟨next, first, rest⟩ := exists_of_bind_eq_ok h
      rw [List.foldlM_cons, step_put file first]
      exact ih next rest
  obtain ⟨whole, short, steps⟩ := locate_eq_ok.1 h
  exact locate_eq_ok.2 ⟨whole, short, walk _ _ steps⟩

theorem read_eq_ok : t.read q = .ok content ↔
    ∃ place, t.locate q = .ok place ∧ t.entry? place = some (.file content) := by
  unfold read
  cases t.locate q with
  | error e => simp [bind, Except.bind]
  | ok place =>
    rw [ok_bind]
    rcases he : t.entry? place with - | - | old <;> simp [he]

/-- A file that has been written has the content that it was given. -/
theorem read_write_self (h : t.write p text = .ok t') : t'.read p = .ok text := by
  obtain ⟨place, located, file, rfl⟩ := write_eq_ok.1 h
  refine read_eq_ok.2 ⟨place, locate_put file located, ?_⟩
  rw [ entry?, put, Entries.lookup_put_self]

/-- All others have the content that they had. -/
theorem read_write_of_ne (h : t.write p text = .ok t') (there : t.read q = .ok content)
    (apart : t.locate p ≠ t.locate q) : t'.read q = .ok content := by
  obtain ⟨place, located, file, rfl⟩ := write_eq_ok.1 h
  obtain ⟨found, locatedQ, entry⟩ := read_eq_ok.1 there
  refine read_eq_ok.2 ⟨found, locate_put file locatedQ, entry?_put_file ?_ entry⟩
  rintro rfl
  exact apart (located.trans locatedQ.symm)

end FileTree

/-! ## Suffixes -/

namespace FilePath

/-- The last suffix of the name that a path ends with. -/
def suffix (p : FilePath) : String :=
  match p.components.getLast? with
  | none => ""
  | some name => String.ofList (suffixOf name.toList)

/-- A name ends with its suffix. -/
theorem suffixOf_suffix (name : List Char) : suffixOf name <:+ name := by
  unfold suffixOf
  dsimp only
  split_ifs with h
  · exact List.nil_suffix
  · rw [not_or] at h
    have split := List.takeWhile_append_dropWhile (p := (· ≠ '.')) (l := name.reverse)
    rcases hd : name.reverse.dropWhile (· ≠ '.') with - | ⟨c, before⟩
    · -- without a point all of the name would stand behind it
      have length := congrArg List.length split
      rw [hd] at length
      simp only [List.length_append, List.length_nil, List.length_reverse] at length h
      omega
    · have point : c = '.' := by
        have stops := List.head?_dropWhile_not (· ≠ '.') name.reverse
        rw [hd] at stops
        simpa using stops
      subst point
      refine ⟨before.reverse, ?_⟩
      have whole := congrArg List.reverse split
      rw [hd] at whole
      simpa using whole

/-- A name with another suffix is another name. -/
theorem renamed_eq_iff (name suffix : String) :
    renamed name suffix = name ↔ suffixOf name.toList = suffix.toList := by
  obtain ⟨stem, whole⟩ := suffixOf_suffix name.toList
  have cut : name.toList.take (name.toList.length - (suffixOf name.toList).length) = stem := by
    have length := congrArg List.length whole
    rw [List.length_append] at length
    rw [← length, Nat.add_sub_cancel]
    exact (congrArg (List.take stem.length) whole.symm).trans List.take_left
  rw [← String.toList_inj, renamed, String.toList_append, String.toList_ofList, cut]
  exact ⟨fun h => List.append_cancel_left (whole.trans h.symm), fun h => h ▸ whole⟩

/-- A path that has the suffix of a document already is left as it is. -/
theorem withSuffix_of_suffix {path : FilePath} {p : Product}
    (named : path.components ≠ []) (same : path.suffix = p.suffix) :
    path.withSuffix p.suffix = path := by
  obtain ⟨root, components⟩ := path
  obtain ⟨names, name, rfl⟩ := (List.eq_nil_or_concat components).resolve_left named
  rw [List.concat_eq_append] at same ⊢
  have ends : suffixOf name.toList = p.suffix.toList := by
    rw [← same]
    simp [suffix]
  simp [withSuffix, (renamed_eq_iff name p.suffix).2 ends]

/-- A name with the suffix of a document does not lead upward. -/
theorem renamed_ne_up (name : String) (p : Product) : renamed name p.suffix ≠ ".." := by
  intro up
  have length := congrArg String.length up
  rw [renamed, String.length_append] at length
  cases p with
  | drawing scale =>
    have short : ".svg".length ≤ "..".length := Nat.le.intro ((Nat.add_comm ..).trans length)
    exact absurd short (by decide)
  | layout =>
    have short : ".json".length ≤ "..".length := Nat.le.intro ((Nat.add_comm ..).trans length)
    exact absurd short (by decide)

end FilePath

namespace FileTree

variable {t : FileTree} {path : FilePath} {found place here : List String}

/-- A path leads to what its last component leads to from where the others do. -/
theorem exists_of_locate {root name : String} {names : List String}
    (h : t.locate ⟨root, names ++ [name]⟩ = .ok place) : ∃ here,
      names.foldlM t.step (if root.isEmpty then t.start else []) = .ok here ∧
        t.step here name = .ok place := by
  obtain ⟨-, -, steps⟩ := locate_eq_ok.1 h
  rw [List.foldlM_append] at steps
  obtain ⟨here, first, last⟩ := exists_of_bind_eq_ok steps
  rw [List.foldlM_cons] at last
  obtain ⟨place', last, done⟩ := exists_of_bind_eq_ok last
  cases done
  exact ⟨here, first, last⟩

theorem step_eq_ok {name : String} (h : t.step here name = .ok place) :
    place = if name = ".." then here.dropLast else here ++ [name] := by
  unfold FileTree.step at h
  split at h
  · cases h
  · cases h
  · split_ifs at h with up <;> cases h
    · rw [if_pos up]
    · rw [if_neg up]

/-- A path that is given the suffix of a document leads to the same place only if it has it. -/
theorem suffix_eq_of_locate (named : path.components ≠ []) {p : Product}
    (first : t.locate path = .ok place) (second : t.locate (path.withSuffix p.suffix) = .ok place) :
    path.suffix = p.suffix := by
  obtain ⟨root, components⟩ := path
  obtain ⟨names, name, rfl⟩ := (List.eq_nil_or_concat components).resolve_left named
  rw [List.concat_eq_append] at first second ⊢
  have other : FilePath.withSuffix ⟨root, names ++ [name]⟩ p.suffix
      = ⟨root, names ++ [FilePath.renamed name p.suffix]⟩ := by
    simp [FilePath.withSuffix]
  rw [other] at second
  obtain ⟨here, walk, last⟩ := exists_of_locate first
  obtain ⟨here', walk', last'⟩ := exists_of_locate second
  cases walk.symm.trans walk'
  have same := (step_eq_ok last).symm.trans (step_eq_ok last')
  rw [if_neg (FilePath.renamed_ne_up name p)] at same
  split_ifs at same with up
  · -- a place further up is not one further down
    have length := congrArg List.length same
    rw [List.length_dropLast, List.length_append, List.length_singleton] at length
    omega
  · have names := List.append_cancel_left same
    have suffix := (FilePath.renamed_eq_iff name p.suffix).1 (List.cons.inj names).1.symm
    simp [FilePath.suffix, suffix]

/-- Whether there are directories where paths start. -/
structure IsRooted (t : FileTree) : Prop where
  /-- The root is one. -/
  root : t.entry? [] = some .directory
  /-- So is the place where relative paths start. -/
  start : t.entry? t.start = some .directory

/-- Then a path to a file names it. -/
theorem IsRooted.components_ne_nil (h : t.IsRooted) {content : String}
    (there : t.read path = .ok content) : path.components ≠ [] := by
  obtain ⟨root, components⟩ := path
  rintro rfl
  obtain ⟨place, located, file⟩ := read_eq_ok.1 there
  obtain ⟨-, -, steps⟩ := locate_eq_ok.1 located
  cases steps
  split_ifs at file
  · cases file.symm.trans h.start
  · cases file.symm.trans h.root

end FileTree

/-! ## Runs -/

/-- The suffix of the files that a command makes. -/
def Command.suffix : Command → String
  | .compile => ".svg"
  | .layout => ".json"
  | .cheatsheet => ""

section Running

variable {w : Surroundings} {args : List String} {s : Settings} {c : Command} {p : Product}
  {script : Script} {d : Diagram MachineNumber} {format : ErrorFormat} {name content : String}

theorem Makes.suffix_eq (h : Makes s c p) : p.suffix = c.suffix := by
  cases h <;> rfl

/-- A run that can write a document has written it. -/
theorem Compiles.runIn_of_write {document : String} {path : FilePath} {files : FileTree}
    (h : Compiles w args s p script d) (made : p.document d = .ok document)
    (goal : Delivery.of s script p = .file path) (write : w.files.write path document = .ok files) :
    (runIn w args).2 = files := by
  obtain ⟨format, run⟩ := h.runIn_eq
  rw [run, deliverProduct_of_document h.compiled made, goal]
  dsimp only
  rw [write]

/-- A run that succeeds could write its document. -/
theorem Compiles.write_eq {document : String} {path : FilePath} (h : Compiles w args s p script d)
    (made : p.document d = .ok document) (goal : Delivery.of s script p = .file path)
    (succeeds : (runIn w args).1.exitCode = 0) :
    w.files.write path document = .ok (runIn w args).2 := by
  cases write : w.files.write path document with
  | ok files => rw [h.runIn_of_write made goal write]
  | error e =>
    have stops : Stops w args (.ofWrite e) := .unwritten h made goal write
    exact absurd (stops.exitCode_runIn.symm.trans succeeds) (Reason.exitCode_ne_zero _)

/-- The file that a document goes to by default. -/
theorem Compiles.delivery_eq (h : Compiles w args s p script d)
    (named : nonempty s.input = some name) (unsaid : nonempty s.output = none) :
    Delivery.of s script p = if s.stdout then .standardOutput
      else .file ((FilePath.ofText name).withSuffix p.suffix) := by
  have beside : script.path = some (.ofText name) := by
    cases h.supplied with
    | argument given alone => cases alone.symm.trans named
    | file named' alone read =>
      cases named'.symm.trans named
      rfl
    | standardInput nameless => cases nameless.symm.trans named
  rw [Delivery.of, unsaid, beside]

/-- What is in the input file after a run of a command that is not told where its document goes:
what was in it before, if the run fails, if the document goes to standard output, or if the file has
another suffix than documents of the command; otherwise the document. -/
theorem runIn_input (rooted : w.files.IsRooted)
    (asked : Invocation.ofArguments args = .ok ⟨format, some (c, s)⟩) (works : c ≠ .cheatsheet)
    (named : nonempty s.input = some name) (unsaid : nonempty s.output = none)
    (there : w.files.read (.ofText name) = .ok content) :
    ((runIn w args).1.exitCode ≠ 0 ∨ s.stdout = true ∨ (FilePath.ofText name).suffix ≠ c.suffix →
      (runIn w args).2.read (.ofText name) = .ok content) ∧
    ((runIn w args).1.exitCode = 0 → s.stdout = false → (FilePath.ofText name).suffix = c.suffix →
      ∃ p script d document, Compiles w args s p script d ∧ p.document d = .ok document ∧
        (runIn w args).2.read (.ofText name) = .ok document) := by
  have accounts := runIn_accounts w args
  have path := rooted.components_ne_nil there
  by_cases succeeds : (runIn w args).1.exitCode = 0
  · obtain ⟨p, script, d, document, compiles, made, done⟩ :=
      accounts.delivers succeeds format c s works asked
    have suffix : p.suffix = c.suffix := by
      obtain ⟨format', c', asked', plans⟩ := compiles.asked
      cases asked.symm.trans asked'
      exact plans.makes.suffix_eq
    have goal := compiles.delivery_eq named unsaid
    by_cases shown : s.stdout = true
    · refine ⟨fun _ => ?_, fun _ unshown => absurd shown (by simp [unshown])⟩
      rw [goal, if_pos shown] at done
      generalize (runIn w args).2 = files at done ⊢
      cases done
      exact there
    · rw [if_neg shown] at goal
      have write := compiles.write_eq made goal succeeds
      refine ⟨fun apart => ?_, fun _ _ same => ⟨p, script, d, document, compiles, made, ?_⟩⟩
      · have apart := (apart.resolve_left (absurd succeeds)).resolve_left shown
        refine FileTree.read_write_of_ne write there fun one => apart ?_
        obtain ⟨place, located, -⟩ := FileTree.read_eq_ok.1 there
        rw [← suffix]
        exact FileTree.suffix_eq_of_locate path located (one.trans located)
      · rw [FilePath.withSuffix_of_suffix path (same.trans suffix.symm)] at write
        exact FileTree.read_write_self write
  · have same := (accounts.clean succeeds).2
    exact ⟨fun _ => by rwa [same], fun h => absurd h succeeds⟩

/-- A script whose file has two suffixes, of which the first is that of drawings. -/
theorem runIn_input_pic :
    let w : Surroundings :=
      { files := ⟨[(["notes.svg.pic"], .file "box")], []⟩, standardInput := none }
    (runIn w ["compile", "notes.svg.pic"]).2.read (.ofText "notes.svg.pic") = .ok "box" := by
  intro w
  have letters : "notes.svg.pic".toList = 'n' :: "otes.svg.pic".toList := by decide
  exact (runIn_input (w := w) ⟨rfl, rfl⟩ (Invocation.ofArguments_compile letters (by decide)) nofun
    rfl rfl rfl).1 (.inr (.inr (by decide)))

/-- A script whose file has the suffix of drawings: the drawing replaces it. -/
theorem runIn_compile_svg :
    let w : Surroundings := { files := ⟨[(["a.svg"], .file "box")], []⟩, standardInput := none }
    w.files.read (.ofText "a.svg") = .ok "box" ∧
      (runIn w ["compile", "a.svg"]).2.read (.ofText "a.svg") ≠ .ok "box" := by
  intro w
  let tokens : List Token := [⟨.word, "box", ⟨1, 1⟩⟩, ⟨.eof, "", ⟨1, 4⟩⟩]
  have scanned : tokenize .standard "box" = .ok tokens := by
    rw [tokenize_eq_steps]
    decide +kernel
  have parsed : Program.ofTokens .standard tokens = .ok [.object ⟨1, 1⟩ .box none []] := by
    cbv
  have statements := (Program.ofSource_eq_ok scanned (by decide)).2 parsed
  have drawn : ((Diagram.ofStatements (Resources.standard : Resources MachineNumber)
      [.object ⟨1, 1⟩ .box none []]).toOption.map fun d =>
        ((Product.drawing none).document d).toOption.map (·.toList.head?)) =
      some (some (some '<')) := by
    decide +kernel
  obtain ⟨d, compiled, started⟩ :=
    Diagram.exists_compile_eq_ok (t := Resources.standard) statements drawn
  obtain ⟨document, made, first⟩ := Option.map_eq_some_iff.1 started
  have read : w.files.read (.ofText "a.svg") = .ok "box" := rfl
  have compiles : Compiles w ["compile", "a.svg"] { input := some "a.svg" } (.drawing none)
      ⟨"box", "a.svg", some (.ofText "a.svg")⟩ d := by
    refine ⟨⟨⟨.text, .compile, ?_, ?_, .drawing rfl⟩, .file rfl rfl read⟩, compiled⟩
    · have letters : "a.svg".toList = 'a' :: ".svg".toList := by decide
      exact Invocation.ofArguments_compile letters (by decide)
    · intro h
      cases h
  have write : w.files.write (.ofText "a.svg") document =
      .ok ⟨[(["a.svg"], .file document)], []⟩ := rfl
  refine ⟨read, fun kept => ?_⟩
  rw [compiles.runIn_of_write (eq_ok_of_toOption made) rfl write,
    FileTree.read_write_self write] at kept
  cases kept
  exact absurd first (by decide)

end Running

end CommandLine

end DiagramScript
