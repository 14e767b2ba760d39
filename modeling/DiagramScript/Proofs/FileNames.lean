import DiagramScript.CommandLine.Run
import DiagramScript.Proofs.ReadingSteps

/-!
# Names of files

* `FilePath.ofText_of_plain` — a name without slashes is a path of one component.
* `FileTree.read_of_long` — a name that is longer than a component can be leads nowhere.
* `Invocation.ofArguments_compile` — an argument that names the file of a script.
-/

namespace DiagramScript

namespace CommandLine

namespace FilePath

theorem splitSlashes_of_plain {cs : List Char} (h : '/' ∉ cs) : splitSlashes cs = [cs] := by
  induction cs with
  | nil => rfl
  | cons c cs ih =>
    rw [List.mem_cons, not_or] at h
    rw [splitSlashes, if_neg (Ne.symm h.1), ih h.2]

/-- A name without slashes is a path of one component. -/
theorem ofText_of_plain {name : String} (plain : '/' ∉ name.toList)
    (step : isStep name.toList = true) : ofText name = ⟨"", [name]⟩ := by
  have root : rootOf name.toList = "" := by
    unfold rootOf
    split
    · rename_i eq
      simp [eq] at plain
    · rename_i eq
      simp [eq] at plain
    · rename_i eq
      simp [eq] at plain
    · rfl
  rw [ofText, root, splitSlashes_of_plain plain, List.filter_cons, if_pos step, List.filter_nil,
    List.map_singleton, String.ofList_toList]

theorem text_of_name (name : String) : (⟨"", [name]⟩ : FilePath).text = name := by
  simp [text]

end FilePath

/-- A component that is too long cannot be looked for. -/
theorem FileTree.read_of_long {t : FileTree} {name : String}
    (start : t.entry? t.start = some .directory) (plain : '/' ∉ name.toList)
    (whole : '\x00' ∉ name.toList) (long : longestName < name.utf8ByteSize)
    (fits : name.utf8ByteSize ≤ longestPath) : t.read (.ofText name) = .error .nameTooLong := by
  have differs : ∀ other : String, other.utf8ByteSize ≤ longestName → name ≠ other := by
    rintro other short rfl
    exact absurd long (Nat.not_lt.2 short)
  have letters : ∀ cs, (String.ofList cs).utf8ByteSize ≤ longestName → name.toList ≠ cs :=
    fun cs short eq => differs _ short (eq ▸ String.ofList_toList.symm)
  have step : FilePath.isStep name.toList = true := by
    simp [FilePath.isStep, letters [] (by decide), letters ['.'] (by decide)]
  have unbroken : FilePath.isBroken ⟨"", [name]⟩ = false := by
    rw [FilePath.isBroken, FilePath.text_of_name]
    simpa using whole
  have located : t.locate ⟨"", [name]⟩ = .error .nameTooLong := by
    rw [locate, unbroken, FilePath.text_of_name, if_neg (by simp), if_neg (Nat.not_lt.2 fits)]
    simp [List.foldlM, FileTree.step, start, differs ".." (by decide), long]
  rw [FilePath.ofText_of_plain plain step, read, located]
  rfl

/-- Without a hyphen before it, an argument is an operand. -/
theorem Grammar.words_operand (g : Grammar) {name : String} {c : Char} {cs : List Char}
    (h : name.toList = c :: cs) (hc : c ≠ '-') : g.words [name] = .ok [(name, .operand)] := by
  have other : name ≠ "--" := by
    rintro rfl
    exact hc (List.cons.inj h).1.symm
  have operand : g.word name = .ok .operand := by
    unfold word
    rw [h]
    split
    · rename_i eq
      exact absurd (List.cons.inj eq).1 hc
    · rfl
  rw [words, if_neg other, operand]
  rfl

/-- Such an argument names the file of the script. -/
theorem Invocation.ofArguments_compile {name : String} {c : Char} {cs : List Char}
    (h : name.toList = c :: cs) (hc : c ≠ '-') : Invocation.ofArguments ["compile", name] =
      .ok ⟨.text, some (.compile, { input := some name })⟩ := by
  have first : Grammar.words commonOptions ["compile", name] =
      .ok [("compile", .operand), (name, .operand)] := by
    have word : Grammar.word commonOptions "compile" = .ok .operand := rfl
    rw [Grammar.words, if_neg (by decide), word, Grammar.words_operand _ h hc]
    rfl
  have second : Grammar.words Command.compile.options [name] = .ok [(name, .operand)] :=
    Grammar.words_operand _ h hc
  have found : Command.ofName? "compile" = some .compile := by decide
  rw [ofArguments, readArguments, first]
  simp only [Except.mapError, ok_bind, readWords, List.map_cons, List.map_nil, found]
  rw [readArguments, second]
  rfl

end CommandLine

end DiagramScript
