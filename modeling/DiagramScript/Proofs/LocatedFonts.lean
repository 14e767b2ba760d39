import DiagramScript.Text.FontFile

/-!
# Which font file is found

The search keeps the best file so far, and a directory may fail while it is read.  What comes out
depends only on the files that all directories together have listed.

* `FontDirectory.search_eq` — a directory counts as far as it was read.
* `foldl_offerFont_none` and its like — the best of some files after none, after one whose name
  starts with the name of the family, and after one that has that name.
* `firstFont` — the first file with the name of the family, or else the first whose name starts with
  it; `searchFont_eq`.
* `FontCache.after` — what is remembered after several lookups; `FontCache.lookup_after`.
* `FontCache.locate_finds` — what a lookup finds, and what every later one does.
-/

namespace DiagramScript

/-! ## Single files -/

/-- The first of some files that has the name of the family, or else the first whose name starts
with it; all names are given by their letters and digits. -/
def firstFont (family : List Char) (paths : List String) : Option String :=
  (paths.find? fun p => fontKey (fileStem p.toList) = family).or
    (paths.find? fun p => family <+: fontKey (fileStem p.toList))

section SingleFiles

variable {family : List Char} {path : String}

/-- Nothing fits better than a file with the name of the family. -/
theorem offerFont_after_named (found : String) :
    offerFont family (some (0, found)) path = some (0, found) := by
  unfold offerFont
  split
  · rfl
  · rename_i h
    cases h
  · rename_i h
    obtain ⟨rfl, rfl⟩ := Prod.mk.inj (Option.some.inj h)
    exact if_neg (Nat.not_lt_zero _)

theorem offerFont_named (h : fontKey (fileStem path.toList) = family) (found : String) :
    offerFont family none path = some (0, path) ∧
      offerFont family (some (1, found)) path = some (0, path) := by
  have score : fontScore? family (fontKey (fileStem path.toList)) = some 0 := if_pos h
  unfold offerFont
  rw [score]
  exact ⟨rfl, rfl⟩

/-- Only a file with the name of the family fits better than one whose name starts with it. -/
theorem offerFont_after_starting (h : fontKey (fileStem path.toList) ≠ family) (found : String) :
    offerFont family (some (1, found)) path = some (1, found) := by
  unfold offerFont fontScore?
  rw [if_neg h]
  cases family.isPrefixOf (fontKey (fileStem path.toList)) <;> rfl

theorem offerFont_none (h : fontKey (fileStem path.toList) ≠ family) :
    offerFont family none path =
      if family <+: fontKey (fileStem path.toList) then some (1, path) else none := by
  unfold offerFont fontScore?
  rw [if_neg h]
  simp only [← List.isPrefixOf_iff_prefix]
  cases family.isPrefixOf (fontKey (fileStem path.toList)) <;> rfl

end SingleFiles

/-! ## Files one after the other -/

section Files

variable (family : List Char) (paths : List String)

theorem foldl_offerFont_named (found : String) :
    paths.foldl (offerFont family) (some (0, found)) = some (0, found) := by
  induction paths with
  | nil => rfl
  | cons p ps ih => rw [List.foldl_cons, offerFont_after_named, ih]

theorem foldl_offerFont_starting (found : String) :
    paths.foldl (offerFont family) (some (1, found)) =
      match paths.find? fun p => fontKey (fileStem p.toList) = family with
      | some p => some (0, p)
      | none => some (1, found) := by
  induction paths with
  | nil => rfl
  | cons p ps ih =>
    rw [List.foldl_cons, List.find?_cons]
    by_cases named : fontKey (fileStem p.toList) = family
    · rw [(offerFont_named named found).2, foldl_offerFont_named, decide_eq_true named]
    · rw [offerFont_after_starting named, ih, decide_eq_false named]

theorem foldl_offerFont_none :
    (paths.foldl (offerFont family) none).map Prod.snd = firstFont family paths := by
  unfold firstFont
  induction paths with
  | nil => rfl
  | cons p ps ih =>
    rw [List.foldl_cons, List.find?_cons, List.find?_cons]
    by_cases named : fontKey (fileStem p.toList) = family
    · rw [(offerFont_named named p).1, foldl_offerFont_named, decide_eq_true named]
      rfl
    · rw [offerFont_none named, decide_eq_false named]
      by_cases starts : family <+: fontKey (fileStem p.toList)
      · rw [if_pos starts, foldl_offerFont_starting, decide_eq_true starts]
        cases ps.find? fun p => fontKey (fileStem p.toList) = family <;> rfl
      · rw [if_neg starts, ih, decide_eq_false starts]

end Files

/-! ## Directories -/

/-- Going through some files changes the best one file by file. -/
theorem run_offerFonts (family : List Char) (paths : List String) (best : FontMatch) :
    (offerFonts family paths).run.run best = (.ok (), paths.foldl (offerFont family) best) := by
  induction paths generalizing best with
  | nil => rfl
  | cons p ps ih => exact ih (offerFont family best p)

/-- A directory counts as far as it was read. -/
theorem FontDirectory.search_eq (dir : FontDirectory) (family : List Char) (best : FontMatch) :
    dir.search family best = dir.paths.foldl (offerFont family) best := by
  cases dir with
  | missing => rfl
  | listed ps => exact congrArg Prod.snd (run_offerFonts family ps best)
  | interrupted ps =>
    -- the failure comes after the files, and drops none of them
    have read : ((FontDirectory.interrupted ps).read family).run.run best =
        (.error (), ps.foldl (offerFont family) best) := by
      simp only [FontDirectory.read, ExceptT.run_bind, StateT.run_bind, run_offerFonts]
      rfl
    exact congrArg Prod.snd read

/-- Of the files of all directories the first with the name of the family is chosen, or else the
first whose name starts with it. -/
theorem searchFont_eq (dirs : List FontDirectory) (family : String) :
    searchFont dirs family =
      firstFont (fontKey family.toList) (dirs.flatMap FontDirectory.paths) := by
  rw [← foldl_offerFont_none, List.foldl_flatMap, searchFont]
  simp only [FontDirectory.search_eq]

/-! ## Remembering -/

/-- A lookup: the directories as they are then, and the name of a family. -/
structure FontLookup where
  /-- The directories. -/
  dirs : List FontDirectory
  /-- The name. -/
  family : String

namespace FontCache

/-- What is remembered after several lookups. -/
def after (cache : FontCache) (asked : List FontLookup) : FontCache :=
  asked.foldl (fun cache a => (cache.locate a.dirs a.family).2) cache

variable (cache : FontCache)

/-- What is remembered is found again, and anything else is searched for. -/
theorem locate_eq (dirs : List FontDirectory) (family : String) :
    (cache.locate dirs family).1 =
      (cache.lookup (smallForm family)).getD (searchFont dirs family) := by
  unfold locate
  cases cache.lookup (smallForm family) <;> rfl

/-- A lookup forgets nothing, and adds what it has searched for. -/
theorem lookup_locate (dirs : List FontDirectory) (family key : String) :
    (cache.locate dirs family).2.lookup key = (cache.lookup key).or
      (if smallForm family = key then some (searchFont dirs family) else none) := by
  unfold locate
  by_cases same : smallForm family = key
  · subst same
    cases h : cache.lookup (smallForm family) with
    | some found => exact h
    | none => simp
  · rw [if_neg same, Option.or_none]
    cases cache.lookup (smallForm family) with
    | some _ => rfl
    | none =>
      dsimp only
      rw [List.lookup_cons, beq_eq_false_iff_ne.2 (Ne.symm same)]

/-- So of each family the first lookup counts. -/
theorem lookup_after (asked : List FontLookup) (key : String) :
    (cache.after asked).lookup key = (cache.lookup key).or
      ((asked.find? fun a => smallForm a.family = key).map
        fun a => searchFont a.dirs a.family) := by
  induction asked generalizing cache with
  | nil => exact Option.or_none.symm
  | cons a asked ih =>
    have step := ih (cache.locate a.dirs a.family).2
    rw [lookup_locate, Option.or_assoc] at step
    rw [List.find?_cons]
    refine step.trans (congrArg (cache.lookup key).or ?_)
    by_cases same : smallForm a.family = key
    · rw [if_pos same, decide_eq_true same]
      rfl
    · rw [if_neg same, decide_eq_false same]
      rfl

/-- What was found is remembered. -/
theorem lookup_locate_self (dirs : List FontDirectory) (family : String) :
    (cache.locate dirs family).2.lookup (smallForm family) =
      some (cache.locate dirs family).1 := by
  rw [lookup_locate, locate_eq, if_pos rfl]
  cases cache.lookup (smallForm family) <;> rfl

/-- A family that has not been looked up so far is searched for in all directories: the first file
is found that has its name, or else the first whose name starts with it, where all files count that
a directory has listed, also if it failed then.  Every later lookup of the family, with any capitals
and small letters and whatever was looked up and has changed in between, finds the same. -/
theorem locate_finds (asked : List FontLookup) (dirs : List FontDirectory) (family : String) :
    let cache := after [] asked
    let files := dirs.flatMap FontDirectory.paths
    let key := fontKey family.toList
    ((∀ a ∈ asked, smallForm a.family ≠ smallForm family) →
      (cache.locate dirs family).1 =
        (files.find? fun p => fontKey (fileStem p.toList) = key).or
          (files.find? fun p => key <+: fontKey (fileStem p.toList))) ∧
    ∀ (later : List FontLookup) (dirs' : List FontDirectory) (family' : String),
      smallForm family' = smallForm family →
      (((cache.locate dirs family).2.after later).locate dirs' family').1 =
        (cache.locate dirs family).1 := by
  intro cache files key
  refine ⟨fun new => ?_, fun later dirs' family' same => ?_⟩
  · have first : asked.find? (fun a => smallForm a.family = smallForm family) = none :=
      List.find?_eq_none.2 fun a ha => by simpa using new a ha
    have unknown : cache.lookup (smallForm family) = none := by
      rw [lookup_after, first]
      rfl
    rw [locate_eq, unknown, Option.getD_none, searchFont_eq]
    rfl
  · rw [locate_eq, same, lookup_after, lookup_locate_self]
    rfl

/-- A file of a directory that fails then; and a family whose name has an umlaut, looked up again in
capitals when there are no directories any more. -/
theorem locate_finds_interrupted :
    let asked : List FontLookup := [⟨[.listed ["a/Courier.ttf"]], "Courier"⟩]
    let dirs : List FontDirectory := [.missing,
      .interrupted ["x/Notes.ttf", "x/K\u00FCrsiv-Bold.ttf"], .listed ["y/k\u00FCrsiv.ttf"]]
    let cache := after [] asked
    (cache.locate dirs "K\u00FCr").1 = some "x/K\u00FCrsiv-Bold.ttf" ∧
      (cache.locate dirs "K\u00FCrsiv").1 = some "y/k\u00FCrsiv.ttf" ∧
      (((cache.locate dirs "K\u00FCrsiv").2.after asked).locate [] "K\u00DCRSIV").1 =
        some "y/k\u00FCrsiv.ttf" := by
  intro asked dirs cache
  obtain ⟨starting, -⟩ := locate_finds asked dirs "K\u00FCr"
  obtain ⟨named, again⟩ := locate_finds asked dirs "K\u00FCrsiv"
  have found : (cache.locate dirs "K\u00FCrsiv").1 = some "y/k\u00FCrsiv.ttf" :=
    (named (by decide +kernel)).trans (by decide +kernel)
  exact ⟨(starting (by decide +kernel)).trans (by decide +kernel), found,
    (again asked [] "K\u00DCRSIV" (by decide +kernel)).trans found⟩

end FontCache

end DiagramScript
