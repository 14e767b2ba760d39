import DiagramScript.CommandLine.FilePath
import DiagramScript.Text.Quoted

/-!
# File trees

What a run can read and write: files and directories, and one directory where relative
paths start.

* `FileError` — why a file cannot be read or written.
* `FileTree.locate` — the place that a path leads to, one component after the other.
* `FileTree.read`, `FileTree.write` — the content of a file, and the tree with another
  content of it.
* `FileTree.changes` — the files that differ from those of another tree.
-/

namespace DiagramScript

namespace CommandLine

/-! ## Errors -/

/-- Why a file cannot be read or written. -/
inductive FileError where
  /-- There is no such file, or no directory for it. -/
  | notFound
  /-- A component before the last is a file. -/
  | notDirectory
  /-- It is a directory. -/
  | isDirectory
  /-- The path or a component is longer than they can be. -/
  | nameTooLong
  /-- The path holds the character that ends paths. -/
  | broken
  deriving DecidableEq, Repr

/-- The sentence that reports an error. -/
def FileError.message (e : FileError) (p : FilePath) : String :=
  let numbered (number : Nat) (name : String) : String :=
    "[Errno " ++ toString number ++ "] " ++ name ++ ": " ++ quoted p.text
  match e with
  | notFound => numbered 2 "No such file or directory"
  | notDirectory => numbered 20 "Not a directory"
  | isDirectory => numbered 21 "Is a directory"
  | nameTooLong => numbered 36 "File name too long"
  | broken => "embedded null byte"

/-! ## Entries -/

/-- What a name stands for. -/
inductive Entry where
  /-- A directory. -/
  | directory
  /-- A file with its content. -/
  | file (content : String)
  deriving DecidableEq, Repr

/-- Files and directories by their places, which are the components that lead to them from the
root. -/
abbrev Entries := List (List String × Entry)

/-- Gives the file at a place a content. -/
def Entries.put (place : List String) (content : String) : Entries → Entries
  | [] => [(place, .file content)]
  | (q, e) :: rest =>
    if q = place then (q, .file content) :: rest else (q, e) :: put place content rest

/-- A file has the content it was given. -/
theorem Entries.lookup_put_self (place : List String) (content : String) (t : Entries) :
    (t.put place content).lookup place = some (.file content) := by
  induction t with
  | nil => simp [put]
  | cons e rest ih =>
    obtain ⟨q, e⟩ := e
    by_cases h : q = place
    · simp [put, h]
    · have h' : (place == q) = false := by simpa using fun e => h e.symm
      simp only [put, if_neg h, List.lookup_cons, h']
      exact ih

/-- Writing one file leaves the others alone. -/
theorem Entries.lookup_put_of_ne {place other : List String} (content : String)
    (h : other ≠ place) (t : Entries) : (t.put place content).lookup other = t.lookup other := by
  induction t with
  | nil =>
    have h' : (other == place) = false := by simpa using h
    simp [put, List.lookup_cons, h']
  | cons e rest ih =>
    obtain ⟨q, e⟩ := e
    by_cases hq : q = place
    · subst hq
      have h' : (other == q) = false := by simpa using h
      simp [put, List.lookup_cons, h']
    · simp only [put, if_neg hq, List.lookup_cons]
      cases other == q
      · exact ih
      · rfl

/-! ## Trees -/

/-- Files and directories, and the directory where relative paths start. -/
structure FileTree where
  /-- The files and directories. -/
  entries : Entries
  /-- The place of the directory where relative paths start. -/
  start : List String
  deriving DecidableEq, Repr

namespace FileTree

/-- What is at a place.  The directory where relative paths start is there, and whatever something
else is in is a directory. -/
def entry? (t : FileTree) (place : List String) : Option Entry :=
  match t.entries.lookup place with
  | some e => some e
  | none =>
    if place.isPrefixOf t.start || t.entries.any fun e => place.isPrefixOf e.1 then
      some .directory
    else none

/-- How many bytes a component can have. -/
def longestName : Nat := 255

/-- How many bytes a path can have. -/
def longestPath : Nat := 4095

/-- The place that a component leads to; the root is its own parent. -/
def step (t : FileTree) (here : List String) (name : String) : Except FileError (List String) :=
  match t.entry? here with
  | none => .error .notFound
  | some (.file _) => .error .notDirectory
  | some .directory =>
    if name = ".." then .ok here.dropLast
    else if longestName < name.utf8ByteSize then .error .nameTooLong
    else .ok (here ++ [name])

/-- The place that a path leads to; there need not be anything. -/
def locate (t : FileTree) (p : FilePath) : Except FileError (List String) :=
  if p.isBroken then .error .broken
  else if longestPath < p.text.utf8ByteSize then .error .nameTooLong
  else p.components.foldlM t.step (if p.root.isEmpty then t.start else [])

/-- The content of a file. -/
def read (t : FileTree) (p : FilePath) : Except FileError String := do
  let place ← t.locate p
  match t.entry? place with
  | none => .error .notFound
  | some .directory => .error .isDirectory
  | some (.file content) => .ok content

/-- The tree with another content of a file, which need not be there before. -/
def write (t : FileTree) (p : FilePath) (content : String) : Except FileError FileTree := do
  let place ← t.locate p
  match t.entry? place with
  | some .directory => .error .isDirectory
  | _ => .ok { t with entries := t.entries.put place content }

/-- The files that another tree lacks or has with another content. -/
def changes (before after : FileTree) : List (List String × String) :=
  after.entries.filterMap fun e =>
    match e.2 with
    | .directory => none
    | .file content =>
      if before.entries.lookup e.1 = some (.file content) then none else some (e.1, content)

/-- Nothing changes while nothing is written, if each place has one entry only. -/
theorem changes_self {t : FileTree} (h : ∀ e ∈ t.entries, t.entries.lookup e.1 = some e.2) :
    t.changes t = [] := by
  simp only [changes, List.filterMap_eq_nil_iff]
  intro e he
  have := h e he
  split <;> simp_all

end FileTree

end CommandLine

end DiagramScript
