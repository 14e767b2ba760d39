/-!
# Paths of files

* `FilePath` — a path by its components; `FilePath.ofText` reads one, and drops empty
  components and those that stay where they are.
* `FilePath.text` — how a path is written.
* `FilePath.withSuffix` — the path with another suffix of its last component.
-/

namespace DiagramScript

namespace CommandLine

/-- A path of a file. -/
structure FilePath where
  /-- The slashes it starts with: none, one, or two. -/
  root : String
  /-- Its components. -/
  components : List String
  deriving DecidableEq, Repr

namespace FilePath

/-! ## Reading and writing -/

/-- The parts of a text between slashes. -/
def splitSlashes : List Char → List (List Char)
  | [] => [[]]
  | c :: cs =>
    if c = '/' then [] :: splitSlashes cs
    else
      match splitSlashes cs with
      | [] => [[c]]
      | part :: parts => (c :: part) :: parts

/-- Whether a component leads somewhere else. -/
def isStep (part : List Char) : Bool := !part.isEmpty && part != ['.']

/-- The slashes that a path starts with; more than two count as one. -/
def rootOf : List Char → String
  | '/' :: '/' :: '/' :: _ => "/"
  | '/' :: '/' :: _ => "//"
  | '/' :: _ => "/"
  | _ => ""

/-- The path that a text stands for. -/
def ofText (s : String) : FilePath where
  root := rootOf s.toList
  components := ((splitSlashes s.toList).filter isStep).map String.ofList

/-- How a path is written; without components it is the directory itself. -/
def text (p : FilePath) : String :=
  if p.root.isEmpty && p.components.isEmpty then "."
  else p.root ++ "/".intercalate p.components

/-- Whether a path holds the character that ends paths, so that it leads nowhere. -/
def isBroken (p : FilePath) : Bool := p.text.toList.contains '\x00'

/-- Splitting at slashes leaves none. -/
theorem not_mem_splitSlashes (cs : List Char) : ∀ part ∈ splitSlashes cs, '/' ∉ part := by
  induction cs with
  | nil => simp [splitSlashes]
  | cons c cs ih =>
    by_cases hc : c = '/'
    · simpa [splitSlashes, hc] using ih
    · simp only [splitSlashes, if_neg hc]
      cases h : splitSlashes cs with
      | nil => simpa using Ne.symm hc
      | cons part parts =>
        rw [h] at ih
        intro q hq
        rcases List.mem_cons.1 hq with rfl | hq
        · simpa [Ne.symm hc] using ih part (by simp)
        · exact ih q (by simp [hq])

/-! ## Suffixes -/

/-- The last suffix of a name, with its point; a point at either end of the name begins none. -/
def suffixOf (name : List Char) : List Char :=
  let after := (name.reverse.takeWhile (· ≠ '.')).reverse
  if after.isEmpty ∨ name.length ≤ after.length + 1 then [] else '.' :: after

/-- A name with another suffix, or with one if it has none. -/
def renamed (name suffix : String) : String :=
  let cs := name.toList
  String.ofList (cs.take (cs.length - (suffixOf cs).length)) ++ suffix

/-- The path with another suffix of its last component. -/
def withSuffix (p : FilePath) (suffix : String) : FilePath :=
  match p.components.getLast? with
  | none => p
  | some name => { p with components := p.components.dropLast ++ [renamed name suffix] }

end FilePath

end CommandLine

end DiagramScript
