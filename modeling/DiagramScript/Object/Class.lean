import DiagramScript.Number.Arith

/-!
# Classes of objects, and the variables they take their sizes from

* `ObjectClass` — the kinds of things a script can draw, and groups of them;
  `ObjectClass.ofKeyword?` reads the words that declare one.
* `sizeVariables` — the variables that give a new object of a class its width, its
  height and its radius.
* `builtinVariables` — the variables every script starts with; `isBuiltin_of_size`
  says that all size variables are among them.
-/

namespace DiagramScript

/-! ## Classes -/

/-- A kind of object. -/
inductive ObjectClass where
  /-- A rectangle, whose corners may be rounded. -/
  | box
  /-- A circle. -/
  | circle
  /-- An ellipse. -/
  | ellipse
  /-- A rectangle with round ends. -/
  | oval
  /-- An upright cylinder. -/
  | cylinder
  /-- A sheet of paper with a folded corner. -/
  | file
  /-- A diamond. -/
  | diamond
  /-- A line. -/
  | line
  /-- A line with a head at its end. -/
  | arrow
  /-- A smooth curve. -/
  | spline
  /-- A small filled circle. -/
  | dot
  /-- A quarter turn. -/
  | arc
  /-- Text without a frame. -/
  | text
  /-- A line that is not drawn. -/
  | move
  /-- A group of objects. -/
  | container
  deriving DecidableEq, Repr, Inhabited

namespace ObjectClass

/-- The classes an object can be declared with. -/
def drawable : List ObjectClass :=
  [box, circle, ellipse, oval, cylinder, file, diamond, line, arrow, spline, dot, arc, text, move]

/-- The word for a class; brackets for a group. -/
def name : ObjectClass → String
  | box => "box"
  | circle => "circle"
  | ellipse => "ellipse"
  | oval => "oval"
  | cylinder => "cylinder"
  | file => "file"
  | diamond => "diamond"
  | line => "line"
  | arrow => "arrow"
  | spline => "spline"
  | dot => "dot"
  | arc => "arc"
  | text => "text"
  | move => "move"
  | container => "[]"

/-- The class a word declares. -/
def ofKeyword? (word : String) : Option ObjectClass := drawable.find? (·.name = word)

/-- The class with the given name, groups included. -/
def ofName? (word : String) : Option ObjectClass := (drawable ++ [container]).find? (·.name = word)

/-- Every class is found under its name. -/
theorem ofName?_name (c : ObjectClass) : ofName? c.name = some c := by
  cases c <;> decide

/-- Whether objects of the class are paths of points. -/
def isLine : ObjectClass → Bool
  | line | arrow | spline | arc | move => true
  | _ => false

/-- Whether objects of the class are outlined by an ellipse. -/
def isRound : ObjectClass → Bool
  | circle | ellipse | dot => true
  | _ => false

/-- Whether width and height of the class are always equal. -/
def keepsAspect : ObjectClass → Bool
  | circle | dot => true
  | _ => false

end ObjectClass

/-! ## Variables -/

/-- The variables that give an object its size. -/
structure SizeVariables where
  /-- The variable for the width. -/
  width : Option String
  /-- The variable for the height. -/
  height : Option String
  /-- The variable for the radius. -/
  radius : Option String
  deriving Repr

/-- The variables that give a new object of a class its size. -/
def sizeVariables : ObjectClass → SizeVariables
  | .box => ⟨some "boxwid", some "boxht", some "boxrad"⟩
  | .circle => ⟨none, none, some "circlerad"⟩
  | .ellipse => ⟨some "ellipsewid", some "ellipseht", none⟩
  | .oval => ⟨some "ovalwid", some "ovalht", none⟩
  | .cylinder => ⟨some "cylwid", some "cylht", some "cylrad"⟩
  | .file => ⟨some "filewid", some "fileht", some "filerad"⟩
  | .diamond => ⟨some "diamondwid", some "diamondht", none⟩
  | .line | .arrow | .spline => ⟨some "linewid", some "lineht", some "linerad"⟩
  | .move => ⟨some "movewid", some "moveht", none⟩
  | .arc => ⟨none, none, some "arcrad"⟩
  | .dot => ⟨none, none, some "dotrad"⟩
  | .text => ⟨some "textwid", some "textht", none⟩
  | .container => ⟨none, none, none⟩

/-- The variables every script starts with: each value is a sign, a whole number and how many
of its digits stand after the point. -/
def builtinVariables : List (String × Bool × Nat × Nat) := [
  ("boxwid", false, 75, 2), ("boxht", false, 5, 1), ("boxrad", false, 0, 0),
  ("circlerad", false, 25, 2),
  ("ellipsewid", false, 75, 2), ("ellipseht", false, 5, 1),
  ("ovalwid", false, 1, 0), ("ovalht", false, 5, 1),
  ("cylwid", false, 75, 2), ("cylht", false, 5, 1), ("cylrad", false, 75, 3),
  ("filewid", false, 5, 1), ("fileht", false, 75, 2), ("filerad", false, 15, 2),
  ("diamondwid", false, 1, 0), ("diamondht", false, 75, 2),
  ("linewid", false, 5, 1), ("lineht", false, 5, 1), ("linerad", false, 0, 0),
  ("movewid", false, 5, 1), ("moveht", false, 5, 1),
  ("arcrad", false, 25, 2), ("dotrad", false, 15, 3),
  ("textwid", false, 75, 2), ("textht", false, 5, 1),
  ("arrowwid", false, 5, 2), ("arrowht", false, 8, 2),
  ("thickness", false, 15, 3), ("dashwid", false, 5, 2), ("gap", false, 0, 0),
  ("charwid", false, 8, 2), ("charht", false, 14, 2), ("fontscale", false, 1, 0),
  ("scale", false, 1, 0), ("margin", false, 0, 0), ("color", false, 0, 0), ("fill", true, 1, 0)]

/-- Whether every script starts with a variable of this name. -/
def isBuiltinVariable (name : String) : Bool := (builtinVariables.lookup name).isSome

/-- Every size variable is one that scripts start with. -/
theorem isBuiltin_of_size (c : ObjectClass) :
    ∀ v ∈ [(sizeVariables c).width, (sizeVariables c).height, (sizeVariables c).radius],
      ∀ name, v = some name → isBuiltinVariable name = true := by
  have key : ∀ v ∈ [(sizeVariables c).width, (sizeVariables c).height, (sizeVariables c).radius],
      v.all isBuiltinVariable = true := by
    cases c <;> decide +kernel
  intro v hv name hn
  have := key v hv
  subst hn
  exact this

/-! ## Tables of values -/

/-- Variables and their values, in the order in which they were first set. -/
abbrev Variables (K : Type) := List (String × K)

namespace Variables

variable {K : Type}

/-- The value of a variable. -/
def get? (vs : Variables K) (name : String) : Option K := vs.lookup name

/-- Sets a variable, in its place if it has one and otherwise at the end. -/
def set (vs : Variables K) (name : String) (value : K) : Variables K :=
  match vs with
  | [] => [(name, value)]
  | (n, v) :: rest => if n = name then (n, value) :: rest else (n, v) :: set rest name value

/-- A variable has the value it was set to. -/
@[simp] theorem get?_set_self (vs : Variables K) (name : String) (value : K) :
    (vs.set name value).get? name = some value := by
  induction vs with
  | nil => simp [set, get?]
  | cons e rest ih =>
    obtain ⟨n, v⟩ := e
    by_cases h : n = name
    · subst h
      simp [set, get?]
    · have h' : (name == n) = false := by simpa using fun e => h e.symm
      simp only [set, if_neg h, get?, List.lookup_cons, h']
      exact ih

/-- Setting one variable leaves the others alone. -/
theorem get?_set_of_ne {vs : Variables K} {name other : String} (value : K) (h : other ≠ name) :
    (vs.set name value).get? other = vs.get? other := by
  induction vs with
  | nil => simp [set, get?, h]
  | cons e rest ih =>
    obtain ⟨n, v⟩ := e
    by_cases hn : n = name
    · subst hn
      have ho : (other == n) = false := by simpa using h
      simp [set, get?, List.lookup_cons, ho]
    · simp only [set, if_neg hn, get?, List.lookup_cons]
      cases other == n
      · exact ih
      · rfl

/-- The variables a script starts with. -/
def initial [Arith K] : Variables K :=
  builtinVariables.map fun e =>
    let v : K := Arith.dec e.2.2.1 e.2.2.2
    (e.1, if e.2.1 then -v else v)

/-- The variables that scripts do not start with, or not with this value. -/
def changed [Arith K] (vs : Variables K) : Variables K :=
  vs.filter fun e =>
    match (initial : Variables K).get? e.1 with
    | some v => !(e.2 == v)
    | none => true

end Variables

end DiagramScript
