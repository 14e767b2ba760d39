import DiagramScript.Color.Paint

/-!
# Styles and lines of text

* `Style` — how an object is drawn.
* `TextLine` — one line of text in an object, and `TextModifier` the words that may
  follow it in a script.  `TextLine.modify` keeps contrary marks apart:
  `modify_consistent` says that it never leaves two of them set.
-/

namespace DiagramScript

/-! ## Styles -/

/-- How an object is drawn. -/
@[ext]
structure Style (K : Type) where
  /-- What its outline and its text are painted with. -/
  color : Paint
  /-- What its area is painted with. -/
  fill : Paint
  /-- How thick its outline is. -/
  thickness : K
  /-- The length of its dashes, if it is dashed. -/
  dashed : Option K := none
  /-- The distance of its dots, if it is dotted. -/
  dotted : Option K := none
  /-- Whether its outline is left out. -/
  invisible : Bool := false
  /-- Whether its path has a head where it starts. -/
  arrowStart : Bool := false
  /-- Whether its path has a head where it ends. -/
  arrowEnd : Bool := false
  /-- Whether its path returns to its start. -/
  closed : Bool := false
  /-- Whether an arc turns to the right. -/
  clockwise : Bool := false
  deriving Repr

/-! ## Lines of text -/

/-- A word that marks the line of text before it. -/
inductive TextModifier where
  /-- Puts the line above the middle of the object. -/
  | above
  /-- Puts it below the middle. -/
  | below
  /-- Lets it start at the middle. -/
  | ljust
  /-- Lets it end at the middle. -/
  | rjust
  /-- Takes back the four marks before. -/
  | center
  /-- Sets it in bold. -/
  | bold
  /-- Sets it in italics. -/
  | italic
  /-- Sets it in a font of fixed width. -/
  | mono
  /-- Sets it larger. -/
  | big
  /-- Sets it smaller. -/
  | small
  /-- Lets it run along the path of the object. -/
  | aligned
  deriving DecidableEq, Repr

namespace TextModifier

/-- The modifiers, in the order in which they are shown. -/
def all : List TextModifier :=
  [above, below, ljust, rjust, center, bold, italic, mono, big, small, aligned]

/-- The word for a modifier. -/
def name : TextModifier → String
  | above => "above"
  | below => "below"
  | ljust => "ljust"
  | rjust => "rjust"
  | center => "center"
  | bold => "bold"
  | italic => "italic"
  | mono => "mono"
  | big => "big"
  | small => "small"
  | aligned => "aligned"

/-- The modifier a word stands for. -/
def ofName? (word : String) : Option TextModifier := all.find? (·.name = word)

end TextModifier

/-- One line of text in an object. -/
@[ext]
structure TextLine where
  /-- The text. -/
  text : String
  /-- Whether it stands above the middle. -/
  above : Bool := false
  /-- Whether it stands below the middle. -/
  below : Bool := false
  /-- Whether it starts at the middle. -/
  ljust : Bool := false
  /-- Whether it ends at the middle. -/
  rjust : Bool := false
  /-- Whether it is bold. -/
  bold : Bool := false
  /-- Whether it is in italics. -/
  italic : Bool := false
  /-- Whether its font has a fixed width. -/
  mono : Bool := false
  /-- Whether it is larger. -/
  big : Bool := false
  /-- Whether it is smaller. -/
  small : Bool := false
  /-- Whether it runs along the path. -/
  aligned : Bool := false
  deriving DecidableEq, Repr

/-- Which side of a line of text stands at the middle of the object. -/
inductive Justification where
  /-- The text starts there. -/
  | left
  /-- The text ends there. -/
  | right
  /-- The text is centred there. -/
  | center
  deriving DecidableEq, Repr

namespace TextLine

/-- The line with one more mark, which takes back the mark it contradicts. -/
def modify (line : TextLine) : TextModifier → TextLine
  | .center => { line with ljust := false, rjust := false, above := false, below := false }
  | .ljust => { line with rjust := false, ljust := true }
  | .rjust => { line with ljust := false, rjust := true }
  | .above => { line with below := false, above := true }
  | .below => { line with above := false, below := true }
  | .big => { line with small := false, big := true }
  | .small => { line with big := false, small := true }
  | .bold => { line with bold := true }
  | .italic => { line with italic := true }
  | .mono => { line with mono := true }
  | .aligned => { line with aligned := true }

/-- No two contrary marks are set. -/
def Consistent (line : TextLine) : Prop :=
  ¬(line.ljust ∧ line.rjust) ∧ ¬(line.above ∧ line.below) ∧ ¬(line.big ∧ line.small)

/-- A line without marks is consistent. -/
theorem consistent_plain (text : String) : Consistent { text := text } := by
  simp [Consistent]

/-- Marking a line keeps it consistent. -/
theorem modify_consistent {line : TextLine} (h : line.Consistent) (m : TextModifier) :
    (line.modify m).Consistent := by
  obtain ⟨h1, h2, h3⟩ := h
  cases m <;> simp_all [Consistent, modify]

/-- Whether the line bears the given mark; none bears the one that takes marks back. -/
def has (line : TextLine) : TextModifier → Bool
  | .above => line.above
  | .below => line.below
  | .ljust => line.ljust
  | .rjust => line.rjust
  | .center => false
  | .bold => line.bold
  | .italic => line.italic
  | .mono => line.mono
  | .big => line.big
  | .small => line.small
  | .aligned => line.aligned

/-- The marks of a line. -/
def marks (line : TextLine) : List TextModifier := TextModifier.all.filter line.has

/-- The marks of a line that say where it stands and how it is set. -/
def shownMarks (line : TextLine) : List TextModifier :=
  [.above, .below, .bold, .italic, .mono, .big, .small].filter line.has

/-- Which side of the line stands at the middle of the object. -/
def justification (line : TextLine) : Justification :=
  if line.ljust then .left else if line.rjust then .right else .center

/-- The size of the line relative to plain text. -/
def scale {K : Type} [Arith K] (line : TextLine) : K :=
  if line.big then Arith.dec 125 2
  else if line.small then Arith.dec 8 1
  else Arith.num 1

end TextLine

/-- The word for a justification. -/
def Justification.name : Justification → String
  | left => "left"
  | right => "right"
  | center => "center"

end DiagramScript
