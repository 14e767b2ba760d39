import DiagramScript.Object.Style
import DiagramScript.Script.Expression

/-!
# Statements

* `Clause`, `Attribute` — what a declaration says about its object, clause by clause.
* `Statement` — one instruction of a script.
* `Clause.keyword` — the word that names a clause; `accepts` says which clauses the
  objects of a class take.
-/

namespace DiagramScript

/-! ## Clauses -/

/-- The heads that an arrow sign asks for. -/
inductive ArrowHeads where
  /-- One at the start. -/
  | backward
  /-- One at the end. -/
  | forward
  /-- One at each end. -/
  | both
  deriving DecidableEq, Repr

namespace ArrowHeads

/-- The arrow signs. -/
def all : List ArrowHeads := [backward, forward, both]

/-- How the sign is written. -/
def sign : ArrowHeads → String
  | backward => "<-"
  | forward => "->"
  | both => "<->"

/-- Whether there is a head at the start. -/
def atStart : ArrowHeads → Bool
  | forward => false
  | _ => true

/-- Whether there is a head at the end. -/
def atEnd : ArrowHeads → Bool
  | backward => false
  | _ => true

/-- The sign with the given text. -/
def ofSign (text : String) : ArrowHeads :=
  if text = "<-" then backward else if text = "->" then forward else both

end ArrowHeads

/-- A dimension of an object. -/
inductive Dimension where
  /-- Its width. -/
  | width
  /-- Its height. -/
  | height
  /-- Its radius. -/
  | radius
  /-- Twice its radius. -/
  | diameter
  deriving DecidableEq, Repr

namespace Dimension

/-- The words for the dimensions. -/
def words : List (String × Dimension) :=
  [("width", width), ("wid", width), ("height", height), ("ht", height), ("radius", radius),
    ("rad", radius), ("diameter", diameter)]

/-- The full word for a dimension. -/
def name : Dimension → String
  | width => "width"
  | height => "height"
  | radius => "radius"
  | diameter => "diameter"

/-- The dimension a word stands for. -/
def ofWord? (word : String) : Option Dimension := words.lookup word

end Dimension

/-- A clause that is a single word. -/
inductive Flag where
  /-- A thicker outline. -/
  | thick
  /-- A thinner outline. -/
  | thin
  /-- An outline without gaps. -/
  | solid
  /-- No outline. -/
  | invisible
  /-- A size that fits the text. -/
  | fit
  /-- Ends cut off at the outlines of the objects they refer to. -/
  | chop
  /-- A path that returns to its start. -/
  | close
  /-- An arc that turns right. -/
  | cw
  /-- An arc that turns left. -/
  | ccw
  deriving DecidableEq, Repr

namespace Flag

/-- The words for the flags. -/
def words : List (String × Flag) :=
  [("thick", thick), ("thin", thin), ("solid", solid), ("invisible", invisible),
    ("invis", invisible), ("fit", fit), ("chop", chop), ("close", close), ("cw", cw), ("ccw", ccw)]

/-- The full word for a flag. -/
def name : Flag → String
  | thick => "thick"
  | thin => "thin"
  | solid => "solid"
  | invisible => "invisible"
  | fit => "fit"
  | chop => "chop"
  | close => "close"
  | cw => "cw"
  | ccw => "ccw"

/-- The flag a word stands for. -/
def ofWord? (word : String) : Option Flag := words.lookup word

end Flag

/-- What a declaration says about its object. -/
inductive Clause where
  /-- A line of text. -/
  | text (line : TextLine)
  /-- Heads at the ends of its path. -/
  | arrow (heads : ArrowHeads)
  /-- A dimension, perhaps as a percentage of the usual one. -/
  | size (dimension : Dimension) (value : Scalar)
  /-- The thickness of its outline. -/
  | thickness (value : Scalar)
  /-- A single word. -/
  | flag (flag : Flag)
  /-- An outline of dots, perhaps with their distance. -/
  | dotted (distance : Option Scalar)
  /-- An outline of dashes, perhaps with their length. -/
  | dashed (length : Option Scalar)
  /-- What its area is painted with. -/
  | fill (value : Scalar)
  /-- What its outline is painted with. -/
  | color (value : Scalar)
  /-- Sizes and style of another object: the one named, or else the latest of its class. -/
  | same (source : Option ObjectRef)
  /-- Where its center lies. -/
  | located (position : Position)
  /-- Where an anchor of it lies. -/
  | anchored (anchor : Anchor) (position : Position)
  /-- Where its path starts. -/
  | start (position : Position)
  /-- A point its path runs to. -/
  | target (position : Position)
  /-- The next stretch of its path. -/
  | next
  /-- A stretch in a direction, perhaps with its length. -/
  | direction (direction : Direction) (distance : Option Scalar)
  /-- A stretch in a direction, until level with a point. -/
  | directionUntil (direction : Direction) (position : Position)
  /-- A stretch in a direction given by an angle, perhaps with its length. -/
  | heading (angle : Scalar) (distance : Option Scalar)
  /-- A stretch in the direction of travel, until level with a point. -/
  | untilEven (position : Position)
  /-- A stretch of the given length in the direction of travel. -/
  | distance (value : Scalar)

namespace Clause

/-- The word that names a clause. -/
def keyword : Clause → String
  | text _ => "text"
  | arrow _ => "arrow"
  | size d _ => d.name
  | thickness _ => "thickness"
  | flag f => f.name
  | dotted _ => "dotted"
  | dashed _ => "dashed"
  | fill _ => "fill"
  | color _ => "color"
  | same _ => "same"
  | located _ => "at"
  | anchored .. => "with"
  | start _ => "from"
  | target _ => "to"
  | next => "then"
  | direction .. => "direction"
  | directionUntil .. => "direction"
  | heading .. => "heading"
  | untilEven _ => "until"
  | distance _ => "distance"

/-- How a message refers to a clause. -/
def shown : Clause → String
  | arrow h => h.sign
  | direction d _ => d.name
  | directionUntil d _ => d.name
  | distance _ => "a bare distance"
  | c => c.keyword

end Clause

/-- A clause and its place. -/
structure Attribute where
  /-- The place of its first word. -/
  pos : SourcePos
  /-- What it says. -/
  clause : Clause

/-! ## Which classes take which clauses -/

/-- The clauses that nearly all classes take. -/
def commonClauses : List String :=
  ["text", "at", "with", "same", "thickness", "thick", "thin", "color", "solid", "dotted",
    "dashed", "invisible"]

/-- The clauses of framed objects. -/
def framedClauses : List String := commonClauses ++ ["width", "height", "fill", "fit"]

/-- The clauses that describe a path. -/
def pathClauses : List String :=
  ["from", "to", "then", "direction", "heading", "until", "distance"]

/-- The clauses of drawn paths. -/
def lineClauses : List String :=
  commonClauses ++ pathClauses ++ ["arrow", "chop", "close", "radius", "fill"]

/-- The clauses that objects of a class take. -/
def acceptedClauses : ObjectClass → List String
  | .box => "radius" :: framedClauses
  | .circle => "radius" :: "diameter" :: framedClauses
  | .ellipse => framedClauses
  | .oval => framedClauses
  | .diamond => framedClauses
  | .cylinder => "radius" :: framedClauses
  | .file => "radius" :: framedClauses
  | .dot => commonClauses ++ ["radius", "diameter", "fill"]
  | .text => framedClauses
  | .line | .arrow | .spline => lineClauses
  | .move => pathClauses ++ ["text", "at", "with", "same"]
  | .arc => commonClauses ++ ["from", "to", "cw", "ccw", "arrow", "chop", "radius"]
  | .container => ["at", "with", "width", "height", "same", "invisible"]

/-- Whether objects of a class take a clause. -/
def ObjectClass.accepts (cls : ObjectClass) (c : Clause) : Bool :=
  (acceptedClauses cls).contains c.keyword

/-- How a message refers to the objects of a class. -/
def ObjectClass.noun : ObjectClass → String
  | .container => "container"
  | cls => cls.name

/-! ## Statements -/

/-- How an assignment changes a variable. -/
inductive AssignOp where
  /-- It takes the value. -/
  | set
  /-- The value is added. -/
  | add
  /-- The value is subtracted. -/
  | sub
  /-- It is multiplied by the value. -/
  | mul
  /-- It is divided by the value. -/
  | div
  deriving DecidableEq, Repr

namespace AssignOp

/-- The sign of an assignment. -/
def sign : AssignOp → String
  | set => "="
  | add => "+="
  | sub => "-="
  | mul => "*="
  | div => "/="

/-- The assignment with the given sign. -/
def ofSign (text : String) : AssignOp :=
  if text = "+=" then add
  else if text = "-=" then sub
  else if text = "*=" then mul
  else if text = "/=" then div
  else set

/-- The operation on the old value and the given one, unless the given one is taken as it is. -/
def operation? : AssignOp → Option BinaryOp
  | set => none
  | add => some .add
  | sub => some .sub
  | mul => some .mul
  | div => some .div

/-- Every assignment is found under its sign. -/
theorem ofSign_sign (op : AssignOp) : ofSign op.sign = op := by
  cases op <;> decide

end AssignOp

/-- What is printed. -/
inductive PrintItem where
  /-- A text, as it is. -/
  | text (s : String)
  /-- The value of an expression. -/
  | value (e : Scalar)

/-- One instruction of a script. -/
inductive Statement where
  /-- Declares an object. -/
  | object (pos : SourcePos) (cls : ObjectClass) (label : Option String)
    (attributes : List Attribute)
  /-- Declares a group of the objects that some statements declare. -/
  | group (pos : SourcePos) (body : List Statement) (label : Option String)
    (attributes : List Attribute)
  /-- Sets a variable. -/
  | assign (pos : SourcePos) (name : String) (op : AssignOp) (value : Scalar)
  /-- Sets the direction of travel. -/
  | direction (pos : SourcePos) (direction : Direction)
  /-- Prints a message. -/
  | print (pos : SourcePos) (items : List PrintItem)
  /-- Asserts that two numbers are nearly equal. -/
  | assertScalars (pos : SourcePos) (left right : Scalar)
  /-- Asserts that two points are nearly equal. -/
  | assertPositions (pos : SourcePos) (left right : Position)
  /-- Gives a label to a point. -/
  | place (pos : SourcePos) (label : String) (position : Position)

/-- The place of a statement. -/
def Statement.pos : Statement → SourcePos
  | object p .. => p
  | group p .. => p
  | assign p .. => p
  | direction p _ => p
  | print p _ => p
  | assertScalars p .. => p
  | assertPositions p .. => p
  | place p .. => p

end DiagramScript
