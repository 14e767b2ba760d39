import DiagramScript.Diagnostic
import DiagramScript.Geometry.Anchor
import DiagramScript.LengthUnit

/-!
# Expressions, references and positions

What a script can say in the place of a number, of an object and of a point.  Every
node carries the place where it starts, so that a mistake found while evaluating it
can be pointed at.

* `ObjectRef` — an object, by label, by its place in its class, or as a member of a
  group.
* `Scalar`, `Position` — numbers and points; each may contain the other.  Functions
  of numbers take numbers and the distance takes points, so an argument is always of
  the right kind.
* `Scalar.pos`, `Position.pos`, `ObjectRef.pos` — the place of a node.
-/

namespace DiagramScript

/-! ## References to objects -/

/-- How one object of a scope is picked. -/
inductive Selector where
  /-- By its label. -/
  | label (name : String)
  /-- By its place in its class, from the first or from the last. -/
  | ordinal (cls : ObjectClass) (n : Nat) (fromLast : Bool)
  deriving DecidableEq, Repr

/-- A reference to an object. -/
inductive ObjectRef where
  /-- The latest object of the scope. -/
  | previous (pos : SourcePos)
  /-- An object of the scope. -/
  | select (pos : SourcePos) (selector : Selector)
  /-- A member of a group. -/
  | member (pos : SourcePos) (group : ObjectRef) (memberPos : SourcePos) (selector : Selector)
  deriving DecidableEq, Repr

/-- The place of a reference. -/
def ObjectRef.pos : ObjectRef → SourcePos
  | previous p => p
  | select p _ => p
  | member p .. => p

/-! ## Numbers and points -/

/-- An operation on two numbers. -/
inductive BinaryOp where
  /-- The sum. -/
  | add
  /-- The difference. -/
  | sub
  /-- The product. -/
  | mul
  /-- The quotient. -/
  | div
  deriving DecidableEq, Repr

/-- The sign of an operation. -/
def BinaryOp.sign : BinaryOp → String
  | add => "+"
  | sub => "-"
  | mul => "*"
  | div => "/"

/-- A function of numbers. -/
inductive ScalarFunction where
  /-- The distance from zero. -/
  | abs
  /-- The cosine of an angle in degrees. -/
  | cos
  /-- The sine of an angle in degrees. -/
  | sin
  /-- The square root. -/
  | sqrt
  /-- The smaller of two numbers. -/
  | min
  /-- The larger of two numbers. -/
  | max
  /-- The integer part. -/
  | int
  deriving DecidableEq, Repr

namespace ScalarFunction

/-- The functions of numbers. -/
def all : List ScalarFunction := [abs, cos, sin, sqrt, min, max, int]

/-- The name of a function. -/
def name : ScalarFunction → String
  | abs => "abs"
  | cos => "cos"
  | sin => "sin"
  | sqrt => "sqrt"
  | min => "min"
  | max => "max"
  | int => "int"

/-- How many numbers a function takes. -/
def arity : ScalarFunction → Nat
  | min => 2
  | max => 2
  | _ => 1

/-- The function with the given name. -/
def ofName? (word : String) : Option ScalarFunction := all.find? (·.name = word)

end ScalarFunction

/-- The name of the function that takes points. -/
def distanceName : String := "dist"

/-- Whether a word is the name of a function. -/
def isFunctionName (word : String) : Bool :=
  word = distanceName || (ScalarFunction.ofName? word).isSome

/-- A coordinate of a point. -/
inductive Axis where
  /-- How far to the right. -/
  | x
  /-- How far up. -/
  | y
  deriving DecidableEq, Repr

/-- A measure of an object. -/
inductive Property where
  /-- Its width. -/
  | width
  /-- Its height. -/
  | height
  /-- Its radius. -/
  | radius
  /-- Twice its radius. -/
  | diameter
  /-- The thickness of its outline. -/
  | thickness
  deriving DecidableEq, Repr

namespace Property

/-- The words for the measures of an object. -/
def words : List (String × Property) :=
  [("width", width), ("wid", width), ("height", height), ("ht", height), ("radius", radius),
    ("rad", radius), ("diameter", diameter), ("thickness", thickness)]

/-- The full word for a measure. -/
def name : Property → String
  | width => "width"
  | height => "height"
  | radius => "radius"
  | diameter => "diameter"
  | thickness => "thickness"

/-- The measure a word stands for. -/
def ofWord? (word : String) : Option Property := words.lookup word

end Property

mutual

/-- An expression for a number. -/
inductive Scalar where
  /-- A literal, perhaps with a unit. -/
  | number (pos : SourcePos) (value : Decimal) (unit : Option LengthUnit)
  /-- A percentage. -/
  | percent (pos : SourcePos) (value : Decimal)
  /-- A variable. -/
  | var (pos : SourcePos) (name : String)
  /-- The number of a colour. -/
  | color (pos : SourcePos) (name : String)
  /-- A number with its sign changed. -/
  | neg (pos : SourcePos) (operand : Scalar)
  /-- An operation on two numbers. -/
  | binary (pos : SourcePos) (op : BinaryOp) (left right : Scalar)
  /-- A function of numbers. -/
  | call (pos : SourcePos) (function : ScalarFunction) (args : List Scalar)
  /-- The distance between points. -/
  | dist (pos : SourcePos) (args : List Position)
  /-- A coordinate of a point. -/
  | coordinate (pos : SourcePos) (position : Position) (axis : Axis)
  /-- A measure of an object. -/
  | property (pos : SourcePos) (ref : ObjectRef) (property : Property)

/-- An expression for a point. -/
inductive Position where
  /-- A point by its coordinates. -/
  | pair (pos : SourcePos) (x y : Scalar)
  /-- The middle or an anchor of an object, or a place with a label. -/
  | object (pos : SourcePos) (ref : ObjectRef) (anchor : Option Anchor)
  /-- A point of a path, counted from its start or from its end. -/
  | vertex (pos : SourcePos) (n : Nat) (ref : ObjectRef) (fromLast : Bool)
  /-- A point moved by a vector, or by its opposite. -/
  | offset (pos : SourcePos) (base : Position) (dx dy : Scalar) (backward : Bool)
  /-- One coordinate of each of two points. -/
  | mix (pos : SourcePos) (xSource ySource : Position)
  /-- A point at a distance toward a point of the compass. -/
  | relative (pos : SourcePos) (distance : Scalar) (side : Compass) (base : Position)
  /-- A point at a distance in a direction. -/
  | heading (pos : SourcePos) (distance angle : Scalar) (base : Position)
  /-- A point between two others; halfway if it is not said where. -/
  | between (pos : SourcePos) (fraction : Option Scalar) (a b : Position)

end

/-- The place of an expression. -/
def Scalar.pos : Scalar → SourcePos
  | number p .. => p
  | percent p _ => p
  | var p _ => p
  | color p _ => p
  | neg p _ => p
  | binary p .. => p
  | call p .. => p
  | dist p _ => p
  | coordinate p .. => p
  | property p .. => p

/-- The place of a position. -/
def Position.pos : Position → SourcePos
  | pair p .. => p
  | object p .. => p
  | vertex p .. => p
  | offset p .. => p
  | mix p .. => p
  | relative p .. => p
  | heading p .. => p
  | between p .. => p

end DiagramScript
