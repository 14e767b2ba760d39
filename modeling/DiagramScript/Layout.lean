import DiagramScript.Diagram
import DiagramScript.Json.Basic

/-!
# Layouts

The layout of a diagram as a document: where its objects are, how large they are and
how they look.  Fields stand in a fixed order, and fields without content are left out.

* `Layout.ofObject` — one object.
* `Layout.ofDiagram` — all objects, each group before its members, the bounding box and
  the messages.
-/

namespace DiagramScript

namespace Layout

variable {K : Type}

/-- A point: its two coordinates. -/
def ofPoint (p : Point K) : Json K := .array [.number p.x, .number p.y]

/-- A box: its lower left and its upper right corner. -/
def ofBox (b : Box K) : Json K :=
  .array [.number b.minX, .number b.minY, .number b.maxX, .number b.maxY]

/-- A paint: its three channels, or nothing. -/
def ofPaint (p : Paint) : Json K :=
  Json.optional (fun c => .array [.nat c.red, .nat c.green, .nat c.blue]) p

/-- A style. -/
def ofStyle (s : Style K) : Json K :=
  .object [
    ("color", ofPaint s.color),
    ("fill", ofPaint s.fill),
    ("thickness", .number s.thickness),
    ("dashed", .optional .number s.dashed),
    ("dotted", .optional .number s.dotted),
    ("invisible", .bool s.invisible),
    ("arrow_start", .bool s.arrowStart),
    ("arrow_end", .bool s.arrowEnd),
    ("closed", .bool s.closed)]

/-- A line of text. -/
def ofTextLine (line : TextLine) : Json K :=
  .object [
    ("text", .str line.text),
    ("justify", .str line.justification.name),
    ("flags", .list (fun m => .str m.name) line.shownMarks)]

variable [Arith K]

/-- The fields that every object has. -/
def commonFields (o : Object K) : List (String × Json K) := [
  ("id", .nat o.id),
  ("class", .str o.cls.name),
  ("ordinal", .nat o.ordinal),
  ("label", .optional .str o.label),
  ("center", ofPoint o.center),
  ("width", .number o.width),
  ("height", .number o.height),
  ("style", ofStyle o.style),
  ("text", .list ofTextLine o.text)]

/-- The fields that only some objects have. -/
def specialFields (o : Object K) : List (String × Json K) :=
  (if Arith.isZero o.radius then [] else [("radius", .number o.radius)])
  ++ (if o.cls.isLine then [("points", .list ofPoint o.points)] else [])
  ++ (match o.parent with
    | none => []
    | some p => [("parent", .nat p)])
  ++ (if o.children.isEmpty then [] else [("children", .list .nat o.children)])

/-- One object. -/
def ofObject (o : Object K) : Json K := .object (commonFields o ++ specialFields o)

/-- A diagram. -/
def ofDiagram (d : Diagram K) : Json K :=
  .object [
    ("bbox", .optional ofBox d.box),
    ("objects", .list ofObject d.allObjects),
    ("messages", .list .str d.messages)]

end Layout

end DiagramScript
