import DiagramScript.Diagram

/-!
# The canvas

Diagrams are measured in inches with the y axis upward, documents in pixels with the
y axis downward.

* `Canvas` — where a diagram lies on the canvas; `Canvas.ofDiagram` leaves room for its
  outlines and a margin.
* `Canvas.point`, `Canvas.length` — from inches to pixels.
* `numeral` — how numbers are written: whole numbers without a fraction, others with
  three digits after the point at most.
-/

namespace DiagramScript

namespace Svg

variable {K : Type} [Arith K]

/-! ## Numbers -/

/-- The text of a number; it fails for numbers that are not finite. -/
def numeral (x : K) : Except Fault String := (Arith.compact 3 (Arith.num 0) x).map String.ofList

/-! ## The canvas -/

/-- Where a diagram lies on its canvas, and what else its variables say. -/
structure Canvas (K : Type) where
  /-- How many pixels an inch has. -/
  pixels : K
  /-- How far a line of text is from the next. -/
  charHeight : K
  /-- How wide the head of an arrow is. -/
  arrowWidth : K
  /-- How long the head of an arrow is. -/
  arrowHeight : K
  /-- What lies at the left side of the canvas. -/
  minX : K
  /-- What lies at its upper side. -/
  maxY : K
  /-- How wide it is, in pixels. -/
  width : K
  /-- How high it is, in pixels. -/
  height : K

/-- How far an object may reach beyond its box. -/
def reach (arrowHeight : K) (o : Object K) : K :=
  let stroke := Arith.half o.style.thickness
  if o.style.arrowStart || o.style.arrowEnd then Arith.greatest stroke arrowHeight else stroke

/-- How far any of some objects may reach beyond its box. -/
def strokePad (arrowHeight : K) (os : List (Object K)) : K :=
  os.foldl (fun pad o => Arith.greatest pad (reach arrowHeight o)) (Arith.num 0)

namespace Canvas

/-- The canvas of a diagram. -/
def ofDiagram (d : Diagram K) (scale margin : K) : Canvas K :=
  let pixels := pixelsPerInch * scale
  let arrowHeight := d.variableOr "arrowht" 8 2
  let zero : K := Arith.num 0
  let box := d.box.getD ⟨zero, zero, zero, zero⟩
  let pad := margin + strokePad arrowHeight d.allObjects
  { pixels := pixels
    charHeight := d.variableOr "charht" 14 2 * d.variableOr "fontscale" 1 0
    arrowWidth := d.variableOr "arrowwid" 5 2
    arrowHeight := arrowHeight
    minX := box.minX - pad
    maxY := box.maxY + pad
    width := (box.maxX - box.minX + Arith.twice pad) * pixels
    height := (box.maxY - box.minY + Arith.twice pad) * pixels }

/-- A point in pixels. -/
def point (c : Canvas K) (p : Point K) : Point K :=
  ⟨(p.x - c.minX) * c.pixels, (c.maxY - p.y) * c.pixels⟩

/-- A length in pixels. -/
def length (c : Canvas K) (x : K) : K := x * c.pixels

/-- The text of a length. -/
def lengthText (c : Canvas K) (x : K) : Except Fault String := numeral (c.length x)

/-- The text of a point: its coordinates with a comma between them. -/
def pointText (c : Canvas K) (p : Point K) : Except Fault String := do
  let q := c.point p
  let x ← numeral q.x
  let y ← numeral q.y
  .ok (x ++ "," ++ y)

/-- The text of several points. -/
def pointsText (c : Canvas K) (ps : List (Point K)) : Except Fault String := do
  let texts ← ps.mapM c.pointText
  .ok (" ".intercalate texts)

end Canvas

end Svg

end DiagramScript
