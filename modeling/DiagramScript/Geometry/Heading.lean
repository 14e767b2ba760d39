import DiagramScript.Geometry.Anchor

/-!
# Headings

A heading is an angle in degrees, clockwise from north.

* `headingVector` — the unit vector of a heading.  Its components are snapped to a
  whole number they are within a millionth of a millionth of, so that right angles
  give vectors along the axes.
* `compassVector` — the unit vector toward a point of the compass.
-/

namespace DiagramScript

variable {K : Type} [Arith K]

/-- How near to a whole number a component counts as that number. -/
def snapTolerance : K := Arith.dec 1 12

/-- The nearest integer, when the number is within the tolerance of it. -/
def snap (x : K) : Except Fault K := do
  let n ← Arith.nearest x
  if Arith.close Arith.billionth snapTolerance x (Arith.ofInt n) then .ok (Arith.ofInt n)
  else .ok x

/-- The unit vector of a heading in degrees. -/
def headingVector (degrees : K) : Except Fault (Point K) :=
  if Arith.isFinite degrees || Arith.isNaN degrees then do
    let x ← snap (Arith.sinDegrees degrees)
    let y ← snap (Arith.cosDegrees degrees)
    .ok ⟨x, y⟩
  else .error .domain

/-- The unit vector toward a point of the compass. -/
def compassVector (c : Compass) : Except Fault (Point K) := headingVector (Arith.num c.degrees)

end DiagramScript
