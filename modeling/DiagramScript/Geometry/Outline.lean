import DiagramScript.Geometry.Box

/-!
# Where a ray leaves a figure

Lines that run toward a figure are cut off at its outline.  The outline is a box, or
the ellipse inscribed in it.

* `rayCrossings` — the places where a ray crosses the sides of a box, each with its
  distance along the ray.
* `rayBoxIntersection` — the nearest of them.
* `ellipseBoundary` — the place where the ray leaves an ellipse.
* `outlinePoint` — the one or the other, or the center when the ray has no direction.
-/

namespace DiagramScript

variable {K : Type} [Arith K]

/-! ## Boxes -/

/-- A place on a ray. -/
structure Crossing (K : Type) where
  /-- How far along the ray, as a multiple of the way to the target. -/
  along : K
  /-- The place itself. -/
  point : Point K
  deriving Repr

/-- Below this a component of a direction counts as zero, and a place as no further along. -/
def rayTolerance : K := Arith.dec 1 12

/-- How far beyond the end of a side a crossing still counts. -/
def sideSlack : K := Arith.dec 1 9

/-- Where a ray from `(o, p)` in direction `(d, e)` reaches the line at `side` across the
first coordinate, provided it does so ahead and between `low` and `high` of the second. -/
def sideCrossing (o p d e side low high : K) : Option (K × K) :=
  let t := (side - o) / d
  if t ≤ rayTolerance then none
  else
    let q := p + t * e
    if low - sideSlack ≤ q ∧ q ≤ high + sideSlack then some (t, q) else none

/-- Where the ray from `origin` toward `target` crosses the sides of a box: left, right,
lower and upper, as far as it does. -/
def rayCrossings (origin target : Point K) (b : Box K) : List (Crossing K) :=
  let dx := target.x - origin.x
  let dy := target.y - origin.y
  let upright :=
    if rayTolerance < Arith.abs dx then
      [b.minX, b.maxX].filterMap fun x =>
        (sideCrossing origin.x origin.y dx dy x b.minY b.maxY).map fun c => ⟨c.1, ⟨x, c.2⟩⟩
    else []
  let level :=
    if rayTolerance < Arith.abs dy then
      [b.minY, b.maxY].filterMap fun y =>
        (sideCrossing origin.y origin.x dy dx y b.minX b.maxX).map fun c => ⟨c.1, ⟨c.2, y⟩⟩
    else []
  upright ++ level

/-- The nearer of two crossings; the first when neither is. -/
def Crossing.nearer (a b : Crossing K) : Crossing K := if b.along < a.along then b else a

/-- The nearest of some crossings. -/
def nearestCrossing : List (Crossing K) → Option (Crossing K)
  | [] => none
  | c :: cs => some (cs.foldl Crossing.nearer c)

/-- Whether a ray has no direction to speak of. -/
def noDirection (dx dy : K) : Bool :=
  decide (Arith.abs dx < rayTolerance) && decide (Arith.abs dy < rayTolerance)

/-- The first place where the ray from `origin` toward `target` leaves a box. -/
def rayBoxIntersection (origin target : Point K) (b : Box K) : Option (Point K) :=
  if noDirection (target.x - origin.x) (target.y - origin.y) then none
  else (nearestCrossing (rayCrossings origin target b)).map Crossing.point

/-! ## Ellipses -/

/-- The place where the ray from the center toward `target` leaves the ellipse inscribed in a
frame; the center itself if the ellipse is flat or the ray has no direction. -/
def ellipseBoundary (center : Point K) (width height : K) (target : Point K) :
    Except Fault (Point K) :=
  let dx := target.x - center.x
  let dy := target.y - center.y
  let a := Arith.half width
  let b := Arith.half height
  if a ≤ Arith.num 0 ∨ b ≤ Arith.num 0 ∨ noDirection dx dy = true then .ok center
  else do
    let u ← Arith.square (dx / a)
    let v ← Arith.square (dy / b)
    let t ← Arith.reciprocal (Arith.sqrt (u + v))
    .ok ⟨center.x + dx * t, center.y + dy * t⟩

/-! ## Figures -/

/-- The place where the ray from a figure's center toward `target` leaves its outline, which
is the ellipse inscribed in its frame or else the given box. -/
def outlinePoint (center : Point K) (width height : K) (target : Point K) ( isRound : Bool)
    (box : Box K) : Except Fault (Point K) :=
  if isRound then ellipseBoundary center width height target
  else .ok ((rayBoxIntersection center target box).getD center)

end DiagramScript
