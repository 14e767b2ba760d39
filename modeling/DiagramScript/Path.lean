import DiagramScript.Diagnostic
import DiagramScript.Geometry.Heading

/-!
# Paths

The points of a line are given by clauses: where it starts, the points it runs to, and
stretches in some direction.  Stretches that follow each other are added up and make
one point.

* `Segment`, `Path` — the clauses collected so far.
* `Path.setOrigin`, `Path.addTarget`, `Path.next?`, `Path.move`, `Path.extend`,
  `Path.heading`, `Path.untilEven`, `Path.close` — one function per clause.
* `Path.build` — the points, one for each segment that is not empty, and the direction
  in which the path ends; a `Halt` tells that direction also if there are no points.
* `arcPoints` — start, control point and end of a quarter turn.
-/

namespace DiagramScript

variable {K : Type} [Arith K]

/-! ## Clauses of a path -/

/-- A stretch of a path. -/
inductive Move (K : Type) where
  /-- In a direction, for the given length or for the usual one. -/
  | straight (direction : Direction) (distance : Option K)
  /-- In a direction given by an angle. -/
  | heading (degrees : K) (distance : Option K)
  /-- In a direction, until level with a point. -/
  | untilEven (direction : Direction) (target : Point K)
  deriving Repr

/-- What lies between two points of a path. -/
inductive Segment (K : Type) where
  /-- The path runs straight to a point. -/
  | target (p : Point K)
  /-- The path runs where some stretches lead, the first of them last; with none of them the
  segment is empty. -/
  | moves (latestFirst : List (Move K))
  deriving Repr

/-- Whether a segment leads nowhere. -/
def Segment.isEmpty : Segment K → Bool
  | target _ => false
  | moves ms => ms.isEmpty

/-- The clauses of a path. -/
structure Path (K : Type) where
  /-- The direction of travel. -/
  direction : Direction
  /-- The usual length of a stretch. -/
  unit : Direction → K
  /-- Where the path starts, if that is said. -/
  origin : Option (Point K) := none
  /-- The segments before the last. -/
  earlier : List (Segment K) := []
  /-- The last segment, to which stretches are added. -/
  current : Segment K := .moves []
  /-- Whether the path returns to its start. -/
  closed : Bool := false

namespace Path

/-- All segments. -/
def segments (p : Path K) : List (Segment K) := p.earlier ++ [p.current]

/-- Whether no segment leads anywhere. -/
def isBare (p : Path K) : Bool := p.segments.all Segment.isEmpty

/-- Whether anything is said about where the path runs. -/
def hasDirectives (p : Path K) : Bool := p.origin.isSome || !p.isBare

/-- Starts the path at a point. -/
def setOrigin (p : Path K) (start : Point K) : Path K := { p with origin := some start }

/-- Ends the last segment, and begins an empty one. -/
def beginSegment (p : Path K) : Path K :=
  { p with earlier := p.earlier ++ [p.current], current := .moves [] }

/-- Runs the path straight to a point. -/
def addTarget (p : Path K) (target : Point K) : Path K :=
  let p := if p.current.isEmpty then p else p.beginSegment
  { p with current := .target target }

/-- Ends the last segment; it must not be empty. -/
def next? (p : Path K) : Option (Path K) := if p.current.isEmpty then none else some p.beginSegment

/-- Adds a stretch to the last segment, or to a new one if the last runs straight to a point. -/
def addMove (p : Path K) (m : Move K) : Path K :=
  match p.current with
  | .moves ms => { p with current := .moves (m :: ms) }
  | .target _ => { p.beginSegment with current := .moves [m] }

/-- Adds a stretch in a direction, which becomes the direction of travel. -/
def move (p : Path K) (d : Direction) (distance : Option K) : Path K :=
  { p.addMove (.straight d distance) with direction := d }

/-- Adds a stretch of the given length in the direction of travel. -/
def extend (p : Path K) (distance : K) : Path K := p.move p.direction (some distance)

/-- Adds a stretch in a direction given by an angle. -/
def heading (p : Path K) (degrees : K) (distance : Option K) : Path K :=
  p.addMove (.heading degrees distance)

/-- Adds a stretch until level with a point, in a new direction of travel or in the old one. -/
def untilEven (p : Path K) (d : Option Direction) (target : Point K) : Path K :=
  let p := { p with direction := d.getD p.direction }
  p.addMove (.untilEven p.direction target)

/-- Lets the path return to its start. -/
def close (p : Path K) : Path K := { p with closed := true }

/-! ## Points of a path -/

/-- Why a path leads no further, and the direction in which it ends there. -/
structure Halt where
  /-- Why it leads no further. -/
  fault : Fault
  /-- The direction of the last stretch before. -/
  exit : Option Direction
  deriving DecidableEq, Repr

/-- Where some stretches lead, as a vector, and the direction in which they end; a heading ends
in none. -/
structure Reach (K : Type) where
  /-- How far to the right. -/
  dx : K
  /-- How far up. -/
  dy : K
  /-- The direction of the last stretch. -/
  exit : Option Direction

/-- Where the path leads after one more stretch, when the stretches start at `start`. -/
def step (p : Path K) (start : Point K) (r : Reach K) : Move K → Except Halt (Reach K)
  | .heading degrees distance => do
    let length := distance.getD (p.unit .right)
    let v ← (headingVector degrees).mapError fun f => { fault := f, exit := r.exit : Halt }
    .ok ⟨r.dx + v.x * length, r.dy + v.y * length, none⟩
  | .untilEven d target =>
    .ok (if d.horizontal then ⟨target.x - start.x, r.dy, some d⟩
      else ⟨r.dx, target.y - start.y, some d⟩)
  | .straight d distance =>
    let length := distance.getD (p.unit d)
    let v : Point K := d.vector
    .ok ⟨r.dx + v.x * length, r.dy + v.y * length, some d⟩

/-- The point that stretches in the given order lead to, and the direction in which they end;
without any of them the direction stays. -/
def resolveMoves (p : Path K) (start : Point K) (exit : Option Direction) (ms : List (Move K)) :
    Except Halt (Point K × Option Direction) := do
  let r ← ms.foldlM (p.step start) ⟨Arith.num 0, Arith.num 0, exit⟩
  .ok (⟨start.x + r.dx, start.y + r.dy⟩, r.exit)

/-- The points that some segments lead to one after the other, and the direction in which the
last of them ends. -/
def follow (p : Path K) (here : Point K) (exit : Option Direction) :
    List (Segment K) → Except Halt (List (Point K) × Option Direction)
  | [] => .ok ([], exit)
  | .target t :: rest => do
    let r ← follow p t none rest
    .ok (t :: r.1, r.2)
  | .moves [] :: rest => follow p here exit rest
  | .moves (m :: ms) :: rest => do
    let q ← p.resolveMoves here exit (m :: ms).reverse
    let r ← follow p q.1 q.2 rest
    .ok (q.1 :: r.1, r.2)

/-- The points with a copy of the first at the end, if the path returns to its start and is not
there already. -/
def closeUp (closed : Bool) (points : List (Point K)) : List (Point K) :=
  match points.head?, points.getLast? with
  | some first, some last =>
    if closed && decide (2 < points.length) && !last.same first then points ++ [first] else points
  | _, _ => points

/-- The points of the path, from its origin or else from `start`, and the direction in which it
ends.  A path about which nothing is said goes one usual length in the direction of travel. -/
def build (p : Path K) (start : Point K) :
    Except Halt (List (Point K) × Option Direction) := do
  let origin := p.origin.getD start
  let r ← p.follow origin none p.segments
  if r.1.isEmpty then
    let v : Point K := p.direction.vector
    .ok (closeUp p.closed [origin, origin.plus (v.scale (p.unit p.direction))], some p.direction)
  else .ok (closeUp p.closed (origin :: r.1), r.2)

end Path

/-! ## Arcs -/

/-- Where a quarter turn ends that starts in a direction. -/
def arcEnd (start : Point K) (direction : Direction) (radius : K) (clockwise : Bool) : Point K :=
  let v : Point K := direction.vector
  let side : Point K := if clockwise then ⟨v.y, -v.x⟩ else ⟨-v.y, v.x⟩
  ⟨start.x + radius * (v.x + side.x), start.y + radius * (v.y + side.y)⟩

/-- Start, control point and end of a quarter turn.  If it is not said where it ends, it starts
in the given direction and has the given radius. -/
def arcPoints (start : Point K) (finish : Option (Point K)) (direction : Direction) (radius : K)
    (clockwise : Bool) : List (Point K) :=
  let finish := finish.getD (arcEnd start direction radius clockwise)
  let mid := start.toward finish (Arith.dec 5 1)
  let cx := finish.x - start.x
  let cy := finish.y - start.y
  let reach := Arith.half (Arith.hypot cx cy)
  if Arith.isZero reach then [start, start, finish]
  else
    let nx := cx / Arith.twice reach
    let ny := cy / Arith.twice reach
    let normal : Point K := if clockwise then ⟨-ny, nx⟩ else ⟨ny, -nx⟩
    [start, ⟨mid.x + normal.x * reach, mid.y + normal.y * reach⟩, finish]

end DiagramScript
