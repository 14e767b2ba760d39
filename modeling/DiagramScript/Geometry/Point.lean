import DiagramScript.Number.Arith

/-!
# Points of the plane

Coordinates are in inches, with the y axis pointing up.

* `Point` — a point, or the vector to it; `Point.shift`, `Point.scale` and
  `Point.toward` are the three ways of making one from another.
* `Point.distance` — the distance between two points.
* `Point.same`, `Point.stamp` — whether a path is back at a point it has been at.
* `Direction` — the four directions of travel, with their unit vectors.
-/

namespace DiagramScript

/-! ## Points -/

/-- A point, or the vector to it. -/
@[ext]
structure Point (K : Type) where
  /-- How far to the right. -/
  x : K
  /-- How far up. -/
  y : K
  deriving Repr, DecidableEq, Inhabited

namespace Point

variable {K : Type} [Arith K]

/-- The origin. -/
def origin : Point K := ⟨Arith.num 0, Arith.num 0⟩

/-- The point moved by `dx` and `dy`. -/
def shift (p : Point K) (dx dy : K) : Point K := ⟨p.x + dx, p.y + dy⟩

/-- The point moved by a vector. -/
def plus (p v : Point K) : Point K := p.shift v.x v.y

/-- The vector stretched by a factor. -/
def scale (v : Point K) (k : K) : Point K := ⟨v.x * k, v.y * k⟩

/-- The point that lies the given fraction of the way from `a` to `b`. -/
def toward (a b : Point K) (fraction : K) : Point K :=
  ⟨a.x + (b.x - a.x) * fraction, a.y + (b.y - a.y) * fraction⟩

/-- The distance between two points. -/
def distance (a b : Point K) : K := Arith.hypot (b.x - a.x) (b.y - a.y)

/-- Whether two points have equal coordinates.  An undefined coordinate equals its copies only. -/
def same (a b : Point K) : Bool := Arith.alike a.x b.x && Arith.alike a.y b.y

/-- The point, with coordinates whose copies are known again. -/
def stamp (m : Mark) (p : Point K) : Point K := ⟨Arith.stamp m p.x, Arith.stamp m p.y⟩

/-- Where numbers have no marks, neither have points. -/
theorem stamp_of_unmarked (h : ∀ (m : Mark) (x : K), Arith.stamp m x = x) (m : Mark)
    (p : Point K) : p.stamp m = p := by
  simp [stamp, h]

end Point

/-! ## Directions -/

/-- A direction of travel. -/
inductive Direction where
  /-- Toward larger x. -/
  | right
  /-- Toward smaller y. -/
  | down
  /-- Toward smaller x. -/
  | left
  /-- Toward larger y. -/
  | up
  deriving DecidableEq, Repr, Inhabited

namespace Direction

/-- The four directions. -/
def all : List Direction := [right, down, left, up]

/-- The word for a direction. -/
def name : Direction → String
  | right => "right"
  | down => "down"
  | left => "left"
  | up => "up"

/-- The direction a word stands for. -/
def ofName? (s : String) : Option Direction := all.find? (·.name = s)

/-- Every direction is found under its name. -/
theorem ofName?_name (d : Direction) : ofName? d.name = some d := by
  cases d <;> decide

/-- The way back. -/
def opposite : Direction → Direction
  | right => left
  | left => right
  | up => down
  | down => up

/-- Going back twice is going on. -/
@[simp] theorem opposite_opposite (d : Direction) : d.opposite.opposite = d := by
  cases d <;> rfl

/-- Whether travel is along the x axis. -/
def horizontal : Direction → Bool
  | right => true
  | left => true
  | _ => false

/-- The unit vector of a direction. -/
def vector {K : Type} [Arith K] : Direction → Point K
  | right => ⟨Arith.num 1, Arith.num 0⟩
  | down => ⟨Arith.num 0, -Arith.num 1⟩
  | left => ⟨-Arith.num 1, Arith.num 0⟩
  | up => ⟨Arith.num 0, Arith.num 1⟩

end Direction

end DiagramScript
