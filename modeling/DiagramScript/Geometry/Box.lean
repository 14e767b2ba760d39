import DiagramScript.Geometry.Point

/-!
# Bounding boxes

Boxes with sides along the axes, and the least box that holds a set of points or of
other boxes.

* `Box` — its four sides; `Box.center`, `Box.width` and `Box.height` are read off them.
* `Box.merge` — the least box that holds two others, where either may be missing:
  `merge_none_left` and `merge_none_right` are its two units.
* `Box.ofPoints` — the least box that holds the points of a path.
* `Box.ofFrame` — the box of a figure with a given center, width and height.
-/

namespace DiagramScript

/-- A box with sides along the axes. -/
@[ext]
structure Box (K : Type) where
  /-- The left side. -/
  minX : K
  /-- The lower side. -/
  minY : K
  /-- The right side. -/
  maxX : K
  /-- The upper side. -/
  maxY : K
  deriving Repr, DecidableEq

namespace Box

variable {K : Type} [Arith K]

/-- The box that holds a single point. -/
def ofPoint (p : Point K) : Box K := ⟨p.x, p.y, p.x, p.y⟩

/-- The box of a figure with a center, a width and a height. -/
def ofFrame (center : Point K) (width height : K) : Box K :=
  let w := Arith.half width
  let h := Arith.half height
  ⟨center.x - w, center.y - h, center.x + w, center.y + h⟩

/-- The least box that holds two boxes. -/
def union (a b : Box K) : Box K :=
  ⟨Arith.least a.minX b.minX, Arith.least a.minY b.minY,
    Arith.greatest a.maxX b.maxX, Arith.greatest a.maxY b.maxY⟩

/-- The least box that holds two boxes, either of which may be missing. -/
def merge : Option (Box K) → Option (Box K) → Option (Box K)
  | a, none => a
  | none, b => b
  | some a, some b => some (a.union b)

@[simp] theorem merge_none_right (a : Option (Box K)) : merge a none = a := by
  cases a <;> rfl

@[simp] theorem merge_none_left (b : Option (Box K)) : merge none b = b := by
  cases b <;> rfl

@[simp] theorem merge_some (a b : Box K) : merge (some a) (some b) = some (a.union b) := rfl

/-- The least box that holds all boxes of a list, starting from one that may be missing. -/
def mergeAll (start : Option (Box K)) (boxes : List (Box K)) : Option (Box K) :=
  boxes.foldl (fun acc b => merge acc (some b)) start

/-- The least box that holds all points of a list. -/
def ofPoints (ps : List (Point K)) : Option (Box K) := mergeAll none (ps.map ofPoint)

/-- A list without points has no box. -/
@[simp] theorem ofPoints_nil : ofPoints ([] : List (Point K)) = none := rfl

/-- The middle of a box. -/
def center (b : Box K) : Point K := ⟨Arith.half (b.minX + b.maxX), Arith.half (b.minY + b.maxY)⟩

/-- The width of a box. -/
def width (b : Box K) : K := b.maxX - b.minX

/-- The height of a box. -/
def height (b : Box K) : K := b.maxY - b.minY

end Box

end DiagramScript
