import DiagramScript.Geometry.Point
import DiagramScript.Text.Lowercase

/-!
# Anchors

The named places of a figure: the eight points of the compass on its outline, its
center, and the two ends of its path.

* `Compass`, `Spot`, `Anchor` — eight points, nine with the center, eleven with the
  two ends.  `Anchor.ofWord?` reads the words that scripts use for them and
  `Anchor.ofName?` reads them without regard to case; `Anchor.ofWord?_name` says that
  every anchor is found under its name.
* `rectAnchor`, `roundAnchor`, `diamondAnchor` — where a spot lies on the frame of a
  figure, on the ellipse inscribed in it, and on the diamond inscribed in it.
-/

namespace DiagramScript

/-! ## Names of places -/

/-- A point of the compass. -/
inductive Compass where
  /-- North. -/
  | n
  /-- North-east. -/
  | ne
  /-- East. -/
  | e
  /-- South-east. -/
  | se
  /-- South. -/
  | s
  /-- South-west. -/
  | sw
  /-- West. -/
  | w
  /-- North-west. -/
  | nw
  deriving DecidableEq, Repr

namespace Compass

/-- The eight points, clockwise from north. -/
def all : List Compass := [n, ne, e, se, s, sw, w, nw]

/-- The short name of a point. -/
def name : Compass → String
  | n => "n"
  | ne => "ne"
  | e => "e"
  | se => "se"
  | s => "s"
  | sw => "sw"
  | w => "w"
  | nw => "nw"

/-- On which side of the center the point lies, along x and along y. -/
def signs : Compass → Int × Int
  | n => (0, 1)
  | ne => (1, 1)
  | e => (1, 0)
  | se => (1, -1)
  | s => (0, -1)
  | sw => (-1, -1)
  | w => (-1, 0)
  | nw => (-1, 1)

/-- The heading of a point in degrees, clockwise from north. -/
def degrees : Compass → Nat
  | n => 0
  | ne => 45
  | e => 90
  | se => 135
  | s => 180
  | sw => 225
  | w => 270
  | nw => 315

/-- The point with the given short name. -/
def ofName? (word : String) : Option Compass := all.find? (·.name = word)

/-- Whether the point lies at a corner of the frame. -/
def isCorner (c : Compass) : Bool := c.signs.1 ≠ 0 && c.signs.2 ≠ 0

end Compass

/-- A place fixed by the frame of a figure. -/
inductive Spot where
  /-- The middle. -/
  | center
  /-- A point of the compass. -/
  | compass (c : Compass)
  deriving DecidableEq, Repr

namespace Spot

/-- The short name of a spot. -/
def name : Spot → String
  | center => "c"
  | compass c => c.name

/-- On which side of the center the spot lies. -/
def signs : Spot → Int × Int
  | center => (0, 0)
  | compass c => c.signs

/-- Whether the spot lies at a corner of the frame. -/
def isCorner : Spot → Bool
  | center => false
  | compass c => c.isCorner

/-- The spot with the given short name. -/
def ofName? (word : String) : Option Spot :=
  if word = "c" then some center else (Compass.ofName? word).map compass

end Spot

/-- A named place of a figure. -/
inductive Anchor where
  /-- A place fixed by the frame. -/
  | spot (s : Spot)
  /-- Where the path of the figure starts. -/
  | start
  /-- Where it ends. -/
  | finish
  deriving DecidableEq, Repr

namespace Anchor

/-- The middle of a figure. -/
def center : Anchor := spot .center

/-- The anchor at a point of the compass. -/
def compass (c : Compass) : Anchor := spot (.compass c)

/-- The eleven anchors. -/
def all : List Anchor := Compass.all.map compass ++ [center, start, finish]

/-- The short name of an anchor. -/
def name : Anchor → String
  | spot s => s.name
  | start => "start"
  | finish => "end"

/-- Longer words for some of the anchors. -/
def aliases : List (String × Anchor) :=
  [("center", center), ("top", compass .n), ("t", compass .n), ("bottom", compass .s),
    ("b", compass .s), ("left", compass .w), ("right", compass .e), ("north", compass .n),
    ("south", compass .s), ("east", compass .e), ("west", compass .w)]

/-- All words for anchors. -/
def words : List (String × Anchor) := aliases ++ all.map fun a => (a.name, a)

/-- The anchor a word stands for. -/
def ofWord? (word : String) : Option Anchor := words.lookup word

/-- The anchor a word stands for, without regard to case. -/
def ofName? (word : String) : Option Anchor := ofWord? (lowercase word)

/-- What is said of a word that stands for no anchor. -/
def unknownMessage (word : String) : String := "unknown anchor name: " ++ word

/-- Every anchor is found under its name. -/
theorem ofWord?_name : ∀ a ∈ all, ofWord? a.name = some a := by
  decide

/-- Every anchor is listed. -/
theorem mem_all (a : Anchor) : a ∈ all := by
  rcases a with (_ | c) | _ | _
  · decide
  · cases c <;> decide
  · decide
  · decide

end Anchor

/-! ## Where anchors lie -/

variable {K : Type} [Arith K]

/-- A spot of a frame with the given center, width and height. -/
def rectAnchor (center : Point K) (width height : K) (spot : Spot) : Point K :=
  let (sx, sy) := spot.signs
  ⟨center.x + Arith.half (Arith.ofInt sx * width),
    center.y + Arith.half (Arith.ofInt sy * height)⟩

/-- A spot of the ellipse inscribed in a frame: its corners are drawn in along the diagonals. -/
def roundAnchor (center : Point K) (width height : K) (spot : Spot) : Point K :=
  if spot.isCorner then
    let (sx, sy) := spot.signs
    ⟨center.x + Arith.half (Arith.ofInt sx * width) * Arith.invSqrtTwo,
      center.y + Arith.half (Arith.ofInt sy * height) * Arith.invSqrtTwo⟩
  else rectAnchor center width height spot

/-- A spot of the diamond inscribed in a frame: its corners are the middles of its sides. -/
def diamondAnchor (center : Point K) (width height : K) (spot : Spot) : Point K :=
  if spot.isCorner then
    let (sx, sy) := spot.signs
    ⟨center.x + Arith.ofInt sx * width / Arith.num 4,
      center.y + Arith.ofInt sy * height / Arith.num 4⟩
  else rectAnchor center width height spot

namespace Direction

/-- The side of a figure that travel in the given direction leaves it by. -/
def exitSide : Direction → Compass
  | right => .e
  | down => .s
  | left => .w
  | up => .n

/-- The side of a figure that travel in the given direction enters it by. -/
def entrySide (d : Direction) : Compass := d.opposite.exitSide

end Direction

end DiagramScript
