import DiagramScript.Geometry.Anchor
import DiagramScript.Geometry.Box
import DiagramScript.Object.Class
import DiagramScript.Object.Style

/-!
# Objects of a drawing

* `Object` — one drawn thing, or a group; its coordinates are absolute.
* `Object.anchorPoint` — where its anchors lie: on its frame, on the ellipse or
  diamond inscribed in it, or at the ends of its path.
* `Object.box`, `Object.vertex?` — its bounding box and the points of its path.
* `Object.translate`, `Object.fitPath` — moving it, and taking center and size of a
  path from its points.
* `Object.stamp` — making its coordinates known again where they are copied.
-/

namespace DiagramScript

/-- One drawn thing, or a group of them. -/
structure Object (K : Type) where
  /-- The number of the object, in the order of creation. -/
  id : Nat
  /-- What kind of object it is. -/
  cls : ObjectClass
  /-- The direction of travel when it was declared. -/
  direction : Direction
  /-- The middle of its frame. -/
  center : Point K
  /-- The width of its frame. -/
  width : K
  /-- The height of its frame. -/
  height : K
  /-- The radius of its corners, or of itself. -/
  radius : K
  /-- How it is drawn. -/
  style : Style K
  /-- Its lines of text. -/
  text : List TextLine := []
  /-- Its label. -/
  label : Option String := none
  /-- How many objects of its class its scope held when it was finished, itself included. -/
  ordinal : Nat := 0
  /-- The group it belongs to. -/
  parent : Option Nat := none
  /-- The points of its path. -/
  points : List (Point K) := []
  /-- The members of the group. -/
  children : List Nat := []
  /-- Whether references can find it. -/
  finalized : Bool := false
  deriving Repr

namespace Object

variable {K : Type} [Arith K]

/-- A new object: it has no extent, and references cannot find it. -/
def placeholder (id : Nat) (cls : ObjectClass) (direction : Direction) : Object K where
  id := id
  cls := cls
  direction := direction
  center := Point.origin
  width := Arith.num 0
  height := Arith.num 0
  radius := Arith.num 0
  style := { color := some ⟨0, 0, 0⟩, fill := none, thickness := Arith.dec 15 3 }

/-! ## Anchors -/

/-- A place fixed by the frame of the object. -/
def spotPoint (o : Object K) (spot : Spot) : Point K :=
  if o.cls.isRound then roundAnchor o.center o.width o.height spot
  else if o.cls = .diamond then diamondAnchor o.center o.width o.height spot
  else rectAnchor o.center o.width o.height spot

/-- Whether the ends of the object are those of a path. -/
def hasPath (o : Object K) : Bool := o.cls.isLine && !o.points.isEmpty

/-- Where the object starts: the first point of its path, or the side it is entered by. -/
def start (o : Object K) : Point K :=
  match o.cls.isLine, o.points with
  | true, p :: _ => p
  | _, _ => o.spotPoint (.compass o.direction.entrySide)

/-- Where the object ends: the last point of its path, or the side it is left by. -/
def finish (o : Object K) : Point K :=
  match o.cls.isLine, o.points.getLast? with
  | true, some p => p
  | _, _ => o.spotPoint (.compass o.direction.exitSide)

/-- Where an anchor of the object lies. -/
def anchorPoint (o : Object K) : Anchor → Point K
  | .spot s => o.spotPoint s
  | .start => o.start
  | .finish => o.finish

/-! ## Extent -/

/-- The bounding box of the path of the object, or else its frame. -/
def box (o : Object K) : Box K :=
  let frame := Box.ofFrame o.center o.width o.height
  if o.cls.isLine then (Box.ofPoints o.points).getD frame else frame

/-- A point of the path, counted from one; objects that are no paths have none. -/
def vertex? (o : Object K) (n : Int) : Option (Point K) :=
  if o.cls.isLine ∧ 1 ≤ n then o.points[(n - 1).toNat]? else none

/-- The object moved by a vector. -/
def translate (o : Object K) (dx dy : K) : Object K :=
  { o with center := o.center.shift dx dy, points := o.points.map (·.shift dx dy) }

/-- The object with center, width and height of the bounding box of its path. -/
def fitPath (o : Object K) : Object K :=
  match Box.ofPoints o.points with
  | none => o
  | some b => { o with center := b.center, width := b.width, height := b.height }

/-- The object with coordinates whose copies are known again.  The first slot is left to the start
of its path. -/
def stamp (serial : Nat) (o : Object K) : Object K :=
  { o with
    center := o.center.stamp ⟨serial, some o.id, 1⟩
    points := o.points.mapIdx fun i p => p.stamp ⟨serial, some o.id, i + 2⟩ }

/-- Where numbers have no marks, neither have objects. -/
theorem stamp_of_unmarked (h : ∀ (m : Mark) (x : K), Arith.stamp m x = x) (serial : Nat)
    (o : Object K) : o.stamp serial = o := by
  have points : o.points.mapIdx (fun _ p => p) = o.points := by
    exact List.ext_getElem (by simp) (by simp)
  simp [stamp, Point.stamp_of_unmarked h, points]

/-- Moving an object keeps its number. -/
@[simp] theorem translate_id (o : Object K) (dx dy : K) : (o.translate dx dy).id = o.id := rfl

/-- Moving an object keeps its class. -/
@[simp] theorem translate_cls (o : Object K) (dx dy : K) : (o.translate dx dy).cls = o.cls := rfl

end Object

end DiagramScript
