import DiagramScript.Draft
import DiagramScript.Geometry.Outline
import DiagramScript.Text.Measure

/-!
# Placement

Where a finished draft goes.  An object without a place of its own is attached to the
object placed before it, at the side where the direction of travel leaves that one.

* `Cursor` — where the next object is attached, and in which direction.
* `stackingStart` — the point of attachment.
* `Draft.place` — the draft with its place and, for text, its size.
* `Cursor.advance` — the cursor after an object has been placed; an object with a place
  of its own leaves it alone.
-/

namespace DiagramScript

variable {K : Type} [Arith K]

/-! ## The cursor -/

/-- Where the next object is attached. -/
structure Cursor (K : Type) where
  /-- The point, as long as no object has been placed. -/
  position : Point K
  /-- The direction of travel. -/
  direction : Direction
  /-- The object placed last, which the next one is attached to. -/
  flow : Option Nat := none
  deriving Repr

/-- The cursor at the start of a script. -/
def Cursor.initial : Cursor K := { position := Point.origin, direction := .right }

/-- What placement depends on, besides the draft. -/
structure Setting (K : Type) where
  /-- What evaluation sees. -/
  view : View K
  /-- Where the next object is attached. -/
  cursor : Cursor K
  /-- How text is measured. -/
  measure : Measurer K
  /-- The serial number of the change of the drawing. -/
  serial : Nat

/-- The point where the next object is attached.  Framed objects keep the gap between them. -/
def stackingStart (s : Setting K) (framed : Bool) : Except Failure (Point K) :=
  match s.cursor.flow with
  | none => .ok s.cursor.position
  | some id => do
    let flow ← s.view.registry.object id
    if flow.cls.isLine then .ok flow.finish
    else do
      let start := flow.anchorPoint (.compass s.cursor.direction.exitSide)
      let gap ← s.view.builtin "gap"
      if framed && !Arith.isZero gap then
        let v : Point K := s.cursor.direction.vector
        .ok (start.plus (v.scale gap))
      else .ok start

namespace Draft

/-! ## Framed objects -/

/-- The size of a frame around a text, by the shape of the object. -/
def fitShape (o : Object K) (width height : K) : K × K :=
  match o.cls with
  | .ellipse => (width * Arith.sqrt (Arith.num 2), height * Arith.sqrt (Arith.num 2))
  | .oval => (width + height, height)
  | .diamond => (Arith.twice width, Arith.twice height)
  | .cylinder => (width, height + Arith.twice o.radius)
  | _ => (width, height)

/-- The size that a fitting frame around the text of an object has: there is room for two more
characters and one more line. -/
def fittingSize (s : Setting K) (o : Object K) (block : K × K) (charHeight fontScale : K) :
    Except Failure (K × K) := do
  let charWidth ← s.view.builtin "charwid"
  .ok (fitShape o (block.1 + Arith.twice charWidth * fontScale) (block.2 + charHeight * fontScale))

/-- Gives the object the size asked for by its text, as far as its size is not given; circles
take the larger of width and height. -/
def takeSize (d : Draft K) (width height : K) : Draft K :=
  let diameter := Arith.greatest width height
  let (width, height) :=
    if d.object.cls.keepsAspect then (diameter, diameter) else (width, height)
  let radius := if d.object.cls.keepsAspect then Arith.half diameter else d.object.radius
  { d with
    object := { d.object with
      radius := radius
      width := if d.explicitWidth then d.object.width else width
      height := if d.explicitHeight then d.object.height else height } }

/-- Sizes a text, and an object that is to fit its text. -/
def sizeToText (d : Draft K) (s : Setting K) : Except Failure (Draft K) :=
  if d.object.text.isEmpty ∨ (!d.fit ∧ d.object.cls ≠ .text) then .ok d
  else do
    let fontScale ← s.view.builtin "fontscale"
    let charHeight ← s.view.builtin "charht"
    let block ← liftFault (textBlockSize s.measure d.object.text charHeight fontScale)
    let size ←
      if d.fit then fittingSize s d.object block charHeight fontScale else .ok block
    .ok (d.takeSize size.1 size.2)

/-- Paints a dot that has no fill like its outline. -/
def fillDot (d : Draft K) : Draft K :=
  if d.object.cls = .dot ∧ d.object.style.fill = none then
    d.modifyStyle fun s => { s with fill := s.color }
  else d

/-- Puts a frame where it is said to be, or else next to the object placed before it. -/
def placeFramed (d : Draft K) (s : Setting K) : Except Failure (Draft K) :=
  let o := d.object
  match d.located with
  | some p =>
    let a := o.anchorPoint (d.anchor.getD .center)
    .ok { d with object := { o with
      center := ⟨p.x - (a.x - o.center.x), p.y - (a.y - o.center.y)⟩ } }
  | none => do
    let start ← stackingStart s true
    let extent := if s.cursor.direction.horizontal then o.width else o.height
    let v : Point K := s.cursor.direction.vector
    .ok { d with object := { o with center := start.plus (v.scale (Arith.half extent)) } }

/-! ## Paths -/

/-- The points of a path before anything is cut off, and the direction in which it ends.  Copies of
the start are known again. -/
def pathPoints (d : Draft K) (path : Path K) (start : Point K) (serial : Nat) :
    Except Failure (List (Point K) × Option Direction) :=
  let origin := (path.origin.getD start).stamp ⟨serial, some d.object.id, 0⟩
  if d.object.cls = .arc then
    .ok (arcPoints origin d.arcEnd d.object.direction d.object.radius d.object.style.clockwise,
      none)
  else if !d.copiedPath.isEmpty && path.isBare then
    .ok (origin :: d.copiedPath.map fun v => origin.plus v, none)
  else ((path.setOrigin origin).build origin).mapError (.fault ·.fault)

/-- The point where a line from an object toward a point leaves its outline. -/
def boundary (r : Registry K) (id : Nat) (toward : Point K) : Except Failure (Point K) := do
  let o ← r.object id
  liftFault (outlinePoint o.center o.width o.height toward o.cls.isRound o.box)

/-- Cuts off the start of a path at the outline of an object. -/
def chopStart (r : Registry K) (id : Option Nat) (points : List (Point K)) :
    Except Failure (List (Point K)) :=
  match id, points with
  | some id, _ :: second :: rest => do
    let p ← boundary r id second
    .ok (p :: second :: rest)
  | _, points => .ok points

/-- Cuts off both ends of a path at the outlines of the objects they are at. -/
def chopEnds (d : Draft K) (r : Registry K) (points : List (Point K)) :
    Except Failure (List (Point K)) := do
  let points ← chopStart r d.fromObject points
  let backward ← chopStart r d.toObject points.reverse
  .ok backward.reverse

/-- Gives a path its points, cuts off its ends, and moves it to where it is said to be.  The
direction in which it ends comes back with it. -/
def placePath (d : Draft K) (s : Setting K) : Except Failure (Draft K × Option Direction) :=
  match d.path with
  | none => .error .noPath
  | some path => do
    let start ← stackingStart s false
    let built ← d.pathPoints path start s.serial
    let points ← if d.chop then d.chopEnds s.view.registry built.1 else .ok built.1
    let o := { d.object with points := points }.fitPath
    match d.located with
    | none => .ok ({ d with object := o }, built.2)
    | some p =>
      let a := o.anchorPoint (d.anchor.getD .center)
      .ok ({ d with object := o.translate (p.x - a.x) (p.y - a.y) }, built.2)

/-! ## All objects -/

/-- The draft with its place, and the direction in which its path ends. -/
def place (d : Draft K) (s : Setting K) : Except Failure (Draft K × Option Direction) :=
  if d.object.cls.isLine then d.placePath s
  else do
    let d ← d.sizeToText s
    let d ← d.fillDot.placeFramed s
    .ok (d, none)

end Draft

/-- The cursor after an object has been placed. -/
def Cursor.advance (c : Cursor K) (d : Draft K) (exit : Option Direction) : Cursor K :=
  match d.located with
  | some _ => c
  | none =>
    { position := d.object.finish
      direction := exit.getD c.direction
      flow := some d.object.id }

/-- An object with a place of its own leaves the cursor alone. -/
theorem Cursor.advance_of_located {c : Cursor K} {d : Draft K} {p : Point K}
    (h : d.located = some p) (exit : Option Direction) : c.advance d exit = c := by
  simp [advance, h]

end DiagramScript
