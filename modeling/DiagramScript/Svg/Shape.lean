import DiagramScript.Svg.Canvas
import DiagramScript.Svg.Markup

/-!
# Shapes

Every object but texts and moves is drawn as one element, and every head of an arrow
as another.

* `Svg.strokeAttributes` — how an outline is drawn.
* `Svg.shape` — the element of an object, if it has one.
* `Svg.arrowheads` — the heads of a path, at its end and at its start; a leg without
  length has none.
-/

namespace DiagramScript

namespace Svg

variable {K : Type} [Arith K]

/-! ## Outlines -/

/-- The name of an object, if it has a label. -/
def nameAttribute (o : Object K) : List (String × String) :=
  match o.label with
  | some l => [("id", l)]
  | none => []

/-- The dashes or dots of an outline; those of no length are left out. -/
def dashAttributes (c : Canvas K) (s : Style K) : Except Fault (List (String × String)) :=
  match s.dashed.filter (!Arith.isZero ·), s.dotted.filter (!Arith.isZero ·) with
  | some dash, _ => do
    let t ← c.lengthText dash
    .ok [("stroke-dasharray", t ++ "," ++ t)]
  | none, some gap => do
    let dot ← c.lengthText s.thickness
    let t ← c.lengthText gap
    .ok [("stroke-dasharray", dot ++ "," ++ t), ("stroke-linecap", "round")]
  | none, none => .ok []

/-- The name and the outline of an object, and what its area is painted with. -/
def strokeAttributes (c : Canvas K) (o : Object K) (filled : Bool) :
    Except Fault (List (String × String)) := do
  let width ← c.lengthText o.style.thickness
  let dashes ← dashAttributes c o.style
  .ok (nameAttribute o ++ [("stroke", Paint.css o.style.color), ("stroke-width", width),
    ("fill", if filled then Paint.css o.style.fill else "none")] ++ dashes)

/-- Numbers with their names. -/
def numberAttributes (pairs : List (String × K)) : Except Fault (List (String × String)) :=
  pairs.mapM fun p => (numeral p.2).map fun t => (p.1, t)

/-! ## Path data -/

/-- A piece of the description of a curve. -/
inductive PathPiece (K : Type) where
  /-- A command or a flag. -/
  | word (s : String)
  /-- A coordinate in pixels. -/
  | coordinate (x : K)

/-- The text of a piece. -/
def PathPiece.text : PathPiece K → Except Fault String
  | word s => .ok s
  | coordinate x => numeral x

/-- The pieces of a point in pixels. -/
def pointPieces (p : Point K) : List (PathPiece K) := [.coordinate p.x, .coordinate p.y]

/-- A command that goes to one or more points. -/
def command (letter : String) (ps : List (Point K)) : List (PathPiece K) :=
  .word letter :: ps.flatMap pointPieces

/-- An arc of an ellipse to a point, given the text of its radii. -/
def arcCommand (radii sweep : String) (p : Point K) : List (PathPiece K) :=
  .word ("A " ++ radii ++ " 0 0 " ++ sweep) :: pointPieces p

/-- The description of a curve. -/
def pathText (pieces : List (PathPiece K)) : Except Fault String := do
  let texts ← pieces.mapM PathPiece.text
  .ok (" ".intercalate texts)

/-! ## Frames -/

/-- A frame in pixels. -/
structure Frame (K : Type) where
  /-- Its left side. -/
  left : K
  /-- Its upper side. -/
  top : K
  /-- Its width. -/
  width : K
  /-- Its height. -/
  height : K

/-- The frame of an object. -/
def frame (c : Canvas K) (o : Object K) : Frame K :=
  let corner := c.point ⟨o.center.x - Arith.half o.width, o.center.y + Arith.half o.height⟩
  ⟨corner.x, corner.y, c.length o.width, c.length o.height⟩

/-- Its right side. -/
def Frame.right (f : Frame K) : K := f.left + f.width

/-- Its lower side. -/
def Frame.bottom (f : Frame K) : K := f.top + f.height

/-- The radius of the corners of a rectangle; an oval has round ends. -/
def cornerRadius (o : Object K) : K :=
  if o.cls = .oval then Arith.half (Arith.least o.width o.height)
  else Arith.least (Arith.least o.radius (Arith.half o.width)) (Arith.half o.height)

/-- A rectangle. -/
def rectangle (c : Canvas K) (o : Object K) : Except Fault Markup := do
  let stroke ← strokeAttributes c o true
  let f := frame c o
  let sides ← numberAttributes
    [("x", f.left), ("y", f.top), ("width", f.width), ("height", f.height)]
  let radius := cornerRadius o
  let corners ←
    if Arith.num 0 < radius then numberAttributes [("rx", c.length radius), ("ry", c.length radius)]
    else .ok []
  .ok (.node "rect" (stroke ++ sides ++ corners) [])

/-- A circle or an ellipse. -/
def ellipse (c : Canvas K) (o : Object K) : Except Fault Markup := do
  let stroke ← strokeAttributes c o true
  let center := c.point o.center
  let middle ← numberAttributes [("cx", center.x), ("cy", center.y)]
  if o.cls = .ellipse then do
    let radii ← numberAttributes
      [("rx", c.length (Arith.half o.width)), ("ry", c.length (Arith.half o.height))]
    .ok (.node "ellipse" (stroke ++ middle ++ radii) [])
  else do
    let radius ← numberAttributes [("r", c.length (Arith.half o.width))]
    .ok (.node "circle" (stroke ++ middle ++ radius) [])

/-- The corners of a diamond. -/
def diamondCorners (o : Object K) : List (Point K) :=
  [Compass.n, .e, .s, .w].map fun side => o.anchorPoint (.compass side)

/-- A diamond. -/
def diamond (c : Canvas K) (o : Object K) : Except Fault Markup := do
  let stroke ← strokeAttributes c o true
  let points ← c.pointsText (diamondCorners o)
  .ok (.node "polygon" (stroke ++ [("points", points)]) [])

/-- A path with an outline of its own. -/
def outlined (c : Canvas K) (o : Object K) (filled : Bool) (pieces : List (PathPiece K)) :
    Except Fault Markup := do
  let d ← pathText pieces
  let stroke ← strokeAttributes c o filled
  .ok (.node "path" (stroke ++ [("d", d)]) [])

/-- An upright cylinder: its mantle, and the front edge of its lid. -/
def cylinder (c : Canvas K) (o : Object K) : Except Fault Markup := do
  let f := frame c o
  let rx := Arith.half f.width
  let ry := Arith.least (c.length o.radius) (Arith.half f.height)
  let upper := f.top + ry
  let lower := f.bottom - ry
  let radii ← pathText [.coordinate rx, .coordinate ry]
  outlined c o true (
    command "M" [⟨f.left, upper⟩] ++ command "L" [⟨f.left, lower⟩]
      ++ arcCommand radii "0" ⟨f.right, lower⟩ ++ command "L" [⟨f.right, upper⟩]
      ++ arcCommand radii "0" ⟨f.left, upper⟩ ++ arcCommand radii "1" ⟨f.right, upper⟩)

/-- A sheet of paper with a folded corner. -/
def file (c : Canvas K) (o : Object K) : Except Fault Markup :=
  let f := frame c o
  let fold :=
    Arith.least (Arith.least (c.length o.radius) (Arith.half f.width)) (Arith.half f.height)
  let inner := f.right - fold
  let lower := f.top + fold
  outlined c o true (
    command "M" [⟨f.left, f.top⟩] ++ command "L" [⟨inner, f.top⟩]
      ++ command "L" [⟨f.right, lower⟩] ++ command "L" [⟨f.right, f.bottom⟩]
      ++ command "L" [⟨f.left, f.bottom⟩] ++ command "Z" []
      ++ command "M" [⟨inner, f.top⟩] ++ command "L" [⟨inner, lower⟩]
      ++ command "L" [⟨f.right, lower⟩])

/-! ## Lines and curves -/

/-- The points of a polygon, without a copy of the first at the end. -/
def openPoints (o : Object K) : List (Point K) :=
  match o.points.head?, o.points.getLast? with
  | some first, some last =>
    if o.style.closed && decide (2 < o.points.length) && last.same first then o.points.dropLast
    else o.points
  | _, _ => o.points

/-- A line, or a polygon if it is closed. -/
def polyline (c : Canvas K) (o : Object K) : Except Fault Markup := do
  let closed := o.style.closed
  let stroke ← strokeAttributes c o closed
  let points ← c.pointsText (openPoints o)
  .ok (.node (if closed then "polygon" else "polyline") (stroke ++ [("points", points)]) [])

/-- The curves through the middles of the legs between some points, up to the last point. -/
def curves : List (Point K) → List (PathPiece K)
  | control :: next :: more :: rest =>
    command "Q" [control, ⟨Arith.half (control.x + next.x), Arith.half (control.y + next.y)⟩]
      ++ curves (next :: more :: rest)
  | [control, last] => command "Q" [control, last]
  | _ => []

/-- A smooth curve; with fewer than three points it is a line. -/
def spline (c : Canvas K) (o : Object K) : Except Fault Markup :=
  match o.points.map c.point with
  | start :: second :: third :: rest =>
    outlined c o false (command "M" [start] ++ curves (second :: third :: rest))
  | _ => polyline c o

/-- A quarter turn. -/
def arc (c : Canvas K) (o : Object K) : Except Fault Markup := do
  let stroke ← strokeAttributes c o false
  let pieces :=
    match o.points.map c.point with
    | start :: control :: finish :: _ => command "M" [start] ++ command "Q" [control, finish]
    | _ => []
  let d ← pathText pieces
  .ok (.node "path" (stroke ++ [("d", d)]) [])

/-- The element of an object; texts, moves and groups have none. -/
def shape (c : Canvas K) (o : Object K) : Except Fault (List Markup) :=
  match o.cls with
  | .box | .oval => (rectangle c o).map ([·])
  | .circle | .dot | .ellipse => (ellipse c o).map ([·])
  | .diamond => (diamond c o).map ([·])
  | .cylinder => (cylinder c o).map ([·])
  | .file => (file c o).map ([·])
  | .line | .arrow => (polyline c o).map ([·])
  | .spline => (spline c o).map ([·])
  | .arc => (arc c o).map ([·])
  | .text | .move | .container => .ok []

/-! ## Arrowheads -/

/-- The corners of a head at the end of a leg, if the leg has a length. -/
def headCorners (c : Canvas K) (tail tip : Point K) : Option (List (Point K)) :=
  let dx := tip.x - tail.x
  let dy := tip.y - tail.y
  let length := Arith.hypot dx dy
  if Arith.isZero length then none
  else
    let ux := dx / length
    let uy := dy / length
    let base : Point K := ⟨tip.x - ux * c.arrowHeight, tip.y - uy * c.arrowHeight⟩
    let half := Arith.half c.arrowWidth
    some [tip, ⟨base.x - uy * half, base.y + ux * half⟩, ⟨base.x + uy * half, base.y - ux * half⟩]

/-- A head at the end of a leg. -/
def arrowhead (c : Canvas K) (o : Object K) (tail tip : Point K) : Except Fault (List Markup) :=
  match headCorners c tail tip with
  | none => .ok []
  | some corners => do
    let color := Paint.css o.style.color
    let points ← c.pointsText corners
    .ok [.node "polygon" [("points", points), ("fill", color), ("stroke", color)] []]

/-- The head at the first of some points, if it is asked for. -/
def headAt (c : Canvas K) (o : Object K) (asked : Bool) :
    List (Point K) → Except Fault (List Markup)
  | tip :: tail :: _ => if asked then arrowhead c o tail tip else .ok []
  | _ => .ok []

/-- The heads of a path. -/
def arrowheads (c : Canvas K) (o : Object K) : Except Fault (List Markup) :=
  if o.cls.isLine && o.cls ≠ .move then do
    let atEnd ← headAt c o o.style.arrowEnd o.points.reverse
    let atStart ← headAt c o o.style.arrowStart o.points
    .ok (atEnd ++ atStart)
  else .ok []

end Svg

end DiagramScript
