import DiagramScript.Evaluation
import DiagramScript.Path
import DiagramScript.Script.Statement

/-!
# Objects under construction

A declaration starts from the defaults of its class and applies its clauses one after
the other.  Nothing is placed before all of them are applied.

* `Draft` — an object under construction, and what the clauses say about its place.
* `Draft.begin` — the draft of a class, with sizes and style from the variables.
* `Draft.applyClause` — the effect of one clause.
* `Draft.apply` — the same for a clause with its place: clauses that the class does not
  take are refused, and every mistake gets the place of the clause, unless it has a
  more precise one.
-/

namespace DiagramScript

variable {K : Type} [Arith K]

/-- An object under construction. -/
structure Draft (K : Type) where
  /-- The object so far. -/
  object : Object K
  /-- Its path, if it is one. -/
  path : Option (Path K) := none
  /-- Where an anchor of it is to lie, if that is said. -/
  located : Option (Point K) := none
  /-- Which anchor that is; its center if it is not said. -/
  anchor : Option Anchor := none
  /-- Whether it is to fit its text. -/
  fit : Bool := false
  /-- Whether its ends are to be cut off at the outlines of other objects. -/
  chop : Bool := false
  /-- Whether its width is given. -/
  explicitWidth : Bool := false
  /-- Whether its height is given. -/
  explicitHeight : Bool := false
  /-- The object that its path starts at, if it does. -/
  fromObject : Option Nat := none
  /-- The object that its path ends at, if it does. -/
  toObject : Option Nat := none
  /-- Where its arc ends, if that is said. -/
  arcEnd : Option (Point K) := none
  /-- The points of a path it copies, but for the first, as seen from the first. -/
  copiedPath : List (Point K) := []

/-- The value of a variable that every scope has. -/
def View.builtin (v : View K) (name : String) : Except Failure K :=
  match v.registry.lookupVariable v.scope name with
  | some x => .ok x
  | none => .error (.missing name)

/-- The value of a variable that every scope has, or else a number. -/
def View.builtinOr (v : View K) (name : Option String) (otherwise : K) : Except Failure K :=
  match name with
  | some n => v.builtin n
  | none => .ok otherwise

namespace Draft

/-! ## Defaults -/

/-- The usual length of a stretch of a path in each direction. -/
def pathUnit (v : View K) (cls : ObjectClass) : Except Failure (Direction → K) := do
  let across ← v.builtin ((sizeVariables cls).width.getD "linewid")
  let along ← v.builtin ((sizeVariables cls).height.getD "lineht")
  .ok fun d => if d.horizontal then across else along

/-- The style of a new object. -/
def defaultStyle (v : View K) (cls : ObjectClass) : Except Failure (Style K) := do
  let color ← v.builtin "color"
  let fill ← v.builtin "fill"
  let thickness ← v.builtin "thickness"
  let color ← liftFault (Paint.ofNumber color)
  let fill ← liftFault (Paint.ofNumber fill)
  .ok { color := color, fill := fill, thickness := thickness, arrowEnd := cls = .arrow }

/-- A draft of a class, with sizes and style from the variables. -/
def begin (v : View K) (id : Nat) (cls : ObjectClass) (direction : Direction) :
    Except Failure (Draft K) := do
  let names := sizeVariables cls
  let radius ← v.builtinOr names.radius (Arith.num 0)
  let width ← v.builtinOr names.width (Arith.num 0)
  let height ← v.builtinOr names.height (Arith.num 0)
  let style ← defaultStyle v cls
  let object : Object K :=
    { Object.placeholder id cls direction with
      radius := radius
      width := if cls.keepsAspect then Arith.twice radius else width
      height := if cls.keepsAspect then Arith.twice radius else height
      style := style }
  if cls.isLine then do
    let unit ← pathUnit v cls
    .ok { object := object, path := some { direction := direction, unit := unit } }
  else .ok { object := object }

/-! ## Sizes -/

/-- The usual width of the class. -/
def usualWidth (d : Draft K) (v : View K) : Except Failure K :=
  match (sizeVariables d.object.cls).width, (sizeVariables d.object.cls).radius with
  | some n, _ => v.builtin n
  | none, some n => (v.builtin n).map Arith.twice
  | none, none => .ok d.object.width

/-- The usual height of the class. -/
def usualHeight (d : Draft K) (v : View K) : Except Failure K :=
  match (sizeVariables d.object.cls).height, (sizeVariables d.object.cls).radius with
  | some n, _ => v.builtin n
  | none, some n => (v.builtin n).map Arith.twice
  | none, none => .ok d.object.height

/-- The usual radius of the class. -/
def usualRadius (d : Draft K) (v : View K) : Except Failure K :=
  v.builtinOr (sizeVariables d.object.cls).radius d.object.radius

/-- Gives the object a width; a circle becomes as high. -/
def setWidth (d : Draft K) (width : K) : Draft K :=
  if d.object.cls.keepsAspect then
    { d with
      object := { d.object with width := width, height := width, radius := Arith.half width }
      explicitWidth := true, explicitHeight := true }
  else { d with object := { d.object with width := width }, explicitWidth := true }

/-- Gives the object a height; a circle becomes as wide. -/
def setHeight (d : Draft K) (height : K) : Draft K :=
  if d.object.cls.keepsAspect then
    { d with
      object := { d.object with height := height, width := height, radius := Arith.half height }
      explicitWidth := true, explicitHeight := true }
  else { d with object := { d.object with height := height }, explicitHeight := true }

/-- Gives the object a radius; a circle becomes twice as wide and high. -/
def setRadius (d : Draft K) (radius : K) : Draft K :=
  if d.object.cls.keepsAspect then
    { d with
      object := { d.object with
        radius := radius, width := Arith.twice radius, height := Arith.twice radius }
      explicitWidth := true, explicitHeight := true }
  else { d with object := { d.object with radius := radius } }

/-- Gives the object a diameter. -/
def setDiameter (d : Draft K) (diameter : K) : Draft K :=
  { d with
    object := { d.object with
      width := diameter, height := diameter, radius := Arith.half diameter }
    explicitWidth := true, explicitHeight := true }

/-- Gives the object a dimension, where a percentage refers to the usual one. -/
def setDimension (d : Draft K) (v : View K) (what : Dimension) (value : Scalar) :
    Except Failure (Draft K) :=
  match what with
  | .width => do
    let reference ← d.usualWidth v
    let x ← v.size value reference
    .ok (d.setWidth x)
  | .height => do
    let reference ← d.usualHeight v
    let x ← v.size value reference
    .ok (d.setHeight x)
  | .radius => do
    let reference ← d.usualRadius v
    let x ← v.size value reference
    .ok (d.setRadius x)
  | .diameter => do
    let reference ← d.usualRadius v
    let x ← v.size value (Arith.twice reference)
    .ok (d.setDiameter x)

/-! ## Style -/

/-- Changes the style of the object. -/
def modifyStyle (d : Draft K) (f : Style K → Style K) : Draft K :=
  { d with object := { d.object with style := f d.object.style } }

/-- The effect of a single word. -/
def setFlag (d : Draft K) : Flag → Draft K
  | .thick => d.modifyStyle fun s => { s with thickness := s.thickness * Arith.dec 15 1 }
  | .thin =>
    d.modifyStyle fun s => { s with thickness := s.thickness * (Arith.num 2 / Arith.num 3) }
  | .solid => d.modifyStyle fun s => { s with dashed := none, dotted := none }
  | .invisible => d.modifyStyle fun s => { s with invisible := true }
  | .fit => { d with fit := true }
  | .chop => { d with chop := true }
  | .close =>
    let d := d.modifyStyle fun s => { s with closed := true }
    { d with path := d.path.map Path.close }
  | .cw => d.modifyStyle fun s => { s with clockwise := true }
  | .ccw => d.modifyStyle fun s => { s with clockwise := false }

/-- The length of dashes or the distance of dots. -/
def dashLength (v : View K) : Option Scalar → Except Failure K
  | some e => v.scalar e
  | none => v.builtin "dashwid"

/-- The object whose sizes and style are copied. -/
def sourceOf (d : Draft K) (v : View K) : Option ObjectRef → Except Failure (Object K)
  | some ref => v.object ref
  | none =>
    match v.registry.resolveOrdinal v.scope d.object.cls 1 true with
    | .ok id => v.registry.object id
    | .error _ => .error (.reference (.nothingToCopy d.object.cls))

/-- Copies sizes and style, and the path if both objects are paths. -/
def copyFrom (d : Draft K) (source : Object K) : Draft K :=
  let copied :=
    match d.object.cls.isLine && source.cls.isLine, source.points with
    | true, first :: second :: rest =>
      (second :: rest).map fun p => ⟨p.x - first.x, p.y - first.y⟩
    | _, _ => d.copiedPath
  { d with
    object := { d.object with
      width := source.width, height := source.height, radius := source.radius
      style := source.style }
    explicitWidth := true, explicitHeight := true
    copiedPath := copied }

/-! ## Paths -/

/-- Changes the path; an object without one cannot take the clause. -/
def onPath (d : Draft K) (f : Path K → Except Failure (Path K)) : Except Failure (Draft K) :=
  match d.path with
  | none => .error .noPath
  | some p => do
    let p ← f p
    .ok { d with path := some p }

/-- The length of a stretch, where a percentage refers to the usual one. -/
def stretch (v : View K) (p : Path K) (direction : Direction) (e : Scalar) : Except Failure K :=
  v.size e (p.unit direction)

/-- Starts the path at a position. -/
def setStart (d : Draft K) (v : View K) (q : Position) : Except Failure (Draft K) := do
  let point ← v.position q
  let d ← d.onPath fun p => .ok (p.setOrigin point)
  let whole ← v.wholeObject q
  .ok { d with fromObject := whole }

/-- Runs the path to a position; an arc ends there. -/
def setTarget (d : Draft K) (v : View K) (q : Position) : Except Failure (Draft K) := do
  let point ← v.position q
  let d ←
    if d.object.cls = .arc then .ok { d with arcEnd := some point }
    else d.onPath fun p => .ok (p.addTarget point)
  let whole ← v.wholeObject q
  .ok { d with toObject := whole }

/-! ## Clauses -/

/-- The effect of a clause. -/
def applyClause (d : Draft K) (v : View K) : Clause → Except Failure (Draft K)
  | .text line => .ok { d with object := { d.object with text := d.object.text ++ [line] } }
  | .arrow heads =>
    .ok (d.modifyStyle fun s => { s with arrowStart := heads.atStart, arrowEnd := heads.atEnd })
  | .size what value => d.setDimension v what value
  | .thickness value => do
    let reference ← v.builtin "thickness"
    let x ← v.size value reference
    .ok (d.modifyStyle fun s => { s with thickness := x })
  | .flag f => .ok (d.setFlag f)
  | .dotted e => do
    let x ← dashLength v e
    .ok (d.modifyStyle fun s => { s with dotted := some x, dashed := none })
  | .dashed e => do
    let x ← dashLength v e
    .ok (d.modifyStyle fun s => { s with dashed := some x, dotted := none })
  | .fill e => do
    let x ← v.scalar e
    let paint ← liftFault (Paint.ofNumber x)
    .ok (d.modifyStyle fun s => { s with fill := paint })
  | .color e => do
    let x ← v.scalar e
    let paint ← liftFault (Paint.ofNumber x)
    .ok (d.modifyStyle fun s => { s with color := paint })
  | .same ref => do
    let source ← d.sourceOf v ref
    .ok (d.copyFrom source)
  | .located q => do
    let point ← v.position q
    .ok { d with located := some point }
  | .anchored anchor q => do
    let point ← v.position q
    .ok { d with located := some point, anchor := some anchor }
  | .start q => d.setStart v q
  | .target q => d.setTarget v q
  | .next => d.onPath fun p =>
    match p.next? with
    | some p => .ok p
    | none => .error (.ofCause (.parse .thenWithoutSegment))
  | .direction dir none => d.onPath fun p => .ok (p.move dir none)
  | .direction dir (some e) => d.onPath fun p => do
    let x ← stretch v p dir e
    .ok (p.move dir (some x))
  | .directionUntil dir q => d.onPath fun p => do
    let point ← v.position q
    .ok (p.untilEven (some dir) point)
  | .heading angle none => d.onPath fun p => do
    let degrees ← v.scalar angle
    .ok (p.heading degrees none)
  | .heading angle (some e) => d.onPath fun p => do
    let degrees ← v.scalar angle
    let x ← v.scalar e
    .ok (p.heading degrees (some x))
  | .untilEven q => d.onPath fun p => do
    let point ← v.position q
    .ok (p.untilEven none point)
  | .distance e => d.onPath fun p => do
    let x ← stretch v p p.direction e
    .ok (p.extend x)

/-- The effect of a clause with its place; the class must take it. -/
def apply (d : Draft K) (v : View K) (a : Attribute) : Except Failure (Draft K) :=
  locating a.pos (
    if d.object.cls.accepts a.clause then d.applyClause v a.clause
    else .error (.ofCause (.parse (.notAnAttribute a.clause.shown d.object.cls.noun))))

/-- The effect of several clauses. -/
def applyAll (v : View K) (d : Draft K) (as : List Attribute) : Except Failure (Draft K) :=
  as.foldlM (fun d a => d.apply v a) d

end Draft

end DiagramScript
