import DiagramScript.Execution

/-!
# What evaluation depends on

Evaluation looks up objects, labels and variables, and never sees how the registry keeps them.  Two
views in which everything that can be looked up is the same give the same numbers and points, and
place objects in the same way.

* `View.SeesAlike` — two views in which names mean the same, and `View.SeesAlike.scalar`,
  `View.SeesAlike.position` — the same values of expressions and positions.
* `View.Agrees` — two views with the same answers, also to what no name means.
* `Setting.Agrees.place` — the same places.
-/

namespace DiagramScript

variable {K : Type}

/-- Two views in which references, labels and variables mean the same. -/
structure View.SeesAlike (v w : View K) : Prop where
  /-- References mean the same objects, which look the same. -/
  object : ∀ ref, w.object ref = v.object ref
  /-- Labels of points mean the same points. -/
  place : ∀ label, w.registry.resolvePlace w.scope label = v.registry.resolvePlace v.scope label
  /-- The variables are the same. -/
  lookup : ∀ name, w.registry.lookupVariable w.scope name = v.registry.lookupVariable v.scope name
  /-- The colours are the same. -/
  colors : w.colors = v.colors
  /-- The units are the same. -/
  units : w.units = v.units

/-- Two views in which everything that can be looked up is the same. -/
structure View.Agrees (v w : View K) : Prop where
  /-- References mean the same objects. -/
  follow : ∀ ref, follow w.registry w.scope ref = follow v.registry v.scope ref
  /-- Labels of points mean the same points. -/
  place : ∀ label, w.registry.resolvePlace w.scope label = v.registry.resolvePlace v.scope label
  /-- The objects of a class are the same. -/
  ordinal : ∀ cls n fromLast, w.registry.resolveOrdinal w.scope cls n fromLast =
    v.registry.resolveOrdinal v.scope cls n fromLast
  /-- The objects are the same. -/
  object : ∀ id, w.registry.object id = v.registry.object id
  /-- The variables are the same. -/
  lookup : ∀ name, w.registry.lookupVariable w.scope name = v.registry.lookupVariable v.scope name
  /-- The colours are the same. -/
  colors : w.colors = v.colors
  /-- The units are the same. -/
  units : w.units = v.units

namespace View.SeesAlike

variable {v w : View K} (h : v.SeesAlike w)
include h

/-! ## References -/

theorem placeOf? (ref : ObjectRef) : w.placeOf? ref = v.placeOf? ref := by
  unfold View.placeOf?
  split
  · exact h.place _
  · rfl

theorem objectPlace [Arith K] (ref : ObjectRef) (anchor : Option Anchor) :
    w.objectPlace ref anchor = v.objectPlace ref anchor := by
  simp only [View.objectPlace, h.placeOf?, h.object]

theorem vertexOf (n : Nat) (ref : ObjectRef) (fromLast : Bool) :
    w.vertexOf n ref fromLast = v.vertexOf n ref fromLast := by
  simp only [View.vertexOf, h.object]

/-! ## Expressions and positions -/

theorem variableValue (name : String) : w.variableValue name = v.variableValue name := by
  simp only [View.variableValue, h.lookup]

variable [Arith K]

theorem literal (value : Decimal) (unit : Option LengthUnit) :
    w.literal value unit = v.literal value unit := by
  rw [View.literal, View.literal, h.units]

theorem colorNumber (name : String) : w.colorNumber name = v.colorNumber name := by
  rw [View.colorNumber, View.colorNumber, h.colors]

omit h

mutual

/-- The value of an expression. -/
theorem scalar (h : v.SeesAlike w) (e : Scalar) : w.scalar e = v.scalar e := by
  cases e with
  | number p value unit => rw [View.scalar, View.scalar, h.literal]
  | percent p value => rw [View.scalar, View.scalar]
  | var p name => rw [View.scalar, View.scalar, h.variableValue]
  | color p name => rw [View.scalar, View.scalar, h.colorNumber]
  | neg p e => rw [View.scalar, View.scalar, scalar h e]
  | binary p op a b => rw [View.scalar, View.scalar, scalar h a, scalar h b]
  | call p function args => rw [View.scalar, View.scalar, scalars h args]
  | dist p args => rw [View.scalar, View.scalar, positions h args]
  | coordinate p q axis => rw [View.scalar, View.scalar, position h q]
  | property p ref what => rw [View.scalar, View.scalar, h.object]

theorem scalars (h : v.SeesAlike w) (es : List Scalar) : w.scalars es = v.scalars es := by
  cases es with
  | nil => rw [View.scalars, View.scalars]
  | cons e es => rw [View.scalars, View.scalars, scalar h e, scalars h es]

theorem positions (h : v.SeesAlike w) (qs : List Position) :
    w.positions qs = v.positions qs := by
  cases qs with
  | nil => rw [View.positions, View.positions]
  | cons q qs => rw [View.positions, View.positions, position h q, positions h qs]

/-- The point of a position. -/
theorem position (h : v.SeesAlike w) (q : Position) : w.position q = v.position q := by
  cases q with
  | pair p x y => rw [View.position, View.position, scalar h x, scalar h y]
  | object p ref anchor => rw [View.position, View.position, h.objectPlace]
  | vertex p n ref fromLast => rw [View.position, View.position, h.vertexOf]
  | offset p base dx dy backward =>
    rw [View.position, View.position, position h base, scalar h dx, scalar h dy]
  | mix p a b => rw [View.position, View.position, position h a, position h b]
  | relative p distance side base =>
    rw [View.position, View.position, scalar h distance, position h base]
  | heading p distance angle base =>
    rw [View.position, View.position, scalar h distance, scalar h angle, position h base]
  | between p fraction a b =>
    cases fraction with
    | none => rw [View.position, View.position, position h a, position h b]
    | some e => rw [View.position, View.position, scalar h e, position h a, position h b]

end

end View.SeesAlike

namespace View.Agrees

variable {v w : View K} (h : v.Agrees w)
include h

theorem objectId (ref : ObjectRef) : w.objectId ref = v.objectId ref := by
  rw [View.objectId, View.objectId, h.follow]

theorem objectOf (ref : ObjectRef) : w.object ref = v.object ref := by
  simp only [View.object, h.objectId, h.object]

theorem seesAlike : v.SeesAlike w := ⟨h.objectOf, h.place, h.lookup, h.colors, h.units⟩

theorem wholeObject (q : Position) : w.wholeObject q = v.wholeObject q := by
  unfold View.wholeObject
  split
  · rw [h.seesAlike.placeOf?, h.objectId]
  · rfl

variable [Arith K]

theorem scalar (e : Scalar) : w.scalar e = v.scalar e := h.seesAlike.scalar e

theorem position (q : Position) : w.position q = v.position q := h.seesAlike.position q

theorem size (e : Scalar) (reference : K) : w.size e reference = v.size e reference := by
  unfold View.size
  split
  · rfl
  · exact h.scalar _

/-! ## Drafts -/

omit [Arith K] in
theorem builtin (name : String) : w.builtin name = v.builtin name := by
  rw [View.builtin, View.builtin, h.lookup]

omit [Arith K] in
theorem builtinOr (name : Option String) (otherwise : K) :
    w.builtinOr name otherwise = v.builtinOr name otherwise := by
  simp only [View.builtinOr, h.builtin]

theorem begin (id : Nat) (cls : ObjectClass) (direction : Direction) :
    Draft.begin w id cls direction = Draft.begin v id cls direction := by
  simp only [Draft.begin, Draft.defaultStyle, Draft.pathUnit, h.builtin, h.builtinOr]

theorem setDimension (d : Draft K) (what : Dimension) (value : Scalar) :
    d.setDimension w what value = d.setDimension v what value := by
  simp only [Draft.setDimension, Draft.usualWidth, Draft.usualHeight, Draft.usualRadius, h.builtin,
    h.builtinOr, h.size]

theorem dashLength (e : Option Scalar) : Draft.dashLength w e = Draft.dashLength v e := by
  cases e with
  | none => exact h.builtin _
  | some e => exact h.scalar e

omit [Arith K] in
theorem sourceOf (d : Draft K) (ref : Option ObjectRef) : d.sourceOf w ref = d.sourceOf v ref := by
  cases ref with
  | some r => exact h.objectOf r
  | none => simp only [Draft.sourceOf, h.ordinal, h.object]

/-- A clause has the same effect. -/
theorem applyClause (d : Draft K) (c : Clause) : d.applyClause w c = d.applyClause v c := by
  cases c with
  | text line => rfl
  | arrow heads => rfl
  | size what value => exact h.setDimension d what value
  | thickness value => simp only [Draft.applyClause, h.builtin, h.size]
  | flag what => rfl
  | dotted gap => simp only [Draft.applyClause, h.dashLength]
  | dashed gap => simp only [Draft.applyClause, h.dashLength]
  | fill value => simp only [Draft.applyClause, h.scalar]
  | color value => simp only [Draft.applyClause, h.scalar]
  | same source => simp only [Draft.applyClause, h.sourceOf]
  | located q => simp only [Draft.applyClause, h.position]
  | anchored anchor q => simp only [Draft.applyClause, h.position]
  | start q => simp only [Draft.applyClause, Draft.setStart, h.position, h.wholeObject]
  | target q => simp only [Draft.applyClause, Draft.setTarget, h.position, h.wholeObject]
  | next => rfl
  | direction dir length =>
    cases length with
    | none => rfl
    | some e => simp only [Draft.applyClause, Draft.stretch, h.size]
  | directionUntil dir q => simp only [Draft.applyClause, h.position]
  | heading angle length => cases length <;> simp only [Draft.applyClause, h.scalar]
  | untilEven q => simp only [Draft.applyClause, h.position]
  | distance value => simp only [Draft.applyClause, Draft.stretch, h.size]

theorem applyAll (d : Draft K) (as : List Attribute) :
    Draft.applyAll w d as = Draft.applyAll v d as := by
  simp only [Draft.applyAll, Draft.apply, h.applyClause]

end View.Agrees

/-! ## Places -/

/-- Two settings that differ only in how the registry is kept. -/
structure Setting.Agrees (s u : Setting K) : Prop where
  /-- What evaluation sees is the same. -/
  view : s.view.Agrees u.view
  /-- The next object is attached at the same point. -/
  cursor : u.cursor = s.cursor
  /-- Text is measured in the same way. -/
  measure : u.measure = s.measure
  /-- The next change has the same serial number. -/
  serial : u.serial = s.serial

namespace Setting.Agrees

variable [Arith K] {s u : Setting K} (h : s.Agrees u)
include h

theorem stackingStart (framed : Bool) :
    DiagramScript.stackingStart u framed = DiagramScript.stackingStart s framed := by
  simp only [DiagramScript.stackingStart, h.cursor, h.view.object, h.view.builtin]

theorem placeFramed (d : Draft K) : d.placeFramed u = d.placeFramed s := by
  simp only [Draft.placeFramed, h.stackingStart, h.cursor]

theorem sizeToText (d : Draft K) : d.sizeToText u = d.sizeToText s := by
  simp only [Draft.sizeToText, Draft.fittingSize, h.view.builtin, h.measure]

theorem chopStart (id : Option Nat) (points : List (Point K)) :
    Draft.chopStart u.view.registry id points = Draft.chopStart s.view.registry id points := by
  simp only [Draft.chopStart, Draft.boundary, h.view.object]

theorem placePath (d : Draft K) : d.placePath u = d.placePath s := by
  simp only [Draft.placePath, Draft.chopEnds, h.stackingStart, h.chopStart, h.serial]

/-- An object gets the same place. -/
theorem place (d : Draft K) : d.place u = d.place s := by
  simp only [Draft.place, h.placePath, h.sizeToText, h.placeFramed]

end Setting.Agrees

end DiagramScript
