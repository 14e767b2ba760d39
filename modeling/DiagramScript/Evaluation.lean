import DiagramScript.Geometry.Heading
import DiagramScript.Registry
import DiagramScript.Script.Expression

/-!
# Evaluation

Expressions and positions are reduced to numbers and points by what the registry
knows at that moment.  Evaluation reads the registry and never changes it.

* `View` — what evaluation sees: the registry, the scope it stands in, and the tables
  of colours and units.
* `View.objectId`, `View.object` — the object that a reference means.
* `View.scalar`, `View.position` — the value of an expression and of a position.  Every
  number is checked to be finite, and every mistake gets the place of the innermost
  node it arises in: `scalar_isFinite`, `scalar_placed`.
* `View.size` — a number, where a percentage is a part of a given size.
* `View.wholeObject` — the object that a position means as a whole, if it does.
* `numberText` — how numbers are printed.
-/

namespace DiagramScript

variable {K : Type} [Arith K]

/-! ## Printing numbers -/

/-- How near to a whole number a printed number counts as that number. -/
def printTolerance : K := Arith.dec 1 9

/-- The name of a number that is not finite. -/
def nonFiniteText (x : K) : String :=
  if Arith.isNaN x then "nan" else if x < Arith.num 0 then "-inf" else "inf"

/-- The text of a printed number: at most six digits after the point. -/
def numberText (x : K) : Except Failure String :=
  if Arith.isFinite x then
    liftFault ((Arith.compact 6 printTolerance x).map String.ofList)
  else .error (.eval (.unprintable (nonFiniteText x)))

/-! ## What evaluation sees -/

/-- How a length is turned into inches; it may refuse a unit, with a sentence that says so. -/
abbrev UnitConverter (K : Type) := K → Option LengthUnit → Except String K

/-- The usual converter, which knows all units. -/
def standardUnits : UnitConverter K := fun x u => .ok (toInches x u)

/-- What evaluation sees. -/
structure View (K : Type) where
  /-- The objects and scopes. -/
  registry : Registry K
  /-- The scope in which names are looked up. -/
  scope : Nat
  /-- The colours. -/
  colors : ColorTable
  /-- The units. -/
  units : UnitConverter K

namespace View

/-! ## References -/

/-- The object of a scope that a selector picks. -/
def select (r : Registry K) (s : Nat) ( localOnly : Bool) : Selector → Except Failure Nat
  | .label name => r.resolveLabel s name localOnly
  | .ordinal cls n fromLast => r.resolveOrdinal s cls n fromLast

/-- The object that a reference means.  The first part of it may be found in outer scopes, a
member only in its group. -/
def follow (r : Registry K) (s : Nat) : ObjectRef → Except Failure Nat
  | .previous _ => r.previous s
  | .select _ sel => select r s false sel
  | .member _ group _ sel => do
    let id ← follow r s group
    let inner ← r.scopeOf id
    select r inner true sel

/-- The number of the object that a reference means. -/
def objectId (v : View K) (ref : ObjectRef) : Except Failure Nat :=
  locating ref.pos (follow v.registry v.scope ref)

/-- The object that a reference means. -/
def object (v : View K) (ref : ObjectRef) : Except Failure (Object K) := do
  let id ← v.objectId ref
  v.registry.object id

/-- The point that a reference means, if it is the label of a point. -/
def placeOf? (v : View K) : ObjectRef → Option (Point K)
  | .select _ (.label name) => v.registry.resolvePlace v.scope name
  | _ => none

/-- The object that a position means as a whole, if it means one. -/
def wholeObject (v : View K) : Position → Except Failure (Option Nat)
  | .object _ ref none =>
    match v.placeOf? ref with
    | some _ => .ok none
    | none => (v.objectId ref).map some
  | _ => .ok none

/-! ## Numbers -/

/-- Refuses a number that is not finite, and gives mistakes the place of their node. -/
def settle (p : SourcePos) (r : Except Failure K) : Except Failure K :=
  locating p (r.bind fun x => if Arith.isFinite x then .ok x else .error (.eval .overflow))

/-- The value of a literal. -/
def literal (v : View K) (value : Decimal) (unit : Option LengthUnit) : Except Failure K :=
  (v.units (Arith.ofDecimal value) unit).mapError fun m => .eval (.unit m)

/-- The value of a variable. -/
def variableValue (v : View K) (name : String) : Except Failure K :=
  match v.registry.lookupVariable v.scope name with
  | some x => .ok x
  | none => .error (.eval (.unknownVariable name))

/-- The number of a colour. -/
def colorNumber (v : View K) (name : String) : Except Failure K :=
  match v.colors.value? name with
  | some n => .ok (Arith.ofInt n)
  | none => .error (.eval (.unknownColor name))

/-- An operation on two numbers. -/
def operate (op : BinaryOp) (a b : K) : Except Failure K :=
  match op with
  | .add => .ok (a + b)
  | .sub => .ok (a - b)
  | .mul => .ok (a * b)
  | .div => if Arith.isZero b then .error (.eval .divisionByZero) else .ok (a / b)

/-- A square root. -/
def root (x : K) : Except Failure K :=
  if x < Arith.num 0 then .error (.eval (.negativeRoot (String.ofList (Arith.general x))))
  else .ok (Arith.sqrt x)

/-- A function of numbers, applied to the numbers given. -/
def apply (f : ScalarFunction) (xs : List K) : Except Failure K :=
  match f, xs with
  | .abs, [x] => .ok (Arith.abs x)
  | .cos, [x] => liftFault ((headingVector x).map (·.y))
  | .sin, [x] => liftFault ((headingVector x).map (·.x))
  | .sqrt, [x] => root x
  | .int, [x] => liftFault ((Arith.truncate x).map Arith.ofInt)
  | .min, [x, y] => .ok (Arith.least x y)
  | .max, [x, y] => .ok (Arith.greatest x y)
  | f, xs => .error (.eval (.arity f.name f.arity xs.length))

/-- The radius of an object; that of a circle is half its width. -/
def radiusOf (o : Object K) : K := if o.cls.keepsAspect then Arith.half o.width else o.radius

/-- A measure of an object. -/
def measure (o : Object K) : Property → K
  | .width => o.width
  | .height => o.height
  | .thickness => o.style.thickness
  | .radius => radiusOf o
  | .diameter => Arith.twice (radiusOf o)

/-! ## Points -/

/-- The point that an object means as a position, with or without an anchor. -/
def objectPlace (v : View K) (ref : ObjectRef) (anchor : Option Anchor) :
    Except Failure (Point K) :=
  match v.placeOf? ref, ref, anchor with
  | some p, _, none => .ok p
  | some _, .select _ (.label name), some a => .error (.eval (.placeWithoutAnchor name a.name))
  | _, _, none => (v.object ref).map (·.center)
  | _, _, some a => (v.object ref).map (·.anchorPoint a)

/-- A point of the path of an object. -/
def vertexOf (v : View K) (n : Nat) (ref : ObjectRef) (fromLast : Bool) :
    Except Failure (Point K) := do
  let o ← v.object ref
  if !o.cls.isLine then .error (.eval (.noVertexes o.cls))
  else
    let count := o.points.length
    let index : Int := if fromLast then (count : Int) - n + 1 else n
    match o.vertex? index with
    | some p => .ok p
    | none => .error (.eval (.vertexOutOfRange n o.cls count))

mutual

/-- The value of an expression. -/
def scalar (v : View K) : Scalar → Except Failure K
  | .number p value unit => settle p (v.literal value unit)
  | .percent p _ => settle p (.error (.eval .percentage))
  | .var p name => settle p (v.variableValue name)
  | .color p name => settle p (v.colorNumber name)
  | .neg p e => settle p (do
      let x ← scalar v e
      .ok (-x))
  | .binary p op a b => settle p (do
      let x ← scalar v a
      let y ← scalar v b
      operate op x y)
  | .call p f args => settle p (
      if args.length ≠ f.arity then .error (.eval (.arity f.name f.arity args.length))
      else do
        let xs ← scalars v args
        apply f xs)
  | .dist p args => settle p (
      if args.length ≠ 2 then .error (.eval (.arity distanceName 2 args.length))
      else do
        let ps ← positions v args
        match ps with
        | [a, b] => .ok (Point.distance a b)
        | _ => .error (.eval (.arity distanceName 2 args.length)))
  | .coordinate p q axis => settle p (do
      let point ← position v q
      .ok (match axis with
        | .x => point.x
        | .y => point.y))
  | .property p ref what => settle p (do
      let o ← v.object ref
      .ok (measure o what))

/-- The values of some expressions. -/
def scalars (v : View K) : List Scalar → Except Failure (List K)
  | [] => .ok []
  | e :: es => do
    let x ← scalar v e
    let xs ← scalars v es
    .ok (x :: xs)

/-- The points of some positions. -/
def positions (v : View K) : List Position → Except Failure (List (Point K))
  | [] => .ok []
  | p :: ps => do
    let x ← position v p
    let xs ← positions v ps
    .ok (x :: xs)

/-- The point of a position. -/
def position (v : View K) : Position → Except Failure (Point K)
  | .pair p x y => locating p (do
      let x ← scalar v x
      let y ← scalar v y
      .ok ⟨x, y⟩)
  | .object p ref anchor => locating p (v.objectPlace ref anchor)
  | .vertex p n ref fromLast => locating p (v.vertexOf n ref fromLast)
  | .offset p base dx dy backward => locating p (do
      let base ← position v base
      let dx ← scalar v dx
      let dy ← scalar v dy
      let sign : K := Arith.ofInt (if backward then -1 else 1)
      .ok (base.shift (sign * dx) (sign * dy)))
  | .mix p a b => locating p (do
      let a ← position v a
      let b ← position v b
      .ok ⟨a.x, b.y⟩)
  | .relative p distance side base => locating p (do
      let d ← scalar v distance
      let base ← position v base
      let u ← liftFault (compassVector side)
      .ok (base.plus (u.scale d)))
  | .heading p distance angle base => locating p (do
      let d ← scalar v distance
      let angle ← scalar v angle
      let base ← position v base
      let u ← liftFault (headingVector angle)
      .ok (base.plus (u.scale d)))
  | .between p none a b => locating p (do
      let a ← position v a
      let b ← position v b
      .ok (a.toward b (Arith.dec 5 1)))
  | .between p (some f) a b => locating p (do
      let f ← scalar v f
      let a ← position v a
      let b ← position v b
      .ok (a.toward b f))

end

/-- The value of a size: a percentage is a part of the reference. -/
def size (v : View K) (e : Scalar) (reference : K) : Except Failure K :=
  match e with
  | .percent _ value => .ok (Arith.ofDecimal value / Arith.num 100 * reference)
  | e => v.scalar e

/-! ## What evaluation guarantees -/

/-- A settled number is finite. -/
theorem isFinite_of_settle {p : SourcePos} {r : Except Failure K} {x : K}
    (h : settle p r = .ok x) : Arith.isFinite x = true := by
  cases r with
  | error e => simp [settle, Except.bind] at h
  | ok y =>
    simp only [settle, Except.bind] at h
    by_cases hy : Arith.isFinite y = true
    · simp only [hy, if_true, locating_ok, Except.ok.injEq] at h
      exact h ▸ hy
    · simp [hy] at h

/-- Every expression settles its value. -/
theorem scalar_eq_settle (v : View K) (e : Scalar) :
    ∃ r, v.scalar e = settle e.pos r := by
  cases e <;> exact ⟨_, by rw [scalar]; rfl⟩

/-- The value of an expression is finite. -/
theorem scalar_isFinite {v : View K} {e : Scalar} {x : K} (h : v.scalar e = .ok x) :
    Arith.isFinite x = true := by
  obtain ⟨r, hr⟩ := scalar_eq_settle v e
  exact isFinite_of_settle (hr ▸ h)

/-- A mistake in an expression has a place. -/
theorem scalar_placed {v : View K} {e : Scalar} {d : Diagnostic}
    (h : v.scalar e = .error (.mistake d)) : d.place.isSome = true := by
  obtain ⟨r, hr⟩ := scalar_eq_settle v e
  rw [hr, settle] at h
  generalize (r.bind fun x => if Arith.isFinite x then Except.ok x
    else .error (.eval .overflow)) = s at h
  cases s with
  | ok y => simp at h
  | error f =>
    simp only [locating_error, Except.error.injEq] at h
    cases f with
    | mistake c =>
      simp only [Failure.locate, Failure.mistake.injEq] at h
      exact h ▸ Diagnostic.locate_place_isSome c e.pos
    | _ => simp [Failure.locate] at h

end View

end DiagramScript
