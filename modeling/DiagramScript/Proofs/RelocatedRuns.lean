import DiagramScript.Execution
import DiagramScript.Proofs.Relocation

/-!
# Runs at other places

The effect of a script does not depend on where its statements stand: a run at other places ends in
the same drawing, and if it fails, it fails with the same mistake at the other place.

* `relocating` — a computation whose mistakes are found at other places.
* `View.scalar_mapPos`, `View.position_mapPos` — numbers and points.
* `Draft.applyClause_mapPos` — clauses.
* `execute_mapPos`, `run_mapPos` — statements and scripts.
-/

namespace DiagramScript

variable {K α β : Type} (f : SourcePos → SourcePos)

/-! ## Computations -/

/-- The computation, with its mistake found at another place. -/
def relocating (r : Except Failure α) : Except Failure α := r.mapError (Failure.mapPos f)

@[simp] theorem relocating_ok (x : α) : relocating f (.ok x) = .ok x := rfl

@[simp] theorem relocating_error (e : Failure) :
    relocating f (.error e : Except Failure α) = .error (e.mapPos f) := rfl

@[simp] theorem relocating_bind (r : Except Failure α) (next : α → Except Failure β) :
    relocating f (r >>= next) = relocating f r >>= fun x => relocating f (next x) := by
  cases r <;> rfl

theorem relocating_bind_self {r : Except Failure α} {next : α → Except Failure β}
    (first : relocating f r = r) (then_ : ∀ x, relocating f (next x) = next x) :
    relocating f (r >>= next) = r >>= next := by
  rw [relocating_bind, first]
  exact congrArg (r >>= ·) (funext then_)

@[simp] theorem relocating_locating (p : SourcePos) (r : Except Failure α) :
    relocating f (locating p r) = locating (f p) (relocating f r) := by
  cases r with
  | ok x => rfl
  | error e => exact congrArg Except.error (e.mapPos_locate f p)

@[simp] theorem relocating_map (h : α → β) (r : Except Failure α) :
    relocating f (r.map h) = (relocating f r).map h := by
  cases r <;> rfl

theorem relocating_ite {c : Prop} [Decidable c] (r s : Except Failure α) :
    relocating f (if c then r else s) = if c then relocating f r else relocating f s :=
  apply_ite (relocating f) c r s

/-- A mistake whose place is not known yet is found nowhere else. -/
@[simp] theorem Failure.mapPos_ofCause (c : Cause) : (ofCause c).mapPos f = ofCause c := rfl

@[simp] theorem Failure.mapPos_eval (e : EvalError) : (eval e).mapPos f = eval e := rfl

@[simp] theorem Failure.mapPos_reference (e : ReferenceError) :
    (reference e).mapPos f = reference e := rfl

@[simp] theorem relocating_liftFault (r : Except Fault α) :
    relocating f (liftFault r) = liftFault r := by
  cases r <;> rfl

/-! ## References -/

theorem relocating_object (r : Registry K) (id : Nat) :
    relocating f (r.object id) = r.object id := by
  rw [Registry.object]
  cases r.arena[id]? <;> rfl

theorem relocating_resolveLabel (r : Registry K) (s : Nat) (label : String) ( localOnly : Bool) :
    relocating f (r.resolveLabel s label localOnly) = r.resolveLabel s label localOnly := by
  rw [Registry.resolveLabel]
  generalize Registry.findLabel label _ = found
  cases found <;> rfl

theorem relocating_resolveOrdinal (r : Registry K) (s : Nat) (cls : ObjectClass) (n : Int)
    (fromLast : Bool) :
    relocating f (r.resolveOrdinal s cls n fromLast) = r.resolveOrdinal s cls n fromLast := by
  rw [Registry.resolveOrdinal]
  split <;> rfl

theorem relocating_previous (r : Registry K) (s : Nat) :
    relocating f (r.previous s) = r.previous s := by
  rw [Registry.previous]
  cases (r.scope s).members.getLast? <;> rfl

theorem relocating_scopeOf (r : Registry K) (id : Nat) :
    relocating f (r.scopeOf id) = r.scopeOf id := by
  rw [Registry.scopeOf]
  cases r.attached.lookup id with
  | some s => rfl
  | none =>
    dsimp only
    rw [relocating_bind, relocating_object]
    rfl

namespace View

variable (v : View K)

theorem relocating_select (r : Registry K) (s : Nat) ( localOnly : Bool) (sel : Selector) :
    relocating f (select r s localOnly sel) = select r s localOnly sel := by
  cases sel with
  | label name => exact relocating_resolveLabel f r s name localOnly
  | ordinal cls n fromLast => exact relocating_resolveOrdinal f r s cls n fromLast

/-- What a reference means does not depend on places, and neither does what is wrong with it. -/
theorem follow_mapPos (r : Registry K) (s : Nat) (ref : ObjectRef) :
    follow r s (ref.mapPos f) = relocating f (follow r s ref) := by
  induction ref with
  | previous p => exact (relocating_previous f r s).symm
  | select p sel => exact (relocating_select f r s false sel).symm
  | member p group q sel ih =>
    rw [ObjectRef.mapPos, follow, follow, ih, relocating_bind]
    congr 1
    funext id
    rw [relocating_bind, relocating_scopeOf]
    congr 1
    funext inner
    exact (relocating_select f r inner true sel).symm

theorem objectId_mapPos (ref : ObjectRef) :
    v.objectId (ref.mapPos f) = relocating f (v.objectId ref) := by
  rw [objectId, objectId, relocating_locating, follow_mapPos, ObjectRef.pos_mapPos]

theorem object_mapPos (ref : ObjectRef) :
    v.object (ref.mapPos f) = relocating f (v.object ref) := by
  rw [object, object, relocating_bind, objectId_mapPos]
  congr 1
  funext id
  exact (relocating_object f v.registry id).symm

@[simp] theorem placeOf?_mapPos (ref : ObjectRef) : v.placeOf? (ref.mapPos f) = v.placeOf? ref := by
  rcases ref with p | ⟨p, name | ⟨cls, n, fromLast⟩⟩ | ⟨p, group, q, sel⟩ <;> rfl

theorem wholeObject_mapPos (q : Position) :
    v.wholeObject (q.mapPos f) = relocating f (v.wholeObject q) := by
  cases q
  case object p ref anchor =>
    rw [Position.mapPos]
    cases anchor with
    | some a => rfl
    | none =>
      rw [wholeObject, wholeObject, placeOf?_mapPos]
      cases v.placeOf? ref with
      | some p => rfl
      | none =>
        dsimp only
        rw [objectId_mapPos, relocating_map]
  case between p fraction a b => cases fraction <;> rw [Position.mapPos] <;> rfl
  all_goals
    rw [Position.mapPos]
    rfl

theorem objectPlace_mapPos [Arith K] (ref : ObjectRef) (anchor : Option Anchor) :
    v.objectPlace (ref.mapPos f) anchor = relocating f (v.objectPlace ref anchor) := by
  have center : (v.object (ref.mapPos f)).map (·.center)
      = relocating f ((v.object ref).map (·.center)) := by
    rw [object_mapPos, relocating_map]
  have point : ∀ a, (v.object (ref.mapPos f)).map (·.anchorPoint a)
      = relocating f ((v.object ref).map (·.anchorPoint a)) := fun a => by
    rw [object_mapPos, relocating_map]
  unfold objectPlace
  rw [placeOf?_mapPos]
  cases v.placeOf? ref with
  | none =>
    cases anchor with
    | none => exact center
    | some a => exact point a
  | some p =>
    cases anchor with
    | none => rfl
    | some a => rcases ref with q | ⟨q, name | ⟨cls, n, fromLast⟩⟩ | ⟨q, group, r, sel⟩ <;>
        first | rfl | exact point a

theorem vertexOf_mapPos (n : Nat) (ref : ObjectRef) (fromLast : Bool) :
    v.vertexOf n (ref.mapPos f) fromLast = relocating f (v.vertexOf n ref fromLast) := by
  rw [vertexOf, vertexOf, relocating_bind, object_mapPos]
  congr 1
  funext o
  dsimp only
  rw [relocating_ite]
  congr 1
  split <;> rfl

/-! ## Expressions and positions -/

theorem relocating_variableValue (name : String) :
    relocating f (v.variableValue name) = v.variableValue name := by
  rw [variableValue]
  cases v.registry.lookupVariable v.scope name <;> rfl

variable [Arith K]

@[simp] theorem relocating_settle (p : SourcePos) (r : Except Failure K) :
    relocating f (settle p r) = settle (f p) (relocating f r) := by
  rw [settle, settle, relocating_locating]
  congr 1
  cases r with
  | error e => rfl
  | ok x => exact apply_ite (relocating f) _ _ _

theorem relocating_literal (value : Decimal) (unit : Option LengthUnit) :
    relocating f (v.literal value unit) = v.literal value unit := by
  rw [literal]
  cases v.units (Arith.ofDecimal value) unit <;> rfl

theorem relocating_colorNumber (name : String) :
    relocating f (v.colorNumber name) = v.colorNumber name := by
  rw [colorNumber]
  cases v.colors.value? name <;> rfl

theorem relocating_operate (op : BinaryOp) (a b : K) :
    relocating f (operate op a b) = operate op a b := by
  cases op <;> rw [operate] <;> try rfl
  exact apply_ite (relocating f) _ _ _

theorem relocating_apply (function : ScalarFunction) (xs : List K) :
    relocating f (apply function xs) = apply function xs := by
  unfold apply
  split <;> first
    | rfl
    | exact relocating_liftFault f _
    | exact apply_ite (relocating f) _ _ _

mutual

/-- The value of an expression does not depend on places. -/
theorem scalar_mapPos (e : Scalar) :
    v.scalar (e.mapPos f) = relocating f (v.scalar e) := by
  cases e with
  | number p value unit =>
    rw [Scalar.mapPos, scalar, scalar, relocating_settle, relocating_literal]
  | percent p value => rw [Scalar.mapPos, scalar, scalar, relocating_settle]; rfl
  | var p name => rw [Scalar.mapPos, scalar, scalar, relocating_settle, relocating_variableValue]
  | color p name => rw [Scalar.mapPos, scalar, scalar, relocating_settle, relocating_colorNumber]
  | neg p e =>
    rw [Scalar.mapPos, scalar, scalar, relocating_settle, relocating_bind, scalar_mapPos e]
    rfl
  | binary p op a b =>
    rw [Scalar.mapPos, scalar, scalar, relocating_settle, relocating_bind, scalar_mapPos a,
      scalar_mapPos b]
    simp only [relocating_bind, relocating_operate]
  | call p function args =>
    have values := scalars_mapPos args
    rw [Scalar.mapPos, scalar, scalar, relocating_settle, relocating_ite, scalarsMapPos_eq_map,
      List.length_map, values]
    simp only [relocating_bind, relocating_apply]
    rfl
  | dist p args =>
    have points := positions_mapPos args
    rw [Scalar.mapPos, scalar, scalar, relocating_settle, relocating_ite, positionsMapPos_eq_map,
      List.length_map, points, relocating_bind]
    congr 2
    congr 1
    funext ps
    split <;> rfl
  | coordinate p q axis =>
    rw [Scalar.mapPos, scalar, scalar, relocating_settle, relocating_bind, position_mapPos q]
    rfl
  | property p ref what =>
    rw [Scalar.mapPos, scalar, scalar, relocating_settle, relocating_bind, object_mapPos]
    rfl

theorem scalars_mapPos (es : List Scalar) :
    v.scalars (es.map (Scalar.mapPos f)) = relocating f (v.scalars es) := by
  cases es with
  | nil => rw [List.map_nil, scalars]; rfl
  | cons e es =>
    rw [List.map_cons, scalars, scalars, scalar_mapPos e, scalars_mapPos es]
    simp only [relocating_bind, relocating_ok]

theorem positions_mapPos (qs : List Position) :
    v.positions (qs.map (Position.mapPos f)) = relocating f (v.positions qs) := by
  cases qs with
  | nil => rw [List.map_nil, positions]; rfl
  | cons q qs =>
    rw [List.map_cons, positions, positions, position_mapPos q, positions_mapPos qs]
    simp only [relocating_bind, relocating_ok]

/-- The point of a position does not depend on places. -/
theorem position_mapPos (q : Position) :
    v.position (q.mapPos f) = relocating f (v.position q) := by
  cases q with
  | pair p x y =>
    rw [Position.mapPos, position, position, relocating_locating, scalar_mapPos x, scalar_mapPos y]
    simp only [relocating_bind, relocating_ok]
  | object p ref anchor =>
    rw [Position.mapPos, position, position, relocating_locating, objectPlace_mapPos]
  | vertex p n ref fromLast =>
    rw [Position.mapPos, position, position, relocating_locating, vertexOf_mapPos]
  | offset p base dx dy backward =>
    rw [Position.mapPos, position, position, relocating_locating, position_mapPos base,
      scalar_mapPos dx, scalar_mapPos dy]
    simp only [relocating_bind, relocating_ok]
  | mix p a b =>
    rw [Position.mapPos, position, position, relocating_locating, position_mapPos a,
      position_mapPos b]
    simp only [relocating_bind, relocating_ok]
  | relative p distance side base =>
    rw [Position.mapPos, position, position, relocating_locating, scalar_mapPos distance,
      position_mapPos base]
    simp only [relocating_bind, relocating_ok, relocating_liftFault]
  | heading p distance angle base =>
    rw [Position.mapPos, position, position, relocating_locating, scalar_mapPos distance,
      scalar_mapPos angle, position_mapPos base]
    simp only [relocating_bind, relocating_ok, relocating_liftFault]
  | between p fraction a b =>
    cases fraction with
    | none =>
      rw [Position.mapPos, position, position, relocating_locating, position_mapPos a,
        position_mapPos b]
      simp only [relocating_bind, relocating_ok]
    | some e =>
      rw [Position.mapPos, position, position, relocating_locating, scalar_mapPos e,
        position_mapPos a, position_mapPos b]
      simp only [relocating_bind, relocating_ok]

end

theorem size_mapPos (e : Scalar) (reference : K) :
    v.size (e.mapPos f) reference = relocating f (v.size e reference) := by
  cases e
  case percent p value => rw [Scalar.mapPos]; rfl
  all_goals
    refine Eq.trans ?_ (scalar_mapPos f v _)
    rw [Scalar.mapPos]
    rfl

end View

/-! ## Clauses -/

theorem relocating_builtin (v : View K) (name : String) :
    relocating f (v.builtin name) = v.builtin name := by
  rw [View.builtin]
  cases v.registry.lookupVariable v.scope name <;> rfl

theorem relocating_builtinOr (v : View K) (name : Option String) (otherwise : K) :
    relocating f (v.builtinOr name otherwise) = v.builtinOr name otherwise := by
  cases name with
  | none => rfl
  | some n => exact relocating_builtin f v n

namespace Draft

variable [Arith K] (d : Draft K) (v : View K)

theorem relocating_usualWidth : relocating f (d.usualWidth v) = d.usualWidth v := by
  unfold usualWidth
  split
  · exact relocating_builtin f v _
  · rw [relocating_map, relocating_builtin]
  · rfl

theorem relocating_usualHeight : relocating f (d.usualHeight v) = d.usualHeight v := by
  unfold usualHeight
  split
  · exact relocating_builtin f v _
  · rw [relocating_map, relocating_builtin]
  · rfl

theorem setDimension_mapPos (what : Dimension) (value : Scalar) :
    d.setDimension v what (value.mapPos f) = relocating f (d.setDimension v what value) := by
  cases what <;> rw [setDimension, setDimension] <;>
    simp only [relocating_bind, relocating_ok, View.size_mapPos, relocating_usualWidth,
      relocating_usualHeight, usualRadius, relocating_builtinOr]

theorem dashLength_mapPos (e : Option Scalar) :
    dashLength v (e.map (Scalar.mapPos f)) = relocating f (dashLength v e) := by
  cases e with
  | none => exact (relocating_builtin f v _).symm
  | some e => exact View.scalar_mapPos f v e

omit [Arith K] in
theorem sourceOf_mapPos (ref : Option ObjectRef) :
    d.sourceOf v (ref.map (ObjectRef.mapPos f)) = relocating f (d.sourceOf v ref) := by
  cases ref with
  | some r => exact View.object_mapPos f v r
  | none =>
    rw [Option.map_none, sourceOf]
    split
    · exact (relocating_object f _ _).symm
    · rfl

omit [Arith K] in
theorem onPath_congr {h h' : Path K → Except Failure (Path K)}
    (same : ∀ p, h' p = relocating f (h p)) : d.onPath h' = relocating f (d.onPath h) := by
  rw [onPath, onPath]
  cases d.path with
  | none => rfl
  | some p =>
    dsimp only
    rw [same, relocating_bind]
    rfl

omit [Arith K] in
theorem relocating_onPath {h : Path K → Except Failure (Path K)}
    (same : ∀ p, relocating f (h p) = h p) : relocating f (d.onPath h) = d.onPath h :=
  (onPath_congr f d fun p => (same p).symm).symm

theorem setStart_mapPos (q : Position) :
    d.setStart v (q.mapPos f) = relocating f (d.setStart v q) := by
  rw [setStart, setStart, View.position_mapPos, View.wholeObject_mapPos]
  simp only [relocating_bind, relocating_ok]
  congr 1
  funext point
  rw [relocating_onPath f d fun p => rfl]

theorem setTarget_mapPos (q : Position) :
    d.setTarget v (q.mapPos f) = relocating f (d.setTarget v q) := by
  rw [setTarget, setTarget, View.position_mapPos, View.wholeObject_mapPos]
  simp only [relocating_bind, relocating_ok, relocating_ite]
  congr 1
  funext point
  rw [relocating_onPath f d fun p => rfl]

/-- The effect of a clause does not depend on places. -/
theorem applyClause_mapPos (c : Clause) :
    d.applyClause v (c.mapPos f) = relocating f (d.applyClause v c) := by
  cases c with
  | text line => rfl
  | arrow heads => rfl
  | size what value => exact setDimension_mapPos f d v what value
  | thickness value =>
    simp only [Clause.mapPos, applyClause, relocating_bind, relocating_ok, View.size_mapPos,
      relocating_builtin]
  | flag what => rfl
  | dotted gap =>
    simp only [Clause.mapPos, applyClause, relocating_bind, relocating_ok, dashLength_mapPos]
  | dashed gap =>
    simp only [Clause.mapPos, applyClause, relocating_bind, relocating_ok, dashLength_mapPos]
  | fill value =>
    simp only [Clause.mapPos, applyClause, relocating_bind, relocating_ok, relocating_liftFault,
      View.scalar_mapPos]
  | color value =>
    simp only [Clause.mapPos, applyClause, relocating_bind, relocating_ok, relocating_liftFault,
      View.scalar_mapPos]
  | same source =>
    simp only [Clause.mapPos, applyClause, relocating_bind, relocating_ok, sourceOf_mapPos]
  | located q =>
    simp only [Clause.mapPos, applyClause, relocating_bind, relocating_ok, View.position_mapPos]
  | anchored anchor q =>
    simp only [Clause.mapPos, applyClause, relocating_bind, relocating_ok, View.position_mapPos]
  | start q => exact setStart_mapPos f d v q
  | target q => exact setTarget_mapPos f d v q
  | next =>
    refine (relocating_onPath f d fun p => ?_).symm
    cases p.next? <;> rfl
  | direction dir length =>
    cases length with
    | none => exact (relocating_onPath f d fun p => rfl).symm
    | some e =>
      refine onPath_congr f d fun p => ?_
      rw [stretch, stretch, View.size_mapPos, relocating_bind]
      rfl
  | directionUntil dir q =>
    refine onPath_congr f d fun p => ?_
    rw [View.position_mapPos, relocating_bind]
    rfl
  | heading angle length =>
    cases length with
    | none =>
      refine onPath_congr f d fun p => ?_
      rw [View.scalar_mapPos, relocating_bind]
      rfl
    | some e =>
      refine onPath_congr f d fun p => ?_
      simp only [View.scalar_mapPos, relocating_bind, relocating_ok]
  | untilEven q =>
    refine onPath_congr f d fun p => ?_
    rw [View.position_mapPos, relocating_bind]
    rfl
  | distance value =>
    refine onPath_congr f d fun p => ?_
    rw [stretch, stretch, View.size_mapPos, relocating_bind]
    rfl

theorem apply_mapPos (a : Attribute) :
    d.apply v (a.mapPos f) = relocating f (d.apply v a) := by
  rw [apply, apply, relocating_locating, Attribute.mapPos]
  dsimp only
  rw [ObjectClass.accepts_mapPos, applyClause_mapPos, relocating_ite, Clause.shown_mapPos]
  rfl

theorem applyAll_mapPos (as : List Attribute) :
    Draft.applyAll v d (as.map (Attribute.mapPos f)) = relocating f (Draft.applyAll v d as) := by
  induction as generalizing d with
  | nil => rfl
  | cons a as ih =>
    rw [applyAll, applyAll, List.map_cons, List.foldlM_cons, List.foldlM_cons, relocating_bind,
      apply_mapPos]
    congr 1
    funext next
    exact ih next

end Draft

/-! ## Placement -/

section Placement

variable [Arith K] (s : Setting K)

theorem relocating_stackingStart (framed : Bool) :
    relocating f (stackingStart s framed) = stackingStart s framed := by
  unfold stackingStart
  split
  · rfl
  · simp only [relocating_bind, relocating_object, relocating_ite, relocating_builtin,
      relocating_ok]

namespace Draft

theorem relocating_sizeToText (d : Draft K) :
    relocating f (d.sizeToText s) = d.sizeToText s := by
  unfold sizeToText
  rw [relocating_ite]
  congr 1
  simp only [relocating_bind, relocating_builtin, relocating_liftFault, relocating_ok,
    relocating_ite, fittingSize]

theorem relocating_placeFramed (d : Draft K) :
    relocating f (d.placeFramed s) = d.placeFramed s := by
  unfold placeFramed
  split
  · rfl
  · simp only [relocating_bind, relocating_stackingStart, relocating_ok]

theorem relocating_pathPoints (d : Draft K) (path : Path K) (start : Point K) (serial : Nat) :
    relocating f (d.pathPoints path start serial) = d.pathPoints path start serial := by
  unfold pathPoints
  dsimp only
  rw [relocating_ite, relocating_ite]
  congr 2
  generalize (path.setOrigin _).build _ = built
  cases built <;> rfl

theorem relocating_chopStart (r : Registry K) (id : Option Nat) (points : List (Point K)) :
    relocating f (chopStart r id points) = chopStart r id points := by
  unfold chopStart
  split
  · simp only [boundary, relocating_bind, relocating_object, relocating_liftFault, relocating_ok]
  · rfl

theorem relocating_chopEnds (d : Draft K) (r : Registry K) (points : List (Point K)) :
    relocating f (d.chopEnds r points) = d.chopEnds r points :=
  relocating_bind_self f (relocating_chopStart f r d.fromObject points) fun points =>
    relocating_bind_self f (relocating_chopStart f r d.toObject points.reverse) fun _ => rfl

theorem relocating_placePath (d : Draft K) : relocating f (d.placePath s) = d.placePath s := by
  unfold placePath
  split
  · rfl
  · refine relocating_bind_self f (relocating_stackingStart f s false) fun start => ?_
    refine relocating_bind_self f (relocating_pathPoints f d _ start s.serial) fun built => ?_
    dsimp only
    rw [relocating_ite]
    refine ite_congr rfl (fun _ => ?_) fun _ => ?_
    · refine relocating_bind_self f (relocating_chopEnds f d _ _) fun points => ?_
      split <;> rfl
    · refine relocating_bind_self f rfl fun points => ?_
      split <;> rfl

/-- What is wrong with the place of an object has no place in the script. -/
theorem relocating_place (d : Draft K) : relocating f (d.place s) = d.place s := by
  unfold place
  simp only [relocating_ite, relocating_bind, relocating_placePath, relocating_sizeToText,
    relocating_placeFramed, relocating_ok]

theorem relocating_begin (v : View K) (id : Nat) (cls : ObjectClass) (direction : Direction) :
    relocating f (Draft.begin v id cls direction) = Draft.begin v id cls direction := by
  unfold Draft.begin
  simp only [defaultStyle, pathUnit, relocating_bind, relocating_ite, relocating_builtin,
    relocating_builtinOr, relocating_liftFault, relocating_ok]

end Draft

end Placement

/-! ## Statements -/

/-- The same outcome, with its mistake found at another place. -/
def Outcome.mapPos (o : Outcome K) : Outcome K := (relocating f o.1, o.2)

@[simp] theorem Outcome.mapPos_locate (o : Outcome K) (p : SourcePos) :
    Outcome.mapPos f (o.locate p) = (Outcome.mapPos f o).locate (f p) := by
  rw [mapPos, locate, relocating_locating]
  rfl

theorem Outcome.mapPos_andThen (o : Outcome K) (next : Drawing K → Outcome K) :
    Outcome.mapPos f (o.andThen next) =
      (Outcome.mapPos f o).andThen fun d => Outcome.mapPos f (next d) := by
  obtain ⟨r, d⟩ := o
  cases r <;> rfl

namespace Drawing

variable (d : Drawing K)

@[simp] theorem mapPos_attempt (r : Except Failure (Drawing K)) :
    Outcome.mapPos f (d.attempt r) = d.attempt (relocating f r) := by
  cases r <;> rfl

variable [Arith K] (t : Resources K)

theorem mapPos_finish (draft : Draft K) (exit : Option Direction) (label : Option String) :
    Outcome.mapPos f (d.finish draft exit label) = d.finish draft exit label := by
  have found : ∀ {r : Registry K} {s : Nat} {l : String},
      relocating f (r.requireFree s l) = r.requireFree s l := fun {r s l} => by
    rw [Registry.requireFree, relocating_ite]
    rfl
  have finalized : relocating f (d.registry.finalize d.scope draft.object.id)
      = d.registry.finalize d.scope draft.object.id := by
    rw [Registry.finalize, relocating_bind, relocating_object]
    rfl
  have bound : ∀ (r : Registry K) (l : String),
      relocating f (r.bindLabel d.scope l draft.object.id).1
      = (r.bindLabel d.scope l draft.object.id).1 := fun r l => by
    unfold Registry.bindLabel
    have free := found (r := r) (s := d.scope) (l := l)
    cases h : r.requireFree d.scope l with
    | error e =>
      rw [h] at free
      exact free
    | ok u =>
      dsimp only
      rw [relocating_map, relocating_object]
  unfold finish
  cases h : d.registry.finalize d.scope draft.object.id with
  | error e =>
    rw [h] at finalized
    exact Prod.ext (congrArg Except.error (Except.error.inj finalized)) rfl
  | ok r =>
    cases label with
    | none => rfl
    | some l =>
      dsimp only
      have key := bound r l
      rcases hb : r.bindLabel d.scope l draft.object.id with ⟨o, r'⟩
      rw [hb] at key
      cases o with
      | error e => exact Prod.ext (congrArg Except.error (Except.error.inj key)) rfl
      | ok u => rfl

theorem draft_mapPos (id : Nat) (cls : ObjectClass) (attributes : List Attribute) :
    d.draft t id cls (attributes.map (Attribute.mapPos f)) =
      relocating f (d.draft t id cls attributes) := by
  simp only [draft, relocating_bind, Draft.relocating_begin, Draft.applyAll_mapPos,
    Draft.relocating_place]

/-- The effect of a declaration does not depend on places. -/
theorem declare_mapPos (cls : ObjectClass) (label : Option String) (attributes : List Attribute) :
    d.declare t cls label (attributes.map (Attribute.mapPos f)) =
      Outcome.mapPos f (d.declare t cls label attributes) := by
  unfold declare
  dsimp only
  rw [draft_mapPos]
  cases (d.create cls).2.draft t (d.create cls).1 cls attributes with
  | error e => rfl
  | ok r => exact (mapPos_finish f _ _ _ _).symm

theorem group_mapPos (inner : Nat) (origin : Point K) (label : Option String)
    (attributes : List Attribute) :
    d.group t inner origin label (attributes.map (Attribute.mapPos f)) =
      Outcome.mapPos f (d.group t inner origin label attributes) := by
  have drafts : ∀ e : Drawing K, ∀ id,
      e.groupDraft t id inner origin (attributes.map (Attribute.mapPos f))
        = relocating f (e.groupDraft t id inner origin attributes) := fun e id => by
    simp only [groupDraft, relocating_bind, Draft.relocating_begin, Draft.applyAll_mapPos,
      Draft.relocating_placeFramed, relocating_ok]
  unfold group
  dsimp only
  rw [drafts]
  cases (d.create .container).2.groupDraft t (d.create .container).1 inner origin attributes with
  | error e => rfl
  | ok r => exact (mapPos_finish f _ _ _ _).symm

theorem assign_mapPos (name : String) (op : AssignOp) (e : Scalar) :
    d.assign t name op (e.mapPos f) = relocating f (d.assign t name op e) := by
  have value : ∀ x,
      relocating f (assigned (d.view t) name op x) = assigned (d.view t) name op x := by
    intro x
    unfold assigned
    split
    · rfl
    · split
      · rfl
      · simp only [relocating_bind, View.relocating_operate, relocating_ite, relocating_ok,
          relocating_error, Failure.mapPos_eval]
  simp only [assign, relocating_bind, View.scalar_mapPos, value, relocating_ok]

theorem relocating_numberText (x : K) : relocating f (numberText x) = numberText x := by
  rw [numberText, relocating_ite, relocating_liftFault]
  rfl

theorem itemText_mapPos (v : View K) (i : PrintItem) :
    itemText v (i.mapPos f) = relocating f (itemText v i) := by
  cases i with
  | text s => rfl
  | value e =>
    simp only [PrintItem.mapPos, itemText, relocating_bind, View.scalar_mapPos,
      relocating_numberText]

theorem print_mapPos (items : List PrintItem) :
    d.print t (items.map (PrintItem.mapPos f)) = relocating f (d.print t items) := by
  have texts : (items.map (PrintItem.mapPos f)).mapM (itemText (d.view t))
      = relocating f (items.mapM (itemText (d.view t))) := by
    induction items with
    | nil => rfl
    | cons i items ih =>
      simp only [List.map_cons, List.mapM_cons, relocating_bind, itemText_mapPos, ih]
      rfl
  simp only [print, relocating_bind, texts, relocating_ok]

theorem assertScalars_mapPos (left right : Scalar) :
    d.assertScalars t (left.mapPos f) (right.mapPos f) =
      relocating f (d.assertScalars t left right) := by
  simp only [assertScalars, relocating_bind, View.scalar_mapPos, relocating_numberText,
    relocating_ite, relocating_ok, relocating_error, Failure.mapPos_eval]

theorem assertPositions_mapPos (left right : Position) :
    d.assertPositions t (left.mapPos f) (right.mapPos f) =
      relocating f (d.assertPositions t left right) := by
  simp only [assertPositions, pointText, relocating_bind, View.position_mapPos,
    relocating_numberText, relocating_ite, relocating_ok, relocating_error, Failure.mapPos_eval]

theorem bindPlace_mapPos (label : String) (q : Position) :
    d.bindPlace t label (q.mapPos f) = relocating f (d.bindPlace t label q) := by
  simp only [bindPlace, Registry.bindPlace, Registry.requireFree, relocating_bind,
    View.position_mapPos, relocating_ite, relocating_ok, relocating_error,
    Failure.mapPos_reference]

end Drawing

variable [Arith K] (t : Resources K)

mutual

/-- The effect of a statement does not depend on its place. -/
theorem execute_mapPos (d : Drawing K) (s : Statement) :
    execute t d (s.mapPos f) = Outcome.mapPos f (execute t d s) := by
  cases s with
  | object p cls label attributes =>
    rw [Statement.mapPos, execute, execute, Outcome.mapPos_locate, Drawing.declare_mapPos]
  | group p body label attributes =>
    have start := relocating_stackingStart f (d.setting t) true
    rw [Statement.mapPos, execute, execute]
    cases h : stackingStart (d.setting t) true with
    | error e =>
      rw [h] at start
      rw [Outcome.mapPos_locate]
      exact congrArg (fun e => Outcome.locate (.error e, d) (f p)) (Except.error.inj start).symm
    | ok origin =>
      dsimp only
      rw [statementsMapPos_eq_map, run_mapPos (d.enter origin) body, Outcome.mapPos_locate,
        Outcome.mapPos_andThen]
      congr 2
      funext after
      exact after.group_mapPos f t _ origin label attributes
  | assign p name op value =>
    rw [Statement.mapPos, execute, execute, Outcome.mapPos_locate, Drawing.mapPos_attempt,
      Drawing.assign_mapPos]
  | direction p dir =>
    rw [Statement.mapPos, execute, execute]
    rfl
  | print p items =>
    rw [Statement.mapPos, execute, execute, Outcome.mapPos_locate, Drawing.mapPos_attempt,
      Drawing.print_mapPos]
  | assertScalars p left right =>
    rw [Statement.mapPos, execute, execute, Outcome.mapPos_locate, Drawing.mapPos_attempt,
      Drawing.assertScalars_mapPos]
  | assertPositions p left right =>
    rw [Statement.mapPos, execute, execute, Outcome.mapPos_locate, Drawing.mapPos_attempt,
      Drawing.assertPositions_mapPos]
  | place p label q =>
    rw [Statement.mapPos, execute, execute, Outcome.mapPos_locate, Drawing.mapPos_attempt,
      Drawing.bindPlace_mapPos]

/-- The effect of some statements does not depend on their places. -/
theorem run_mapPos (d : Drawing K) (ss : List Statement) :
    run t d (ss.map (Statement.mapPos f)) = Outcome.mapPos f (run t d ss) := by
  cases ss with
  | nil =>
    rw [List.map_nil, run]
    rfl
  | cons s ss =>
    rw [List.map_cons, run, run, execute_mapPos d s]
    rcases h : execute t d s with ⟨r, next⟩
    cases r with
    | error e => rfl
    | ok u => exact run_mapPos next ss

end

end DiagramScript
