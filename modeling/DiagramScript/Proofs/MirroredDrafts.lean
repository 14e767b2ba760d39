import DiagramScript.Proofs.MirroredViews
import DiagramScript.Proofs.PlacedDrafts

/-!
# Declarations under other names

What a declaration makes of its clauses, and where its object is placed, depends on what is looked
up, and not on what it is called.

* `Renaming.path`, `Renaming.draft`, `Renaming.cursor` — the same under other names.
* `Renaming.build_path` — the points of a path.
* `Clause.byLabel` — whether a clause means objects by their labels only, or also by counting.
* `View.Mirrors.applyAll` — the effect of clauses.
* `Setting.Mirrors` — two settings that differ in names only; `Setting.Mirrors.place` — the same
  places.
-/

namespace DiagramScript

variable {K : Type}

namespace Renaming

variable (ρ : Renaming)

/-! ## Paths and drafts -/

/-- A stretch with other marks. -/
def move : Move (Marked K) → Move (Marked K)
  | .straight d distance => .straight d (distance.map ρ.number)
  | .heading degrees distance => .heading (ρ.number degrees) (distance.map ρ.number)
  | .untilEven d target => .untilEven d (ρ.point target)

/-- A segment with other marks. -/
def segment : Segment (Marked K) → Segment (Marked K)
  | .target p => .target (ρ.point p)
  | .moves ms => .moves (ms.map ρ.move)

/-- A path with other marks. -/
def path (p : Path (Marked K)) : Path (Marked K) where
  direction := p.direction
  unit d := ρ.number (p.unit d)
  origin := p.origin.map ρ.point
  earlier := p.earlier.map ρ.segment
  current := ρ.segment p.current
  closed := p.closed

/-- What stretches have led to so far, with other marks. -/
def reach (r : Path.Reach (Marked K)) : Path.Reach (Marked K) :=
  ⟨ρ.number r.dx, ρ.number r.dy, r.exit⟩

/-- The points of a path with other marks, and the direction in which it ends. -/
def trace (t : List (Point (Marked K)) × Option Direction) :
    List (Point (Marked K)) × Option Direction :=
  (t.1.map ρ.point, t.2)

/-- A draft with other marks and other numbers of objects. -/
def draft (d : Draft (Marked K)) : Draft (Marked K) where
  object := ρ.object d.object
  path := d.path.map ρ.path
  located := d.located.map ρ.point
  anchor := d.anchor
  fit := d.fit
  chop := d.chop
  explicitWidth := d.explicitWidth
  explicitHeight := d.explicitHeight
  fromObject := d.fromObject.map ρ.index
  toObject := d.toObject.map ρ.index
  arcEnd := d.arcEnd.map ρ.point
  copiedPath := d.copiedPath.map ρ.point

/-- A draft that is placed, and the direction in which its path ends. -/
def placed (p : Draft (Marked K) × Option Direction) : Draft (Marked K) × Option Direction :=
  (ρ.draft p.1, p.2)

/-- The cursor with other marks, behind an object with another number. -/
def cursor (c : Cursor (Marked K)) : Cursor (Marked K) where
  position := ρ.point c.position
  direction := c.direction
  flow := c.flow.map ρ.index

theorem cursor_direction (c : Cursor (Marked K)) : (ρ.cursor c).direction = c.direction := rfl

theorem cursor_flow (c : Cursor (Marked K)) : (ρ.cursor c).flow = c.flow.map ρ.index := rfl

theorem path_current (p : Path (Marked K)) : (ρ.path p).current = ρ.segment p.current := rfl

theorem draft_object (d : Draft (Marked K)) : (ρ.draft d).object = ρ.object d.object := rfl

theorem draft_located (d : Draft (Marked K)) : (ρ.draft d).located = d.located.map ρ.point := rfl

theorem draft_anchor (d : Draft (Marked K)) : (ρ.draft d).anchor = d.anchor := rfl

/-! ## Clauses of a path -/

@[simp] theorem isEmpty_segment (s : Segment (Marked K)) : (ρ.segment s).isEmpty = s.isEmpty := by
  cases s with
  | target p => rfl
  | moves ms => cases ms <;> rfl

theorem isBare_path (p : Path (Marked K)) : (ρ.path p).isBare = p.isBare := by
  simp [Path.isBare, Path.segments, path, Function.comp_def]

theorem beginSegment_path (p : Path (Marked K)) :
    (ρ.path p).beginSegment = ρ.path p.beginSegment := by
  simp [Path.beginSegment, path, segment]

theorem addTarget_path (p : Path (Marked K)) (target : Point (Marked K)) :
    (ρ.path p).addTarget (ρ.point target) = ρ.path (p.addTarget target) := by
  unfold Path.addTarget
  rw [beginSegment_path, path_current, isEmpty_segment]
  split_ifs <;> rfl

theorem next?_path (p : Path (Marked K)) : (ρ.path p).next? = p.next?.map ρ.path := by
  unfold Path.next?
  rw [beginSegment_path, path_current, isEmpty_segment]
  split_ifs <;> rfl

theorem addMove_path (p : Path (Marked K)) (m : Move (Marked K)) :
    (ρ.path p).addMove (ρ.move m) = ρ.path (p.addMove m) := by
  unfold Path.addMove
  rw [beginSegment_path, path_current]
  cases p.current <;> rfl

theorem move_path (p : Path (Marked K)) (d : Direction) (distance : Option (Marked K)) :
    (ρ.path p).move d (distance.map ρ.number) = ρ.path (p.move d distance) := by
  unfold Path.move
  rw [show Move.straight d (distance.map ρ.number) = ρ.move (.straight d distance) from rfl,
    addMove_path]
  rfl

theorem heading_path (p : Path (Marked K)) (degrees : Marked K) (distance : Option (Marked K)) :
    (ρ.path p).heading (ρ.number degrees) (distance.map ρ.number) =
      ρ.path (p.heading degrees distance) :=
  ρ.addMove_path p (.heading degrees distance)

theorem untilEven_path (p : Path (Marked K)) (d : Option Direction) (target : Point (Marked K)) :
    (ρ.path p).untilEven d (ρ.point target) = ρ.path (p.untilEven d target) :=
  ρ.addMove_path { p with direction := d.getD p.direction }
    (.untilEven (d.getD p.direction) target)

/-! ## Points of a path -/

variable [Arith K]

theorem step_path (p : Path (Marked K)) (start : Point (Marked K)) (r : Path.Reach (Marked K))
    (m : Move (Marked K)) :
    Alike ρ.reach (p.step start r m) ((ρ.path p).step (ρ.point start) (ρ.reach r) (ρ.move m)) := by
  cases m with
  | straight d distance => cases distance <;> exact .ok _
  | heading degrees distance =>
    refine .bind ((ρ.headingVector_number degrees).mapError _ _) fun v _ => ?_
    cases distance <;> exact .ok _
  | untilEven d target =>
    refine .of_eq_ok ?_
    rw [apply_ite ρ.reach]
    rfl

theorem resolveMoves_path (p : Path (Marked K)) (start : Point (Marked K)) (exit : Option Direction)
    (ms : List (Move (Marked K))) : Alike (fun q => (ρ.point q.1, q.2))
      (p.resolveMoves start exit ms)
      ((ρ.path p).resolveMoves (ρ.point start) exit (ms.map ρ.move)) := by
  have all : ∀ r, Alike ρ.reach (ms.foldlM (p.step start) r)
      ((ms.map ρ.move).foldlM ((ρ.path p).step (ρ.point start)) (ρ.reach r)) := by
    induction ms with
    | nil => exact fun r => .ok r
    | cons m ms ih =>
      intro r
      rw [List.map_cons, List.foldlM_cons, List.foldlM_cons]
      exact .bind (ρ.step_path p start r m) fun r _ => ih r
  exact .bind (all ⟨Arith.num 0, Arith.num 0, exit⟩) fun r _ =>
    .ok ((⟨start.x + r.dx, start.y + r.dy⟩, r.exit) : Point (Marked K) × Option Direction)

theorem follow_path (p : Path (Marked K)) (here : Point (Marked K)) (exit : Option Direction)
    (segments : List (Segment (Marked K))) : Alike ρ.trace (p.follow here exit segments)
      ((ρ.path p).follow (ρ.point here) exit (segments.map ρ.segment)) := by
  induction segments generalizing here exit with
  | nil => exact .ok ([], exit)
  | cons s segments ih =>
    match s with
    | .target t => exact .bind (ih t none) fun r _ => .ok (t :: r.1, r.2)
    | .moves [] => exact ih here exit
    | .moves (m :: ms) =>
      have moves := ρ.resolveMoves_path p here exit (m :: ms).reverse
      rw [List.map_reverse] at moves
      exact .bind moves fun q _ => .bind (ih q.1 q.2) fun r _ => .ok (q.1 :: r.1, r.2)

theorem closeUp_point (closed : Bool) (ps : List (Point (Marked K))) :
    Path.closeUp closed (ps.map ρ.point) = (Path.closeUp closed ps).map ρ.point := by
  unfold Path.closeUp
  rw [List.head?_map, List.getLast?_map]
  cases ps.head? with
  | none => rfl
  | some first =>
    cases ps.getLast? with
    | none => rfl
    | some last =>
      simp only [Option.map_some, same_point, List.length_map, apply_ite (List.map ρ.point),
        List.map_append, List.map_cons, List.map_nil]

theorem build_path (p : Path (Marked K)) (start : Point (Marked K)) :
    Alike ρ.trace (p.build start) ((ρ.path p).build (ρ.point start)) := by
  have origin : (ρ.path p).origin.getD (ρ.point start) = ρ.point (p.origin.getD start) :=
    Option.getD_map ρ.point start p.origin
  have segments : (ρ.path p).segments = p.segments.map ρ.segment := by
    simp [Path.segments, path]
  unfold Path.build
  rw [origin, segments]
  let o := p.origin.getD start
  let next := o.plus (p.direction.vector.scale (p.unit p.direction))
  refine .bind (ρ.follow_path p o none p.segments) fun r _ => ?_
  refine .ite (by simp [trace]) (fun _ => .of_eq_ok ?_) fun _ => .of_eq_ok ?_
  · exact Prod.ext (ρ.closeUp_point p.closed [o, next]) rfl
  · exact Prod.ext (ρ.closeUp_point p.closed (_ :: r.1)) rfl

theorem arcEnd_point (start : Point (Marked K)) (direction : Direction) (radius : Marked K)
    (clockwise : Bool) : arcEnd (ρ.point start) direction (ρ.number radius) clockwise =
      ρ.point (arcEnd start direction radius clockwise) := by
  unfold arcEnd
  cases clockwise <;> rfl

theorem arcPoints_point (start : Point (Marked K)) (finish : Option (Point (Marked K)))
    (direction : Direction) (radius : Marked K) (clockwise : Bool) :
    arcPoints (ρ.point start) (finish.map ρ.point) direction (ρ.number radius) clockwise =
      (arcPoints start finish direction radius clockwise).map ρ.point := by
  unfold arcPoints
  rw [arcEnd_point, Option.getD_map, apply_ite (List.map ρ.point)]
  cases clockwise <;> rfl

end Renaming

/-! ## Drafts -/

namespace Renaming

variable [Arith K] (ρ : Renaming)

theorem setWidth_draft (d : Draft (Marked K)) (x : Marked K) :
    (ρ.draft d).setWidth (ρ.number x) = ρ.draft (d.setWidth x) := by
  unfold Draft.setWidth
  rw [apply_ite ρ.draft]
  rfl

theorem setHeight_draft (d : Draft (Marked K)) (x : Marked K) :
    (ρ.draft d).setHeight (ρ.number x) = ρ.draft (d.setHeight x) := by
  unfold Draft.setHeight
  rw [apply_ite ρ.draft]
  rfl

theorem setRadius_draft (d : Draft (Marked K)) (x : Marked K) :
    (ρ.draft d).setRadius (ρ.number x) = ρ.draft (d.setRadius x) := by
  unfold Draft.setRadius
  rw [apply_ite ρ.draft]
  rfl

theorem setFlag_draft (d : Draft (Marked K)) (f : Flag) :
    (ρ.draft d).setFlag f = ρ.draft (d.setFlag f) := by
  cases f with
  | close =>
    obtain ⟨object, path⟩ := d
    cases path <;> rfl
  | _ => rfl

theorem copyFrom_draft (d : Draft (Marked K)) {source source' : Object (Marked K)}
    (h : source.Mirrors ρ source') :
    (ρ.draft d).copyFrom source' = ρ.draft (d.copyFrom source) := by
  obtain ⟨n, rfl⟩ := h
  unfold Draft.copyFrom
  dsimp only
  rw [show ((ρ.draft d).object.cls.isLine && (ρ.object source).cls.isLine) =
    (d.object.cls.isLine && source.cls.isLine) from rfl,
    show (ρ.object source).points = source.points.map ρ.point from rfl]
  cases d.object.cls.isLine && source.cls.isLine with
  | false => rfl
  | true =>
    rcases source.points with _ | ⟨first, _ | ⟨second, rest⟩⟩
    · rfl
    · rfl
    · have offsets : (ρ.point second :: rest.map ρ.point).map (fun p =>
          (⟨p.x - (ρ.point first).x, p.y - (ρ.point first).y⟩ : Point (Marked K))) =
          ((second :: rest).map fun p => ⟨p.x - first.x, p.y - first.y⟩).map ρ.point := by
        rw [← List.map_cons, List.map_map, List.map_map]
        rfl
      rw [List.map_cons, List.map_cons]
      dsimp only
      rw [offsets]
      rfl

omit [Arith K] in
theorem onPath_draft (d : Draft (Marked K))
    {f f' : Path (Marked K) → Except Failure (Path (Marked K))}
    (h : ∀ p, Alike ρ.path (f p) (f' (ρ.path p))) :
    Alike ρ.draft (d.onPath f) ((ρ.draft d).onPath f') := by
  obtain ⟨object, path⟩ := d
  cases path with
  | none => exact .error _ _
  | some p => exact .bind (h p) fun p _ => .ok _

end Renaming

/-! ## Clauses -/

/-- Whether a clause means objects by labels only, or also by counting if that is allowed.  The
latest object of the class is found by counting. -/
def Clause.byLabel (counting : Bool) : Clause → Bool
  | .text _ => true
  | .arrow _ => true
  | .size _ value => value.byLabel counting
  | .thickness value => value.byLabel counting
  | .flag _ => true
  | .dotted gap => gap.all (Scalar.byLabel counting)
  | .dashed length => length.all (Scalar.byLabel counting)
  | .fill value => value.byLabel counting
  | .color value => value.byLabel counting
  | .same source => source.elim counting (ObjectRef.byLabel counting)
  | .located q => q.byLabel counting
  | .anchored _ q => q.byLabel counting
  | .start q => q.byLabel counting
  | .target q => q.byLabel counting
  | .next => true
  | .direction _ length => length.all (Scalar.byLabel counting)
  | .directionUntil _ q => q.byLabel counting
  | .heading angle length => angle.byLabel counting && length.all (Scalar.byLabel counting)
  | .untilEven q => q.byLabel counting
  | .distance value => value.byLabel counting

/-- If counting is allowed, there is nothing to ask of a clause. -/
@[simp] theorem Clause.byLabel_true (c : Clause) : c.byLabel true = true := by
  have all : ∀ e : Option Scalar, e.all (Scalar.byLabel true) = true := fun e => by cases e <;> simp
  cases c with
  | same source => cases source <;> simp [Clause.byLabel]
  | _ => simp [Clause.byLabel, all]

namespace View.Mirrors

variable [Arith K] {ρ : Renaming} {counting : Bool} {v w : View (Marked K)}
  (h : v.Mirrors ρ counting w)
include h

omit [Arith K] in
theorem pathUnit (cls : ObjectClass) :
    Alike (fun (unit : Direction → Marked K) d => ρ.number (unit d)) (Draft.pathUnit v cls)
      (Draft.pathUnit w cls) := by
  refine .bind (h.builtin _) fun across _ => .bind (h.builtin _) fun along _ => .of_eq_ok ?_
  funext d
  exact (apply_ite ρ.number _ _ _).symm

theorem defaultStyle (cls : ObjectClass) :
    Alike ρ.style (Draft.defaultStyle v cls) (Draft.defaultStyle w cls) := by
  refine .bind (h.builtin "color") fun color _ => .bind (h.builtin "fill") fun fill _ => ?_
  refine .bind (h.builtin "thickness") fun thickness _ => ?_
  refine .bind (ρ.ofNumber_alike color).liftFault fun color _ => ?_
  exact .bind (ρ.ofNumber_alike fill).liftFault fun fill _ => .ok _

theorem begin (id : Nat) (cls : ObjectClass) (direction : Direction) :
    Alike ρ.draft (Draft.begin v id cls direction) (Draft.begin w (ρ.index id) cls direction) := by
  refine .bind (h.builtinOr _ (Arith.num 0)) fun radius _ => ?_
  refine .bind (h.builtinOr _ (Arith.num 0)) fun width _ => ?_
  refine .bind (h.builtinOr _ (Arith.num 0)) fun height _ => ?_
  refine .bind (h.defaultStyle cls) fun style _ => ?_
  have size : ∀ x : Marked K, (if cls.keepsAspect then Arith.twice (ρ.number radius)
      else ρ.number x) = ρ.number (if cls.keepsAspect then Arith.twice radius else x) := by
    intro x
    rw [apply_ite ρ.number]
    rfl
  rw [size, size]
  refine .ite Iff.rfl (fun _ => ?_) fun _ => .ok _
  exact .bind (h.pathUnit cls) fun unit _ => .ok _

theorem usualWidth (d : Draft (Marked K)) :
    Alike ρ.number (d.usualWidth v) ((ρ.draft d).usualWidth w) := by
  unfold Draft.usualWidth
  rw [ρ.draft_object, ρ.object_cls]
  split
  · exact h.builtin _
  · exact (h.builtin _).map fun _ => rfl
  · exact .ok _

theorem usualHeight (d : Draft (Marked K)) :
    Alike ρ.number (d.usualHeight v) ((ρ.draft d).usualHeight w) := by
  unfold Draft.usualHeight
  rw [ρ.draft_object, ρ.object_cls]
  split
  · exact h.builtin _
  · exact (h.builtin _).map fun _ => rfl
  · exact .ok _

omit [Arith K] in
theorem usualRadius (d : Draft (Marked K)) :
    Alike ρ.number (d.usualRadius v) ((ρ.draft d).usualRadius w) :=
  h.builtinOr _ _

theorem setDimension (d : Draft (Marked K)) (what : Dimension) {value : Scalar}
    (hv : value.byLabel counting = true) :
    Alike ρ.draft (d.setDimension v what value) ((ρ.draft d).setDimension w what value) := by
  cases what with
  | width =>
    exact .bind (h.usualWidth d) fun reference _ => .bind (h.size hv reference) fun x _ =>
      .of_eq_ok (ρ.setWidth_draft d x)
  | height =>
    exact .bind (h.usualHeight d) fun reference _ => .bind (h.size hv reference) fun x _ =>
      .of_eq_ok (ρ.setHeight_draft d x)
  | radius =>
    exact .bind (h.usualRadius d) fun reference _ => .bind (h.size hv reference) fun x _ =>
      .of_eq_ok (ρ.setRadius_draft d x)
  | diameter =>
    exact .bind (h.usualRadius d) fun reference _ =>
      .bind (h.size hv (Arith.twice reference)) fun x _ => .ok (d.setDiameter x)

theorem dashLength {e : Option Scalar} (he : e.all (Scalar.byLabel counting) = true) :
    Alike ρ.number (Draft.dashLength v e) (Draft.dashLength w e) := by
  cases e with
  | none => exact h.builtin _
  | some e => exact h.scalar he

theorem stretch (p : Path (Marked K)) (direction : Direction) {e : Scalar}
    (he : e.byLabel counting = true) : Alike ρ.number (Draft.stretch v p direction e)
      (Draft.stretch w (ρ.path p) direction e) :=
  h.size he _

omit [Arith K] in
theorem sourceOf (d : Draft (Marked K)) {source : Option ObjectRef}
    (hs : source.elim counting (ObjectRef.byLabel counting) = true) :
    Together (Object.Mirrors ρ) (d.sourceOf v source) ((ρ.draft d).sourceOf w source) := by
  cases source with
  | some ref => exact h.objectOf hs
  | none =>
    -- what is copied is then found as any other object that is counted
    let ref : ObjectRef := .select ⟨0, 0⟩ (.ordinal d.object.cls 1 true)
    have latest : Alike ρ.index (v.registry.resolveOrdinal v.scope d.object.cls 1 true)
        (w.registry.resolveOrdinal w.scope (ρ.draft d).object.cls 1 true) :=
      h.follow (show ref.byLabel counting = true from hs)
    rw [Draft.sourceOf, Draft.sourceOf]
    revert latest
    generalize v.registry.resolveOrdinal _ _ _ _ = found
    generalize w.registry.resolveOrdinal _ _ _ _ = found'
    intro latest
    cases latest with
    | ok id => exact h.object id
    | error d e => exact .error _ _

theorem setStart (d : Draft (Marked K)) {q : Position} (hq : q.byLabel counting = true) :
    Alike ρ.draft (d.setStart v q) ((ρ.draft d).setStart w q) := by
  refine .bind (h.position hq) fun point _ => ?_
  refine .bind (ρ.onPath_draft d fun p => .ok _) fun d _ => ?_
  exact .bind (h.wholeObject hq) fun whole _ => .ok _

theorem setTarget (d : Draft (Marked K)) {q : Position} (hq : q.byLabel counting = true) :
    Alike ρ.draft (d.setTarget v q) ((ρ.draft d).setTarget w q) := by
  have ended : ∀ d : Draft (Marked K), Alike ρ.draft
      (v.wholeObject q >>= fun whole => .ok { d with toObject := whole })
      (w.wholeObject q >>= fun whole => .ok { ρ.draft d with toObject := whole }) := fun d =>
    .bind (h.wholeObject hq) fun whole _ => .ok _
  refine .bind (h.position hq) fun point _ => ?_
  refine .ite Iff.rfl (fun _ => ended { d with arcEnd := some point }) fun _ => ?_
  exact .bind (ρ.onPath_draft d fun p => .of_eq_ok (ρ.addTarget_path p point)) fun d _ => ended d

/-- A clause has the same effect. -/
theorem applyClause (d : Draft (Marked K)) {c : Clause} (hc : c.byLabel counting = true) :
    Alike ρ.draft (d.applyClause v c) ((ρ.draft d).applyClause w c) := by
  cases c with
  | text line => exact .ok _
  | arrow heads => exact .ok _
  | size what value => exact h.setDimension d what hc
  | thickness value =>
    exact .bind (h.builtin _) fun reference _ => .bind (h.size hc reference) fun x _ => .ok _
  | flag what => exact .of_eq_ok (ρ.setFlag_draft d what)
  | dotted gap => exact .bind (h.dashLength hc) fun x _ => .ok _
  | dashed gap => exact .bind (h.dashLength hc) fun x _ => .ok _
  | fill value =>
    exact .bind (h.scalar hc) fun x _ => .bind (ρ.ofNumber_alike x).liftFault fun paint _ => .ok _
  | color value =>
    exact .bind (h.scalar hc) fun x _ => .bind (ρ.ofNumber_alike x).liftFault fun paint _ => .ok _
  | same source =>
    exact (h.sourceOf d hc).bindAlike fun o o' ho => .of_eq_ok (ρ.copyFrom_draft d ho)
  | located q => exact .bind (h.position hc) fun point _ => .ok _
  | anchored anchor q => exact .bind (h.position hc) fun point _ => .ok _
  | start q => exact h.setStart d hc
  | target q => exact h.setTarget d hc
  | next =>
    refine ρ.onPath_draft d fun p => ?_
    rw [ρ.next?_path]
    cases p.next? with
    | none => exact .error _ _
    | some p => exact .ok p
  | direction dir length =>
    cases length with
    | none => exact ρ.onPath_draft d fun p => .of_eq_ok (ρ.move_path p dir none)
    | some e =>
      exact ρ.onPath_draft d fun p => .bind (h.stretch p dir hc) fun x _ =>
        .of_eq_ok (ρ.move_path p dir (some x))
  | directionUntil dir q =>
    exact ρ.onPath_draft d fun p => .bind (h.position hc) fun point _ =>
      .of_eq_ok (ρ.untilEven_path p (some dir) point)
  | heading angle length =>
    rw [Clause.byLabel, Bool.and_eq_true] at hc
    cases length with
    | none =>
      exact ρ.onPath_draft d fun p => .bind (h.scalar hc.1) fun degrees _ =>
        .of_eq_ok (ρ.heading_path p degrees none)
    | some e =>
      exact ρ.onPath_draft d fun p => .bind (h.scalar hc.1) fun degrees _ =>
        .bind (h.scalar hc.2) fun x _ => .of_eq_ok (ρ.heading_path p degrees (some x))
  | untilEven q =>
    exact ρ.onPath_draft d fun p => .bind (h.position hc) fun point _ =>
      .of_eq_ok (ρ.untilEven_path p none point)
  | distance value =>
    exact ρ.onPath_draft d fun p => .bind (h.stretch p p.direction hc) fun x _ =>
      .of_eq_ok (ρ.move_path p p.direction (some x))

theorem apply (d : Draft (Marked K)) {a : Attribute} (ha : a.clause.byLabel counting = true) :
    Alike ρ.draft (d.apply v a) ((ρ.draft d).apply w a) :=
  .locating (.ite Iff.rfl (fun _ => h.applyClause d ha) fun _ => .error _ _) a.pos

/-- Clauses have the same effect. -/
theorem applyAll {as : List Attribute} (has : as.all (·.clause.byLabel counting) = true)
    (d : Draft (Marked K)) :
    Alike ρ.draft (Draft.applyAll v d as) (Draft.applyAll w (ρ.draft d) as) := by
  induction as generalizing d with
  | nil => exact .ok d
  | cons a as ih =>
    rw [List.all_cons, Bool.and_eq_true] at has
    exact .bind (h.apply d has.1) fun d _ => ih has.2 d

end View.Mirrors

/-! ## Places -/

namespace Renaming

variable (ρ : Renaming)

theorem advance_cursor [Arith K] (c : Cursor (Marked K)) (d : Draft (Marked K))
    (exit : Option Direction) :
    (ρ.cursor c).advance (ρ.draft d) exit = ρ.cursor (c.advance d exit) := by
  unfold Cursor.advance
  rw [draft_located]
  cases d.located with
  | some p => rfl
  | none =>
    dsimp only [Option.map_none]
    rw [draft_object, ρ.finish_object]
    rfl

variable [Arith K]

theorem fitShape_object (o : Object (Marked K)) (width height : Marked K) :
    Draft.fitShape (ρ.object o) (ρ.number width) (ρ.number height) =
      ρ.extent (Draft.fitShape o width height) := by
  unfold Draft.fitShape
  rw [show (ρ.object o).cls = o.cls from rfl]
  cases o.cls <;> rfl

theorem takeSize_draft (d : Draft (Marked K)) (width height : Marked K) :
    (ρ.draft d).takeSize (ρ.number width) (ρ.number height) =
      ρ.draft (d.takeSize width height) := by
  unfold Draft.takeSize
  rw [greatest_number, ρ.draft_object, ρ.object_cls,
    show (ρ.draft d).explicitWidth = d.explicitWidth from rfl,
    show (ρ.draft d).explicitHeight = d.explicitHeight from rfl]
  split_ifs <;> rfl

omit [Arith K] in
theorem fillDot_draft (d : Draft (Marked K)) : (ρ.draft d).fillDot = ρ.draft d.fillDot := by
  unfold Draft.fillDot
  rw [apply_ite ρ.draft]
  rfl

theorem along_draft (d : Draft (Marked K)) (points : List (Point (Marked K))) :
    (ρ.draft d).along (points.map ρ.point) = ρ.draft (d.along points) := by
  obtain ⟨o, path, located, anchor⟩ := d
  have fitted : ({ ρ.object o with points := points.map ρ.point } : Object (Marked K)).fitPath =
      ρ.object ({ o with points := points } : Object (Marked K)).fitPath :=
    ρ.fitPath_object { o with points := points }
  unfold Draft.along
  rw [draft_object, draft_located, draft_anchor]
  dsimp only
  rw [fitted]
  cases located with
  | none => rfl
  | some p =>
    dsimp only [Option.map_some]
    rw [ρ.anchorPoint_object, ρ.point_sub_x, ρ.point_sub_y, ρ.translate_object]
    rfl

end Renaming

/-- Two settings that differ in names only. -/
structure Setting.Mirrors (ρ : Renaming) (counting : Bool) [Arith K]
    (s u : Setting (Marked K)) : Prop where
  /-- What evaluation sees is the same. -/
  view : s.view.Mirrors ρ counting u.view
  /-- The next object is attached at the same point. -/
  cursor : u.cursor = ρ.cursor s.cursor
  /-- Text is measured in the same way. -/
  measure : u.measure = s.measure
  /-- Marks do not matter for this. -/
  measures : ρ.Measures s.measure
  /-- The next change is written down under new marks. -/
  serial : ρ.Writes s.serial u.serial

namespace Setting.Mirrors

variable [Arith K] {ρ : Renaming} {counting : Bool} {s u : Setting (Marked K)}
  (h : s.Mirrors ρ counting u)
include h

theorem stackingStart (framed : Bool) : Alike ρ.point (DiagramScript.stackingStart s framed)
    (DiagramScript.stackingStart u framed) := by
  unfold DiagramScript.stackingStart
  rw [h.cursor, ρ.cursor_flow]
  cases s.cursor.flow with
  | none => exact .ok _
  | some id =>
    refine (h.view.object id).bindAlike fun o o' ho => ?_
    obtain ⟨n, rfl⟩ := ho
    refine .ite Iff.rfl (fun _ => .of_eq_ok (ρ.finish_object o)) fun _ => ?_
    refine .bind (h.view.builtin "gap") fun gap _ => ?_
    have start := ρ.anchorPoint_object o (.compass s.cursor.direction.exitSide)
    refine .ite Iff.rfl (fun _ => .of_eq_ok ?_) fun _ => .of_eq_ok start
    exact congrArg (·.plus (s.cursor.direction.vector.scale (ρ.number gap))) start

theorem placeFramed (d : Draft (Marked K)) :
    Alike ρ.draft (d.placeFramed s) ((ρ.draft d).placeFramed u) := by
  obtain ⟨o, path, located, anchor⟩ := d
  cases located with
  | some p =>
    have anchored := ρ.anchorPoint_object o (anchor.getD .center)
    refine .of_eq_ok ?_
    dsimp only
    rw [ρ.draft_object, ρ.draft_anchor, anchored]
    rfl
  | none =>
    refine .bind (h.stackingStart true) fun start _ => .of_eq_ok ?_
    have extent : (if s.cursor.direction.horizontal then ρ.number o.width
        else ρ.number o.height) =
        ρ.number (if s.cursor.direction.horizontal then o.width else o.height) :=
      (apply_ite ρ.number _ _ _).symm
    rw [h.cursor]
    dsimp only
    rw [ρ.draft_object, ρ.object_width, ρ.object_height, ρ.cursor_direction, extent]
    rfl

theorem fittingSize (o : Object (Marked K)) (block : Marked K × Marked K)
    (charHeight fontScale : Marked K) :
    Alike ρ.extent (Draft.fittingSize s o block charHeight fontScale)
      (Draft.fittingSize u (ρ.object o) (ρ.extent block) (ρ.number charHeight)
        (ρ.number fontScale)) :=
  .bind (h.view.builtin "charwid") fun charWidth _ => .of_eq_ok (ρ.fitShape_object o
    (block.1 + Arith.twice charWidth * fontScale) (block.2 + charHeight * fontScale))

theorem sizeToText (d : Draft (Marked K)) :
    Alike ρ.draft (d.sizeToText s) ((ρ.draft d).sizeToText u) := by
  unfold Draft.sizeToText
  refine .ite Iff.rfl (fun _ => .ok d) fun _ => ?_
  refine .bind (h.view.builtin "fontscale") fun fontScale _ => ?_
  refine .bind (h.view.builtin "charht") fun charHeight _ => ?_
  rw [h.measure]
  refine .bind (h.measures.growBlock _ _ _).liftFault fun block _ => ?_
  refine .ite Iff.rfl (fun _ => ?_) fun _ => .of_eq_ok (ρ.takeSize_draft d block.1 block.2)
  exact .bind (h.fittingSize d.object block charHeight fontScale) fun size _ =>
    .of_eq_ok (ρ.takeSize_draft d size.1 size.2)

omit h in
theorem pathPoints (d : Draft (Marked K)) (p : Path (Marked K)) (start : Point (Marked K))
    {serial serial' : Nat} (hs : ρ.Writes serial serial') :
    Alike ρ.trace (d.pathPoints p start serial)
      ((ρ.draft d).pathPoints (ρ.path p) (ρ.point start) serial') := by
  let origin := (p.origin.getD start).stamp ⟨serial, some d.object.id, 0⟩
  have origin' : ((ρ.path p).origin.getD (ρ.point start)).stamp
      ⟨serial', some (ρ.draft d).object.id, 0⟩ = ρ.point origin := by
    rw [show (ρ.path p).origin = p.origin.map ρ.point from rfl, Option.getD_map,
      show (⟨serial', some (ρ.draft d).object.id, 0⟩ : Mark) = _ from
        (hs (some d.object.id) 0).symm, ρ.stamp_point]
  unfold Draft.pathPoints
  rw [origin', ρ.isBare_path, show (ρ.draft d).copiedPath = d.copiedPath.map ρ.point from rfl,
    List.isEmpty_map]
  refine .ite Iff.rfl (fun _ => .of_eq_ok ?_) fun _ => .ite Iff.rfl (fun _ => .of_eq_ok ?_)
    fun _ => (ρ.build_path (p.setOrigin origin) origin).mapError _ _
  · exact Prod.ext (ρ.arcPoints_point origin d.arcEnd _ _ _) rfl
  · refine Prod.ext (congrArg (ρ.point origin :: ·) ?_) rfl
    rw [List.map_map, List.map_map]
    rfl

theorem boundary (id : Nat) (toward : Point (Marked K)) :
    Alike ρ.point (Draft.boundary s.view.registry id toward)
      (Draft.boundary u.view.registry (ρ.index id) (ρ.point toward)) := by
  refine (h.view.object id).bindAlike fun o o' ho => ?_
  obtain ⟨n, rfl⟩ := ho
  have outline := ρ.outlinePoint_point o.center o.width o.height toward o.cls.isRound o.box
  rw [← ρ.box_object] at outline
  exact outline.liftFault

theorem chopStart (id : Option Nat) (points : List (Point (Marked K))) :
    Alike (List.map ρ.point) (Draft.chopStart s.view.registry id points)
      (Draft.chopStart u.view.registry (id.map ρ.index) (points.map ρ.point)) := by
  cases id with
  | none => exact .ok points
  | some id =>
    match points with
    | [] => exact .ok []
    | [p] => exact .ok [p]
    | _ :: second :: rest =>
      exact .bind (h.boundary id second) fun p _ => .ok (p :: second :: rest)

theorem chopEnds (d : Draft (Marked K)) (points : List (Point (Marked K))) :
    Alike (List.map ρ.point) (d.chopEnds s.view.registry points)
      ((ρ.draft d).chopEnds u.view.registry (points.map ρ.point)) := by
  refine .bind (h.chopStart d.fromObject points) fun points _ => ?_
  rw [← List.map_reverse]
  exact .bind (h.chopStart d.toObject points.reverse) fun backward _ =>
    .of_eq_ok List.map_reverse.symm

theorem placePath (d : Draft (Marked K)) :
    Alike ρ.placed (d.placePath s) ((ρ.draft d).placePath u) := by
  rw [Draft.placePath_eq, Draft.placePath_eq]
  obtain ⟨o, path⟩ := d
  cases path with
  | none => exact .error _ _
  | some p =>
    have along : ∀ d points, ∀ exit : Option Direction, Alike ρ.placed
        (.ok (d.along points, exit) : Except Failure (Draft (Marked K) × Option Direction))
        (.ok ((ρ.draft d).along (points.map ρ.point), exit)) := fun d points exit =>
      .of_eq_ok (congrArg (·, exit) (ρ.along_draft d points))
    refine .bind (h.stackingStart false) fun start _ => ?_
    refine .bind (pathPoints _ p start h.serial) fun built _ => ?_
    exact .ite Iff.rfl (fun _ => .bind (h.chopEnds _ built.1) fun points _ => along _ points _)
      fun _ => along _ built.1 _

/-- An object gets the same place. -/
theorem place (d : Draft (Marked K)) :
    Alike ρ.placed (d.place s) ((ρ.draft d).place u) := by
  refine .ite Iff.rfl (fun _ => h.placePath d) fun _ => ?_
  refine .bind (h.sizeToText d) fun d _ => ?_
  rw [ρ.fillDot_draft]
  exact .bind (h.placeFramed d.fillDot) fun d _ => .ok (d, none)

end Setting.Mirrors

end DiagramScript
