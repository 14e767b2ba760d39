import DiagramScript.Draft
import DiagramScript.Geometry.Outline
import DiagramScript.Number.Marked
import DiagramScript.Proofs.Continuation
import DiagramScript.Text.Measure
import Mathlib.Data.List.Basic
import Mathlib.Order.Monotone.Basic
import Mathlib.Tactic.SplitIfs

/-!
# Other names for what is drawn

Objects are known by their numbers, and undefined numbers by their marks.  Neither says anything
about how a drawing looks: whatever is computed from numbers with other marks is the same, with the
other marks.

* `Renaming` — other numbers for objects, and other marks.
* `Renaming.number`, `Renaming.point`, `Renaming.object` and so on — the same under other names.
* `Renaming.anchorPoint_object`, `Renaming.headingVector_number` and their like — geometry does not
  look at names.
* `Renaming.Writes` — new marks under which a change is written down.
-/

namespace DiagramScript

variable {K L : Type}

/-! ## Other numbers in the same places -/

/-- The point with other coordinates. -/
def Point.map (f : K → L) (p : Point K) : Point L := ⟨f p.x, f p.y⟩

/-- The box with other sides. -/
def Box.map (f : K → L) (b : Box K) : Box L := ⟨f b.minX, f b.minY, f b.maxX, f b.maxY⟩

/-- The style with other measures. -/
def Style.map (f : K → L) (s : Style K) : Style L where
  color := s.color
  fill := s.fill
  thickness := f s.thickness
  dashed := s.dashed.map f
  dotted := s.dotted.map f
  invisible := s.invisible
  arrowStart := s.arrowStart
  arrowEnd := s.arrowEnd
  closed := s.closed
  clockwise := s.clockwise

/-- The object with other measures, and with other numbers for objects. -/
def Object.map (f : K → L) (g : Nat → Nat) (o : Object K) : Object L where
  id := g o.id
  cls := o.cls
  direction := o.direction
  center := o.center.map f
  width := f o.width
  height := f o.height
  radius := f o.radius
  style := o.style.map f
  text := o.text
  label := o.label
  ordinal := o.ordinal
  parent := o.parent.map g
  points := o.points.map (Point.map f)
  children := o.children.map g
  finalized := o.finalized

namespace Alike

variable {α β ε δ : Type} {φ : α → β}

/-- A computation is like itself. -/
theorem refl (r : Except ε α) : Alike id r r := by
  cases r with
  | ok x => exact .ok x
  | error e => exact .error e e

theorem mapError {r : Except ε α} {r' : Except ε β} (h : Alike φ r r') (f g : ε → δ) :
    Alike φ (r.mapError f) (r'.mapError g) := by
  cases h with
  | ok x => exact .ok x
  | error d e => exact .error (f d) (g e)

theorem map {γ η : Type} {ψ : γ → η} {r : Except ε α} {r' : Except ε β} (h : Alike φ r r')
    {f : α → γ} {g : β → η} (hf : ∀ x, g (φ x) = ψ (f x)) : Alike ψ (r.map f) (r'.map g) := by
  cases h with
  | ok x => exact .of_eq_ok (hf x)
  | error d e => exact .error d e

theorem liftFault {r : Except Fault α} {r' : Except Fault β} (h : Alike φ r r') :
    Alike φ (liftFault r) (DiagramScript.liftFault r') :=
  h.mapError _ _

theorem locating {r : Except Failure α} {r' : Except Failure β} (h : Alike φ r r')
    (p : SourcePos) : Alike φ (locating p r) (DiagramScript.locating p r') :=
  h.mapError _ _

end Alike

/-! ## Renamings -/

/-- Other numbers for objects, in the same order, and other marks for undefined numbers. -/
structure Renaming where
  /-- The other number of an object. -/
  index : Nat → Nat
  /-- The other mark. -/
  mark : Mark → Mark
  /-- Objects stay in order. -/
  index_strictMono : StrictMono index
  /-- Marks stay apart. -/
  mark_injective : Function.Injective mark

namespace Renaming

variable (ρ : Renaming)

/-- A number with the other mark. -/
def number (x : Marked K) : Marked K := { x with mark := x.mark.map ρ.mark }

/-- A point with other marks. -/
def point (p : Point (Marked K)) : Point (Marked K) := p.map ρ.number

/-- A box with other marks. -/
def box (b : Box (Marked K)) : Box (Marked K) := b.map ρ.number

/-- A style with other marks. -/
def style (s : Style (Marked K)) : Style (Marked K) := s.map ρ.number

/-- An object with other marks and other numbers. -/
def object (o : Object (Marked K)) : Object (Marked K) := o.map ρ.number ρ.index

theorem object_cls (o : Object (Marked K)) : (ρ.object o).cls = o.cls := rfl

theorem object_width (o : Object (Marked K)) : (ρ.object o).width = ρ.number o.width := rfl

theorem object_height (o : Object (Marked K)) : (ρ.object o).height = ρ.number o.height := rfl

theorem object_points (o : Object (Marked K)) : (ρ.object o).points = o.points.map ρ.point := rfl

/-- Whether a change with one serial number is written down under new marks that have another. -/
def Writes (serial serial' : Nat) : Prop :=
  ∀ i k, ρ.mark ⟨serial, i, k⟩ = ⟨serial', i.map ρ.index, k⟩

/-! ## Numbers -/

variable [Arith K]

theorem mark_eq_iff {a b : Option Mark} : (a.map ρ.mark == b.map ρ.mark) = (a == b) := by
  cases a with
  | none => cases b <;> rfl
  | some m =>
    cases b with
    | none => rfl
    | some n => exact Bool.eq_iff_iff.2 (by simpa using ρ.mark_injective.eq_iff)

omit [Arith K] in
theorem number_mark (x : Marked K) : (ρ.number x).mark = x.mark.map ρ.mark := rfl

theorem alike_number (x y : Marked K) :
    Arith.alike (ρ.number x) (ρ.number y) = Arith.alike x y := by
  change (x.value == y.value || ((x.mark.map ρ.mark).isSome && _)) = _
  rw [ρ.number_mark x, ρ.number_mark y, mark_eq_iff, Option.isSome_map]
  rfl

theorem stamp_number (m : Mark) (x : Marked K) :
    Arith.stamp (ρ.mark m) (ρ.number x) = ρ.number (Arith.stamp m x) := by
  change Marked.stamp (ρ.mark m) (ρ.number x) = ρ.number (Marked.stamp m x)
  obtain ⟨v, _ | n⟩ := x
  · cases h : Arith.isNaN v <;> simp [Marked.stamp, number, h]
  · simp [Marked.stamp, number]

theorem least_number (x y : Marked K) :
    Arith.least (ρ.number x) (ρ.number y) = ρ.number (Arith.least x y) :=
  (apply_ite ρ.number (y < x) y x).symm

theorem greatest_number (x y : Marked K) :
    Arith.greatest (ρ.number x) (ρ.number y) = ρ.number (Arith.greatest x y) :=
  (apply_ite ρ.number (x < y) y x).symm

theorem finite_number (x : Marked K) :
    Arith.finite (ρ.number x) = (Arith.finite x).map ρ.number := by
  unfold Arith.finite
  rw [apply_ite (Except.map ρ.number), apply_ite (Except.map ρ.number)]
  rfl

theorem nearest_number (x : Marked K) : Arith.nearest (ρ.number x) = Arith.nearest x := by
  rw [Arith.nearest, Arith.nearest, finite_number]
  cases Arith.finite x <;> rfl

theorem truncate_number (x : Marked K) : Arith.truncate (ρ.number x) = Arith.truncate x := by
  rw [Arith.truncate, Arith.truncate, finite_number]
  cases Arith.finite x <;> rfl

theorem truncate_alike (x : Marked K) :
    Alike id (Arith.truncate x) (Arith.truncate (ρ.number x)) :=
  ρ.truncate_number x ▸ .refl _

theorem ofNumber_alike (x : Marked K) :
    Alike id (Paint.ofNumber x) (Paint.ofNumber (ρ.number x)) :=
  (ρ.truncate_alike x).map fun _ => rfl

theorem square_number (x : Marked K) :
    Alike ρ.number (Arith.square x) (Arith.square (ρ.number x)) :=
  .ite Iff.rfl (fun _ => .error _ _) fun _ => .ok (x * x)

theorem reciprocal_number (x : Marked K) :
    Alike ρ.number (Arith.reciprocal x) (Arith.reciprocal (ρ.number x)) :=
  .ite Iff.rfl (fun _ => .error _ _) fun _ => .ok (Arith.num 1 / x)

/-! ## Geometry -/

theorem point_sub_x (p q : Point (Marked K)) :
    (ρ.point p).x - (ρ.point q).x = ρ.number (p.x - q.x) := rfl

theorem point_sub_y (p q : Point (Marked K)) :
    (ρ.point p).y - (ρ.point q).y = ρ.number (p.y - q.y) := rfl

theorem same_point (p q : Point (Marked K)) : (ρ.point p).same (ρ.point q) = p.same q := by
  unfold Point.same
  exact congrArg₂ and (ρ.alike_number _ _) (ρ.alike_number _ _)

theorem stamp_point (m : Mark) (p : Point (Marked K)) :
    (ρ.point p).stamp (ρ.mark m) = ρ.point (p.stamp m) :=
  Point.ext (ρ.stamp_number m p.x) (ρ.stamp_number m p.y)

theorem snap_number (x : Marked K) : Alike ρ.number (snap x) (snap (ρ.number x)) := by
  unfold snap
  rw [nearest_number]
  exact (Alike.refl (Arith.nearest x)).bind fun n _ =>
    .ite Iff.rfl (fun _ => .ok (Arith.ofInt n)) fun _ => .ok x

theorem headingVector_number (x : Marked K) :
    Alike ρ.point (headingVector x) (headingVector (ρ.number x)) :=
  .ite Iff.rfl (fun _ => .bind (ρ.snap_number (Arith.sinDegrees x)) fun _ _ =>
    .bind (ρ.snap_number (Arith.cosDegrees x)) fun _ _ => .ok _) fun _ => .error _ _

theorem compassVector_same (c : Compass) :
    Alike ρ.point (compassVector (K := Marked K) c) (compassVector c) :=
  ρ.headingVector_number _

/-! ### Boxes -/

theorem union_box (a b : Box (Marked K)) : (ρ.box a).union (ρ.box b) = ρ.box (a.union b) :=
  Box.ext (ρ.least_number _ _) (ρ.least_number _ _) (ρ.greatest_number _ _) (ρ.greatest_number _ _)

theorem merge_box (a b : Option (Box (Marked K))) :
    Box.merge (a.map ρ.box) (b.map ρ.box) = (Box.merge a b).map ρ.box := by
  cases a with
  | none => simp
  | some a =>
    cases b with
    | none => simp
    | some b => exact congrArg some (ρ.union_box a b)

theorem mergeAll_box (start : Option (Box (Marked K))) (bs : List (Box (Marked K))) :
    Box.mergeAll (start.map ρ.box) (bs.map ρ.box) = (Box.mergeAll start bs).map ρ.box := by
  induction bs generalizing start with
  | nil => rfl
  | cons b bs ih =>
    unfold Box.mergeAll at ih ⊢
    rw [List.map_cons, List.foldl_cons, List.foldl_cons, ← ih]
    exact congrArg (List.foldl _ · _) (ρ.merge_box start (some b))

theorem ofPoints_point (ps : List (Point (Marked K))) :
    Box.ofPoints (ps.map ρ.point) = (Box.ofPoints ps).map ρ.box := by
  unfold Box.ofPoints
  rw [← ρ.mergeAll_box, List.map_map, List.map_map]
  rfl

/-! ### Outlines -/

theorem spotPoint_object (o : Object (Marked K)) (spot : Spot) :
    (ρ.object o).spotPoint spot = ρ.point (o.spotPoint spot) := by
  unfold Object.spotPoint roundAnchor diamondAnchor
  rw [object_cls]
  split_ifs <;> rfl

theorem ellipseBoundary_point (center : Point (Marked K)) (width height : Marked K)
    (target : Point (Marked K)) : Alike ρ.point (ellipseBoundary center width height target)
      (ellipseBoundary (ρ.point center) (ρ.number width) (ρ.number height) (ρ.point target)) := by
  refine .ite Iff.rfl (fun _ => .ok center) fun _ => ?_
  refine .bind (ρ.square_number _) fun u _ => ?_
  refine .bind (ρ.square_number _) fun v _ => ?_
  exact .bind (ρ.reciprocal_number _) fun t _ => .ok _

/-! ### Rays -/

/-- A crossing with other marks. -/
def crossing (c : Crossing (Marked K)) : Crossing (Marked K) := ⟨ρ.number c.along, ρ.point c.point⟩

theorem sideCrossing_number (o p d e side low high : Marked K) :
    sideCrossing (ρ.number o) (ρ.number p) (ρ.number d) (ρ.number e) (ρ.number side) (ρ.number low)
      (ρ.number high) = (sideCrossing o p d e side low high).map
        fun c => (ρ.number c.1, ρ.number c.2) := by
  unfold sideCrossing
  rw [apply_ite (Option.map _), apply_ite (Option.map _)]
  rfl

theorem rayCrossings_point (origin target : Point (Marked K)) (b : Box (Marked K)) :
    rayCrossings (ρ.point origin) (ρ.point target) (ρ.box b) =
      (rayCrossings origin target b).map ρ.crossing := by
  have across (xs : List (Marked K)) (o p d e low high : Marked K)
      (at' : Marked K → Marked K → Point (Marked K))
      (same : ∀ x y, at' (ρ.number x) (ρ.number y) = ρ.point (at' x y)) :
      (xs.map ρ.number).filterMap (fun x => (sideCrossing (ρ.number o) (ρ.number p) (ρ.number d)
        (ρ.number e) x (ρ.number low) (ρ.number high)).map fun c => ⟨c.1, at' x c.2⟩) =
      (xs.filterMap fun x => (sideCrossing o p d e x low high).map
        fun c => (⟨c.1, at' x c.2⟩ : Crossing _)).map ρ.crossing := by
    rw [List.filterMap_map, List.map_filterMap]
    refine List.filterMap_congr fun x _ => ?_
    rw [Function.comp_apply, sideCrossing_number, Option.map_map, Option.map_map]
    congr 1
    funext c
    exact congrArg (Crossing.mk _) (same x c.2)
  unfold rayCrossings
  rw [List.map_append, apply_ite (List.map ρ.crossing), apply_ite (List.map ρ.crossing)]
  rw [← across [b.minX, b.maxX] _ _ _ _ _ _ (fun x y => ⟨x, y⟩) fun _ _ => rfl,
    ← across [b.minY, b.maxY] _ _ _ _ _ _ (fun y x => ⟨x, y⟩) fun _ _ => rfl]
  rfl

theorem nearestCrossing_crossing (cs : List (Crossing (Marked K))) :
    nearestCrossing (cs.map ρ.crossing) = (nearestCrossing cs).map ρ.crossing := by
  have nearer : ∀ a b : Crossing (Marked K),
      (ρ.crossing a).nearer (ρ.crossing b) = ρ.crossing (a.nearer b) := by
    intro a b
    unfold Crossing.nearer
    exact (apply_ite ρ.crossing (b.along < a.along) b a).symm
  cases cs with
  | nil => rfl
  | cons c cs =>
    refine congrArg some ?_
    induction cs generalizing c with
    | nil => rfl
    | cons d cs ih =>
      rw [List.map_cons, List.foldl_cons, List.foldl_cons, nearer, ih]

theorem rayBoxIntersection_point (origin target : Point (Marked K)) (b : Box (Marked K)) :
    rayBoxIntersection (ρ.point origin) (ρ.point target) (ρ.box b) =
      (rayBoxIntersection origin target b).map ρ.point := by
  unfold rayBoxIntersection
  rw [rayCrossings_point, nearestCrossing_crossing, apply_ite (Option.map ρ.point), Option.map_map,
    Option.map_map]
  rfl

theorem outlinePoint_point (center : Point (Marked K)) (width height : Marked K)
    (target : Point (Marked K)) ( isRound : Bool) (b : Box (Marked K)) :
    Alike ρ.point (outlinePoint center width height target isRound b)
      (outlinePoint (ρ.point center) (ρ.number width) (ρ.number height) (ρ.point target) isRound
        (ρ.box b)) := by
  refine .ite Iff.rfl (fun _ => ρ.ellipseBoundary_point _ _ _ _) fun _ => .of_eq_ok ?_
  rw [rayBoxIntersection_point, Option.getD_map]

/-! ### Objects -/

theorem start_object (o : Object (Marked K)) : (ρ.object o).start = ρ.point o.start := by
  unfold Object.start
  rw [object_cls,
    object_points]
  cases o.cls.isLine with
  | false => exact ρ.spotPoint_object o _
  | true =>
    cases o.points with
    | nil => exact ρ.spotPoint_object o _
    | cons p ps => rfl

theorem finish_object (o : Object (Marked K)) : (ρ.object o).finish = ρ.point o.finish := by
  unfold Object.finish
  rw [object_cls,
    object_points, List.getLast?_map]
  cases o.cls.isLine with
  | false => exact ρ.spotPoint_object o _
  | true =>
    cases o.points.getLast? with
    | none => exact ρ.spotPoint_object o _
    | some p => rfl

theorem anchorPoint_object (o : Object (Marked K)) (a : Anchor) :
    (ρ.object o).anchorPoint a = ρ.point (o.anchorPoint a) := by
  cases a with
  | spot s => exact ρ.spotPoint_object o s
  | start => exact ρ.start_object o
  | finish => exact ρ.finish_object o

theorem box_object (o : Object (Marked K)) : (ρ.object o).box = ρ.box o.box := by
  unfold Object.box
  rw [object_cls,
    object_points, ofPoints_point, apply_ite ρ.box,
    ← Option.getD_map ρ.box]
  rfl

omit [Arith K] in
theorem vertex?_object (o : Object (Marked K)) (n : Int) :
    (ρ.object o).vertex? n = (o.vertex? n).map ρ.point := by
  unfold Object.vertex?
  rw [apply_ite (Option.map ρ.point), ← List.getElem?_map]
  rfl

theorem translate_object (o : Object (Marked K)) (dx dy : Marked K) :
    (ρ.object o).translate (ρ.number dx) (ρ.number dy) = ρ.object (o.translate dx dy) := by
  have points : (o.points.map ρ.point).map (·.shift (ρ.number dx) (ρ.number dy)) =
      (o.points.map (·.shift dx dy)).map ρ.point := by
    rw [List.map_map, List.map_map]
    rfl
  exact congrArg (fun ps =>
    { ρ.object o with center := ρ.point (o.center.shift dx dy), points := ps }) points

theorem fitPath_object (o : Object (Marked K)) : (ρ.object o).fitPath = ρ.object o.fitPath := by
  unfold Object.fitPath
  rw [object_points, ofPoints_point]
  cases Box.ofPoints o.points <;> rfl

variable {ρ} in
/-- The marks of an object are those of the change in which it is written down. -/
theorem Writes.stamp_object {serial serial' : Nat} (h : ρ.Writes serial serial')
    (o : Object (Marked K)) : (ρ.object o).stamp serial' = ρ.object (o.stamp serial) := by
  have point : ∀ k (p : Point (Marked K)), (ρ.point p).stamp ⟨serial', some (ρ.index o.id), k⟩ =
      ρ.point (p.stamp ⟨serial, some o.id, k⟩) := by
    intro k p
    rw [← stamp_point, h]
    rfl
  have points : (o.points.map ρ.point).mapIdx
      (fun i p => p.stamp ⟨serial', some (ρ.index o.id), i + 2⟩) =
        (o.points.mapIdx fun i p => p.stamp ⟨serial, some o.id, i + 2⟩).map ρ.point := by
    refine List.ext_getElem (by simp) fun i _ _ => ?_
    simp [point]
  exact congrArg₂ (fun c ps => { ρ.object o with center := c, points := ps })
    (point 1 o.center) points

/-! ### Texts -/

/-- Whether text is measured without a look at marks. -/
def Measures (measure : Measurer (Marked K)) : Prop :=
  ∀ text size mono bold, Alike ρ.number (measure text size mono bold)
    (measure text (ρ.number size) mono bold)

/-- Width and height with other marks. -/
def extent (size : Marked K × Marked K) : Marked K × Marked K := (ρ.number size.1, ρ.number size.2)

variable {ρ} in
theorem Measures.growBlock {measure : Measurer (Marked K)} (h : ρ.Measures measure)
    (size : Marked K) (lines : List TextLine) (block : Marked K × Marked K) :
    Alike ρ.extent (growBlock measure size block lines)
      (DiagramScript.growBlock measure (ρ.number size) (ρ.extent block) lines) := by
  induction lines generalizing block with
  | nil => exact .ok block
  | cons line lines ih =>
    refine (h line.text (size * line.scale) line.mono line.bold).bind fun width _ => ?_
    change Alike _ _ (DiagramScript.growBlock measure (ρ.number size)
      (Arith.greatest (ρ.number block.1) (ρ.number width), _) lines)
    rw [greatest_number]
    exact ih _

/-- The estimate of a width has no mark. -/
theorem measures_standard : ρ.Measures (standardMeasurer (K := Marked K)) := by
  intro text size mono bold
  let pixels := size * pixelsPerInch
  have same : standardMeasurer text (ρ.number size) mono bold =
      (standardMeasurer text size mono bold : Except Fault (Marked K)) := rfl
  rw [same]
  exact (Alike.refl (Arith.nearest pixels)).bind fun _ _ =>
    .ok (estimatedWidth text.toList pixels mono / pixelsPerInch)

end Renaming

end DiagramScript
