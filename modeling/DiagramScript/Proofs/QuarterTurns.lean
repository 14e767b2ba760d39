import Mathlib
import DiagramScript.Path
import DiagramScript.Proofs.EuclideanNumbers

/-!
# Arcs are quarter turns

An arc is drawn with its start, a control point and its end.  The two legs from the start to the
control point and from there to the end are what it is tangent to.

* `QuarterTurn` — legs of one length at a right angle, that turn left or, clockwise, right.
* `arcControl`, `arcPoints_eq` — where the control point lies.
* `quarterTurn_arcControl` — two different points and a sense of turning make a quarter turn.
* `arcEnd_ne`, `arcControl_arcEnd` — an arc whose end is not given leaves its start in its
  direction.
* `arcPoints_turn` — both together, for every arc.
-/

namespace DiagramScript

variable {K : Type} [EuclideanNumber K]

/-- A turn through a right angle: the way from `control` to `finish` is as long as the way from
`start` to `control`, and perpendicular to it, to the right if the turn is clockwise and to the
left if it is not. -/
structure QuarterTurn (clockwise : Bool) (start control finish : Point K) : Prop where
  /-- The legs are perpendicular. -/
  perpendicular : (control.x - start.x) * (finish.x - control.x)
    + (control.y - start.y) * (finish.y - control.y) = 0
  /-- The legs have the same length. -/
  sameLength : start.distance control = control.distance finish
  /-- The second leg leads to the side the turn goes to. -/
  turns : if clockwise then
      (control.x - start.x) * (finish.y - control.y)
        - (control.y - start.y) * (finish.x - control.x) < 0
    else 0 < (control.x - start.x) * (finish.y - control.y)
        - (control.y - start.y) * (finish.x - control.x)

/-! ## The control point -/

/-- The corner between start and end of an arc: half of the way to the end, and as far again to the
outer side. -/
def arcControl (start finish : Point K) (clockwise : Bool) : Point K :=
  let cx := finish.x - start.x
  let cy := finish.y - start.y
  if clockwise then ⟨start.x + Arith.half (cx - cy), start.y + Arith.half (cy + cx)⟩
  else ⟨start.x + Arith.half (cx + cy), start.y + Arith.half (cy - cx)⟩

/-- Different points have a distance. -/
theorem hypot_ne_zero {start finish : Point K} (h : finish ≠ start) :
    Arith.hypot (finish.x - start.x) (finish.y - start.y) ≠ 0 := by
  intro hz
  obtain ⟨hx, hy⟩ := Arith.hypot_eq_zero_iff.1 hz
  exact h (Point.ext (sub_eq_zero.1 hx) (sub_eq_zero.1 hy))

/-- An arc between different points is drawn with their corner. -/
theorem arcPoints_eq {start finish : Point K} (h : finish ≠ start) (direction : Direction)
    (radius : K) (clockwise : Bool) :
    arcPoints start (some finish) direction radius clockwise
      = [start, arcControl start finish clockwise, finish] := by
  have hd := hypot_ne_zero h
  have hzero : Arith.isZero (Arith.hypot (finish.x - start.x) (finish.y - start.y) / 2) = false :=
    Bool.eq_false_iff.2 fun hz => hd (by simpa using Arith.isZero_iff.1 hz)
  have hdec : (Arith.dec 5 1 : K) = 1 / 2 := by
    rw [Arith.dec_eq]
    norm_num
  unfold arcPoints arcControl
  simp only [Option.getD_some, Arith.half_eq, hzero, Bool.false_eq_true, if_false, Point.toward,
    hdec, Arith.twice_eq]
  generalize Arith.hypot (finish.x - start.x) (finish.y - start.y) = d at hd
  -- The length of the chord cancels: the normal is divided by it and then stretched by its half.
  cases clockwise
  · simp only [Bool.false_eq_true, if_false, List.cons.injEq, Point.mk.injEq, and_true, true_and]
    constructor <;> (field_simp; ring)
  · simp only [if_true, List.cons.injEq, Point.mk.injEq, and_true, true_and]
    constructor <;> (field_simp; ring)

/-- An arc whose end is not given runs to the end of its quarter turn. -/
theorem arcPoints_none (start : Point K) (direction : Direction) (radius : K) (clockwise : Bool) :
    arcPoints start none direction radius clockwise
      = arcPoints start (some (arcEnd start direction radius clockwise)) direction radius
          clockwise := rfl

/-! ## The turn -/

/-- The corner between different points makes a quarter turn. -/
theorem quarterTurn_arcControl {start finish : Point K} (h : finish ≠ start) (clockwise : Bool) :
    QuarterTurn clockwise start (arcControl start finish clockwise) finish := by
  have hpos : 0 < (finish.x - start.x) * (finish.x - start.x)
      + (finish.y - start.y) * (finish.y - start.y) := by
    rw [← Arith.hypot_mul_self]
    exact mul_self_pos.2 (hypot_ne_zero h)
  cases clockwise
  · refine ⟨?_, Arith.hypot_congr ?_, ?_⟩
    · simp only [arcControl, Arith.half_eq, Bool.false_eq_true, if_false]
      ring
    · simp only [arcControl, Arith.half_eq, Bool.false_eq_true, if_false]
      ring
    · simp only [arcControl, Arith.half_eq, Bool.false_eq_true, if_false]
      linarith
  · refine ⟨?_, Arith.hypot_congr ?_, ?_⟩
    · simp only [arcControl, Arith.half_eq, if_true]
      ring
    · simp only [arcControl, Arith.half_eq, if_true]
      ring
    · simp only [arcControl, Arith.half_eq, if_true]
      linarith

/-! ## Arcs without an end of their own -/

/-- The vector of a direction has length one. -/
theorem Direction.vector_unit (d : Direction) :
    (d.vector : Point K).x * (d.vector : Point K).x
      + (d.vector : Point K).y * (d.vector : Point K).y = 1 := by
  cases d <;> simp [Direction.vector, Arith.num_eq]

/-- A quarter turn with a radius ends elsewhere than it starts. -/
theorem arcEnd_ne {radius : K} (h : radius ≠ 0) (start : Point K) (direction : Direction)
    (clockwise : Bool) : arcEnd start direction radius clockwise ≠ start := by
  intro heq
  have hx := congrArg Point.x heq
  have hy := congrArg Point.y heq
  cases direction <;> cases clockwise <;>
    simp [arcEnd, Direction.vector, Arith.num_eq, h] at hx hy

/-- The corner of a quarter turn lies ahead of its start, at the distance of the radius. -/
theorem arcControl_arcEnd (start : Point K) (direction : Direction) (radius : K)
    (clockwise : Bool) :
    arcControl start (arcEnd start direction radius clockwise) clockwise
      = start.plus (direction.vector.scale radius) := by
  cases clockwise
  · simp only [arcControl, arcEnd, Arith.half_eq, Point.plus, Point.shift, Point.scale,
      Bool.false_eq_true, if_false, Point.mk.injEq]
    constructor <;> ring
  · simp only [arcControl, arcEnd, Arith.half_eq, Point.plus, Point.shift, Point.scale, if_true,
      Point.mk.injEq]
    constructor <;> ring

/-- A quarter turn leads as far to the side as it leads ahead. -/
theorem distance_arcEnd (start : Point K) (direction : Direction) (radius : K)
    (clockwise : Bool) :
    (arcControl start (arcEnd start direction radius clockwise) clockwise).distance
      (arcEnd start direction radius clockwise) = |radius| := by
  have hunit := Arith.hypot_eq_one (direction.vector_unit : _ = (1 : K))
  rw [arcControl_arcEnd, ← mul_one |radius|, ← hunit, ← Arith.hypot_scale]
  refine Arith.hypot_congr ?_
  cases clockwise <;>
    simp only [arcEnd, Point.plus, Point.shift, Point.scale, Bool.false_eq_true, if_false,
      if_true] <;> ring

/-- Every arc is a quarter turn in its sense: from its start to whatever other point is given as
its end, and, if none is given, away from its start in its direction, with legs as long as its
radius. -/
theorem arcPoints_turn (start : Point K) (direction : Direction) (radius : K)
    (clockwise : Bool) :
    (∀ finish, finish ≠ start → ∃ control,
      arcPoints start (some finish) direction radius clockwise = [start, control, finish]
        ∧ QuarterTurn clockwise start control finish)
    ∧ (radius ≠ 0 → ∃ control finish,
      arcPoints start none direction radius clockwise = [start, control, finish]
        ∧ QuarterTurn clockwise start control finish
        ∧ (⟨control.x - start.x, control.y - start.y⟩ : Point K) = direction.vector.scale radius
        ∧ control.distance finish = |radius|) := by
  constructor
  · intro finish h
    exact ⟨_, arcPoints_eq h direction radius clockwise, quarterTurn_arcControl h clockwise⟩
  · intro h
    have hne := arcEnd_ne h start direction clockwise
    refine ⟨_, _, (arcPoints_none ..).trans (arcPoints_eq hne direction radius clockwise),
      quarterTurn_arcControl hne clockwise, ?_, distance_arcEnd start direction radius clockwise⟩
    rw [arcControl_arcEnd]
    simp [Point.plus, Point.shift]

/-- From the origin to the point one to the right and one up, counterclockwise; and upward from
there with a radius of minus two, clockwise. -/
theorem arcPoints_turn_samples :
    (∃ control, arcPoints (⟨0, 0⟩ : Point ℝ) (some ⟨1, 1⟩) .right 1 false
        = [⟨0, 0⟩, control, ⟨1, 1⟩]
      ∧ QuarterTurn false ⟨0, 0⟩ control ⟨1, 1⟩)
    ∧ ∃ control finish, arcPoints (⟨1, 1⟩ : Point ℝ) none .up (-2) true = [⟨1, 1⟩, control, finish]
      ∧ QuarterTurn true ⟨1, 1⟩ control finish
      ∧ (⟨control.x - 1, control.y - 1⟩ : Point ℝ) = Direction.up.vector.scale (-2)
      ∧ control.distance finish = |-2| :=
  ⟨(arcPoints_turn ⟨0, 0⟩ .right 1 false).1 ⟨1, 1⟩ (by simp),
    (arcPoints_turn ⟨1, 1⟩ .up (-2) true).2 (by norm_num)⟩

end DiagramScript
