import DiagramScript.Placement
import DiagramScript.Proofs.ReadingSteps

/-!
# The points of a path

However a path is described, it has at least two points, and the first of them is where it starts.
Cutting off its ends replaces the first and the last point and no other.

* `Path.build_starts`, `arcPoints_starts` — paths of segments, and arcs.
* `Draft.pathPoints_starts` — all paths, also those that are copied.
* `Draft.chopEnds_length`, `Draft.chopEnds_head?` — paths with their ends cut off.
-/

namespace DiagramScript

variable {K : Type} [Arith K]

/-! ## Building paths -/

/-- Whether some points are those of a path from a point. -/
structure StartsAt (start : Point K) (points : List (Point K)) : Prop where
  /-- The first point is the start. -/
  head : points.head? = some start
  /-- There is at least one more. -/
  two : 2 ≤ points.length

omit [Arith K] in
theorem startsAt_cons {start : Point K} {rest : List (Point K)} (h : rest ≠ []) :
    StartsAt start (start :: rest) :=
  ⟨rfl, Nat.succ_le_succ (List.length_pos_iff.2 h)⟩

namespace Path

/-- Closing a path adds a point at its end, if any. -/
theorem closeUp_startsAt {start : Point K} {points : List (Point K)} (h : StartsAt start points)
    (closed : Bool) : StartsAt start (closeUp closed points) := by
  unfold closeUp
  split
  · split_ifs
    · refine ⟨?_, Nat.le_trans h.two (List.length_append ▸ Nat.le_add_right ..)⟩
      rw [List.head?_append, h.head]
      rfl
    · exact h
  · exact h

/-- A path of segments starts at its origin. -/
theorem build_starts (p : Path K) (start : Point K) :
    Ensures (fun r => StartsAt (p.origin.getD start) r.1) (p.build start) := by
  refine .andThen fun r => ?_
  dsimp only
  split_ifs with bare
  · exact .ok (closeUp_startsAt (startsAt_cons (List.cons_ne_nil _ _)) p.closed)
  · refine .ok (closeUp_startsAt (startsAt_cons fun h => bare ?_) p.closed)
    rw [h]
    rfl

end Path

/-- An arc starts at its start. -/
theorem arcPoints_starts (start : Point K) (finish : Option (Point K)) (direction : Direction)
    (radius : K) (clockwise : Bool) :
    StartsAt start (arcPoints start finish direction radius clockwise) := by
  unfold arcPoints
  dsimp only
  split
  · exact startsAt_cons (List.cons_ne_nil _ _)
  · exact startsAt_cons (List.cons_ne_nil _ _)

namespace Draft

/-- Every path starts at its origin, or else at the point where it is attached. -/
theorem pathPoints_starts (d : Draft K) (path : Path K) (start : Point K) (serial : Nat) :
    Ensures (fun r => StartsAt
      ((path.origin.getD start).stamp ⟨serial, some d.object.id, 0⟩) r.1)
      (d.pathPoints path start serial) := by
  unfold pathPoints
  dsimp only
  split_ifs with arc copied
  · exact .ok (arcPoints_starts ..)
  · refine .ok (startsAt_cons fun h => ?_)
    rw [List.map_eq_nil_iff] at h
    rw [h] at copied
    cases copied
  · exact (Path.build_starts (path.setOrigin _) _).mapError _

/-! ## Cutting off ends -/

theorem chopStart_length (r : Registry K) (id : Option Nat) (points : List (Point K)) :
    Ensures (·.length = points.length) (chopStart r id points) := by
  unfold chopStart
  split
  · exact .andThen fun _ => .ok rfl
  · exact .ok rfl

/-- Cutting off the start leaves the other points alone. -/
theorem chopStart_tail (r : Registry K) (id : Option Nat) (points : List (Point K)) :
    Ensures (·.tail = points.tail) (chopStart r id points) := by
  unfold chopStart
  split
  · exact .andThen fun _ => .ok rfl
  · exact .ok rfl

/-- Cutting off ends keeps the number of points. -/
theorem chopEnds_length (d : Draft K) (r : Registry K) (points : List (Point K)) :
    Ensures (·.length = points.length) (d.chopEnds r points) := by
  refine .bind (chopStart_length r d.fromObject points) fun front hf => ?_
  refine .bind (chopStart_length r d.toObject front.reverse) fun back hb => .ok ?_
  rw [List.length_reverse, hb, List.length_reverse, hf]

/-- The start of a path that starts at no object is not cut off. -/
theorem chopEnds_head? {d : Draft K} (hd : d.fromObject = none) (r : Registry K)
    {points : List (Point K)} (h : 2 ≤ points.length) :
    Ensures (·.head? = points.head?) (d.chopEnds r points) := by
  have front : chopStart r d.fromObject points = .ok points := by
    rw [hd]
    rfl
  intro chopped hc
  rw [chopEnds, front, ok_bind] at hc
  obtain ⟨back, hb, hc⟩ := exists_of_bind_eq_ok hc
  cases hc
  -- seen from the end, the first point is the last of those that stay
  have same : back.tail = points.reverse.tail := chopStart_tail r d.toObject points.reverse _ hb
  have count : back.length = points.length :=
    (chopStart_length r d.toObject points.reverse _ hb).trans List.length_reverse
  have last : ∀ l : List (Point K), 2 ≤ l.length → l.tail.getLast? = l.getLast? := fun l hl => by
    match l, hl with
    | a :: b :: rest, _ => rfl
  rw [List.head?_reverse, ← last back (count ▸ h), same,
    last _ (by rwa [List.length_reverse]), List.getLast?_reverse]

end Draft

end DiagramScript
