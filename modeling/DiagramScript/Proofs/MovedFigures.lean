import DiagramScript.Proofs.ExactNumbers
import DiagramScript.Proofs.Enclosing

/-!
# Moving figures

With exact numbers a figure that is moved takes its box along: the box of what has been moved is
the box moved, and it keeps its width and height.

* `Box.shift` — a box moved by a vector.
* `Box.mergeAll_shift`, `Box.ofPoints_shift`, `Box.ofFrame_shift` — the box of several things, of a
  path and of a frame.
* `Object.box_translate` — the box of an object.
* `Object.carry_eq` — the members of a group are moved by the vector that the group is moved by.
-/

namespace DiagramScript

variable {K : Type}

/-- The box moved by a vector. -/
def Box.shift [Arith K] (b : Box K) (dx dy : K) : Box K :=
  ⟨b.minX + dx, b.minY + dy, b.maxX + dx, b.maxY + dy⟩

variable [ExactNumber K] (dx dy : K)

/-! ## Points -/

theorem Point.shift_zero (p : Point K) : p.shift 0 0 = p := by
  rw [shift, add_zero, add_zero]

/-! ## Boxes -/

namespace Box

theorem union_eq (a b : Box K) : a.union b =
    ⟨min a.minX b.minX, min a.minY b.minY, max a.maxX b.maxX, max a.maxY b.maxY⟩ := by
  rw [union, Arith.least_eq, Arith.least_eq, Arith.greatest_eq, Arith.greatest_eq]

theorem union_shift (a b : Box K) :
    (a.shift dx dy).union (b.shift dx dy) = (a.union b).shift dx dy := by
  simp only [union_eq, shift, min_add_add_right, max_add_add_right]

theorem merge_shift (a b : Option (Box K)) :
    merge (a.map (·.shift dx dy)) (b.map (·.shift dx dy)) = (merge a b).map (·.shift dx dy) := by
  cases a with
  | none => simp
  | some a =>
    cases b with
    | none => simp
    | some b => simp [union_shift]

theorem mergeAll_shift (start : Option (Box K)) (boxes : List (Box K)) :
    mergeAll (start.map (·.shift dx dy)) (boxes.map (·.shift dx dy)) =
      (mergeAll start boxes).map (·.shift dx dy) := by
  induction boxes generalizing start with
  | nil => rfl
  | cons b boxes ih =>
    have step := merge_shift dx dy start (some b)
    rw [Option.map_some] at step
    exact (congrArg (mergeAll · _) step).trans (ih _)

theorem ofPoints_shift (ps : List (Point K)) :
    ofPoints (ps.map (·.shift dx dy)) = (ofPoints ps).map (·.shift dx dy) := by
  rw [ofPoints, ofPoints, ← mergeAll_shift, List.map_map, List.map_map]
  rfl

theorem ofFrame_shift (center : Point K) (width height : K) :
    ofFrame (center.shift dx dy) width height = (ofFrame center width height).shift dx dy := by
  simp only [ofFrame, shift, Point.shift, mk.injEq]
  refine ⟨?_, ?_, ?_, ?_⟩ <;> ring

theorem center_shift (b : Box K) : (b.shift dx dy).center = b.center.shift dx dy := by
  simp only [center, shift, Point.shift, Arith.half_eq, Point.mk.injEq]
  constructor <;> ring

theorem width_shift (b : Box K) : (b.shift dx dy).width = b.width := by
  simp only [width, shift, add_sub_add_right_eq_sub]

theorem height_shift (b : Box K) : (b.shift dx dy).height = b.height := by
  simp only [height, shift, add_sub_add_right_eq_sub]

end Box

/-! ## Objects -/

namespace Object

theorem box_translate (o : Object K) : (o.translate dx dy).box = o.box.shift dx dy := by
  have frame : Box.ofFrame (o.center.shift dx dy) o.width o.height =
      (Box.ofFrame o.center o.width o.height).shift dx dy := Box.ofFrame_shift dx dy _ _ _
  unfold box translate
  dsimp only
  rw [frame, Box.ofPoints_shift]
  cases o.cls.isLine with
  | false => rfl
  | true => cases Box.ofPoints o.points <;> rfl

theorem translate_zero (o : Object K) : o.translate 0 0 = o := by
  have points : o.points.map (·.shift 0 0) = o.points :=
    (List.map_congr_left fun p _ => p.shift_zero).trans (List.map_id _)
  rw [translate, points, Point.shift_zero]

/-- What moves with a group moves by the same vector. -/
theorem carry_eq (serial : Nat) (o : Object K) : carry dx dy serial o = o.translate dx dy := by
  unfold carry
  split_ifs with still
  · obtain ⟨hx, hy⟩ := Bool.and_eq_true_iff.1 still
    rw [Arith.isZero_iff.1 hx, Arith.isZero_iff.1 hy, translate_zero]
  · exact stamp_eq _ _

end Object

end DiagramScript
