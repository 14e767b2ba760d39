import DiagramScript.Proofs.Extents
import DiagramScript.Proofs.MeasuredObjects
import DiagramScript.Proofs.OrderedNumbers

/-!
# What boxes hold

The box of several things is the least that holds them all, provided that each of them is put
together the right way round.  The box of a path always is; that of a frame is unless the width or
the height is negative, and then its sides are the wrong way round.

* `Box.IsHull`, `Box.mergeAll_isHull` — the sides of the box of several boxes.
* `Object.marks`, `Object.exists_mark` — the points that the sides of the box of an object go
  through.
* `Object.box_upright` — when the sides of the box of an object are the right way round.
* `Diagram.box_isHull`, `Diagram.box_eq_none_iff` — the box of a diagram.
-/

namespace DiagramScript

variable {K : Type}

/-! ## Sides -/

/-- A coordinate of a point. -/
def Point.along (p : Point K) : Axis → K
  | .x => p.x
  | .y => p.y

namespace Box

/-- The side of a box where an axis enters it: the left or the lower one. -/
def low (b : Box K) : Axis → K
  | .x => b.minX
  | .y => b.minY

/-- The side of a box where an axis leaves it: the right or the upper one. -/
def high (b : Box K) : Axis → K
  | .x => b.maxX
  | .y => b.maxY

/-- The four corners of a box. -/
def corners (b : Box K) : List (Point K) :=
  [⟨b.minX, b.minY⟩, ⟨b.maxX, b.minY⟩, ⟨b.minX, b.maxY⟩, ⟨b.maxX, b.maxY⟩]

/-- The corners lie on the sides. -/
theorem along_of_mem_corners {b : Box K} {p : Point K} (h : p ∈ b.corners) (axis : Axis) :
    p.along axis = b.low axis ∨ p.along axis = b.high axis := by
  simp only [corners, List.mem_cons, List.not_mem_nil, or_false] at h
  rcases h with rfl | rfl | rfl | rfl <;> cases axis <;> simp [Point.along, low, high]

/-- There is a corner on each side. -/
theorem exists_corner (b : Box K) (axis : Axis) :
    (∃ p ∈ b.corners, p.along axis = b.low axis) ∧ ∃ p ∈ b.corners, p.along axis = b.high axis := by
  cases axis <;> simp [corners, Point.along, low, high]

theorem ofPoint_low (p : Point K) (axis : Axis) : (ofPoint p).low axis = p.along axis := by
  cases axis <;> rfl

theorem ofPoint_high (p : Point K) (axis : Axis) : (ofPoint p).high axis = p.along axis := by
  cases axis <;> rfl

variable [Arith K]

/-- Whether neither of the two sides of a box along an axis is undefined. -/
def IsDefined (b : Box K) (axis : Axis) : Prop :=
  Arith.isNaN (b.low axis) = false ∧ Arith.isNaN (b.high axis) = false

/-- Whether the two sides of a box along an axis are the right way round. -/
def Upright (b : Box K) (axis : Axis) : Prop := ¬b.high axis < b.low axis

/-- Whether a point is not outside a box along an axis. -/
def Holds (b : Box K) (axis : Axis) (p : Point K) : Prop :=
  ¬p.along axis < b.low axis ∧ ¬b.high axis < p.along axis

theorem extent_eq (b : Box K) (axis : Axis) : b.extent axis = b.high axis - b.low axis := by
  cases axis <;> rfl

theorem union_low (a b : Box K) (axis : Axis) :
    (a.union b).low axis = Arith.least (a.low axis) (b.low axis) := by
  cases axis <;> rfl

theorem union_high (a b : Box K) (axis : Axis) :
    (a.union b).high axis = Arith.greatest (a.high axis) (b.high axis) := by
  cases axis <;> rfl

/-! ## The box of several boxes -/

/-- Whether the sides of a box are the outermost sides of some boxes. -/
structure IsHull (boxes : List (Box K)) (b : Box K) : Prop where
  /-- Along each axis it begins where the first of them does. -/
  low : ∀ axis, Foremost (· < ·) (boxes.map (·.low axis)) (b.low axis)
  /-- It ends where the last of them does. -/
  high : ∀ axis, Foremost (· > ·) (boxes.map (·.high axis)) (b.high axis)

variable [OrderedNumber K]

/-- Two boxes may be replaced by the least one that holds both. -/
theorem IsHull.of_union {a c b : Box K} {boxes : List (Box K)}
    (h : IsHull (a.union c :: boxes) b) : IsHull (a :: c :: boxes) b where
  low axis := by
    have first := h.low axis
    rw [List.map_cons, union_low] at first
    exact Arith.least_foremost first
  high axis := by
    have last := h.high axis
    rw [List.map_cons, union_high] at last
    exact Arith.greatest_foremost last

/-- Putting boxes together one after the other gives their hull.  The induction is on the boxes that
are still to come; what has been put together so far stands for those before. -/
theorem mergeAll_some_isHull {boxes : List (Box K)} :
    ∀ {a b : Box K}, mergeAll (some a) boxes = some b → IsHull (a :: boxes) b := by
  induction boxes with
  | nil =>
    rintro a b ⟨⟩
    refine ⟨fun _ => .single ?_ _, fun _ => .single ?_ _⟩
    · exact OrderedNumber.irrefl
    · exact OrderedNumber.irrefl
  | cons c boxes ih =>
    intro a b h
    exact .of_union (ih h)

theorem mergeAll_isHull {boxes : List (Box K)} {b : Box K} (h : mergeAll none boxes = some b) :
    IsHull boxes b := by
  cases boxes with
  | nil => cases h
  | cons a boxes => exact mergeAll_some_isHull h

omit [OrderedNumber K] in
theorem mergeAll_eq_none_iff {boxes : List (Box K)} : mergeAll none boxes = none ↔ boxes = [] := by
  cases boxes with
  | nil => simp [mergeAll]
  | cons a boxes =>
    obtain ⟨b, hb⟩ := exists_mergeAll boxes a
    have all : mergeAll none (a :: boxes) = some b := hb
    simp [all]

namespace IsHull

variable {boxes : List (Box K)} {b c : Box K} {axis : Axis} {p : Point K}

omit [OrderedNumber K] in
/-- Each side of the hull is a side of one of the boxes. -/
theorem exists_sides (h : IsHull boxes b) (axis : Axis) :
    (∃ c ∈ boxes, c.low axis = b.low axis) ∧ ∃ c ∈ boxes, c.high axis = b.high axis :=
  ⟨List.mem_map.1 (h.low axis).member, List.mem_map.1 (h.high axis).member⟩

omit [OrderedNumber K] in
theorem not_low_lt (h : IsHull boxes b) (hc : c ∈ boxes) (axis : Axis) :
    ¬c.low axis < b.low axis :=
  (h.low axis).none _ (List.mem_map_of_mem hc)

omit [OrderedNumber K] in
theorem not_high_lt (h : IsHull boxes b) (hc : c ∈ boxes) (axis : Axis) :
    ¬b.high axis < c.high axis :=
  (h.high axis).none _ (List.mem_map_of_mem hc)

/-- What one of the boxes holds, the hull holds. -/
theorem holds (h : IsHull boxes b) (hc : c ∈ boxes) (defined : c.IsDefined axis)
    (inside : c.Holds axis p) : b.Holds axis p :=
  ⟨OrderedNumber.through defined.1 (h.not_low_lt hc axis) inside.1,
    OrderedNumber.through defined.2 inside.2 (h.not_high_lt hc axis)⟩

/-- If one of the boxes is the right way round, so is the hull. -/
theorem upright (h : IsHull boxes b) (hc : c ∈ boxes) (defined : c.IsDefined axis)
    (inner : c.Upright axis) : b.Upright axis :=
  OrderedNumber.through defined.1 (h.not_low_lt hc axis)
    (OrderedNumber.through defined.2 inner (h.not_high_lt hc axis))

/-- If all of them are, so is the hull, even if some sides are undefined.  It begins no later than
the first box, and ends no earlier. -/
theorem upright_of_all (h : IsHull boxes b) (all : ∀ c ∈ boxes, c.Upright axis) :
    b.Upright axis := by
  intro reversed
  cases boxes with
  | nil => cases (h.low axis).member
  | cons c boxes =>
    have last : b.high axis = c.high axis ∨ c.high axis < b.high axis := (h.high axis).first _ rfl
    have first : b.low axis = c.low axis ∨ b.low axis < c.low axis := (h.low axis).first _ rfl
    have left : c.high axis < b.low axis := by
      rcases last with same | less
      · exact same ▸ reversed
      · exact OrderedNumber.trans less reversed
    refine all c List.mem_cons_self ?_
    rcases first with same | less
    · exact same ▸ left
    · exact OrderedNumber.trans left less

end IsHull

/-- A box that is the right way round has no negative extent. -/
theorem extent_nonneg {b : Box K} {axis : Axis} (h : b.Upright axis) :
    ¬b.extent axis < Arith.num 0 :=
  b.extent_eq axis ▸ OrderedNumber.difference h

/-! ## The boxes of paths and of frames -/

/-- The box of some points holds them. -/
theorem ofPoints_holds {ps : List (Point K)} {b : Box K} (h : ofPoints ps = some b) {p : Point K}
    (hp : p ∈ ps) (axis : Axis) : b.Holds axis p := by
  have hull : IsHull (ps.map ofPoint) b := mergeAll_isHull h
  have first := hull.not_low_lt (List.mem_map_of_mem hp) axis
  have last := hull.not_high_lt (List.mem_map_of_mem hp) axis
  rw [ofPoint_low] at first
  rw [ofPoint_high] at last
  exact ⟨first, last⟩

/-- Each of its sides goes through one of them. -/
theorem exists_of_ofPoints {ps : List (Point K)} {b : Box K} (h : ofPoints ps = some b)
    (axis : Axis) :
    (∃ p ∈ ps, p.along axis = b.low axis) ∧ ∃ p ∈ ps, p.along axis = b.high axis := by
  have hull : IsHull (ps.map ofPoint) b := mergeAll_isHull h
  obtain ⟨⟨c, hc, low⟩, ⟨e, he, high⟩⟩ := hull.exists_sides axis
  obtain ⟨p, hp, rfl⟩ := List.mem_map.1 hc
  obtain ⟨q, hq, rfl⟩ := List.mem_map.1 he
  exact ⟨⟨p, hp, (ofPoint_low p axis).symm.trans low⟩,
    ⟨q, hq, (ofPoint_high q axis).symm.trans high⟩⟩

/-- It is the right way round. -/
theorem ofPoints_upright {ps : List (Point K)} {b : Box K} (h : ofPoints ps = some b)
    (axis : Axis) : b.Upright axis := by
  have hull : IsHull (ps.map ofPoint) b := mergeAll_isHull h
  refine hull.upright_of_all fun c hc => ?_
  obtain ⟨p, -, rfl⟩ := List.mem_map.1 hc
  rw [Upright, ofPoint_low, ofPoint_high]
  exact OrderedNumber.irrefl _

end Box

/-! ## The box of an object -/

namespace Object

variable [Arith K] {o : Object K}

/-- The points that the box of an object is taken over: those of its path, or else the corners of
its frame. -/
def marks (o : Object K) : List (Point K) := if o.hasPath then o.points else o.box.corners

theorem ofPoints_of_hasPath (h : o.hasPath = true) : Box.ofPoints o.points = some o.box := by
  obtain ⟨line, points⟩ := Bool.and_eq_true_iff.1 h
  have some : o.points ≠ [] := by simpa using points
  obtain ⟨b, hb⟩ := Box.exists_ofPoints some
  rw [box, if_pos line, hb]
  rfl

theorem box_of_no_path (h : o.hasPath = false) :
    o.box = Box.ofFrame o.center o.width o.height := by
  rw [box]
  split_ifs with line
  · have none : o.points = [] := by
      rw [hasPath, line] at h
      simpa using h
    rw [none]
    rfl
  · rfl

/-- Whether the extent of an object along an axis is not negative. -/
def Upright (o : Object K) (axis : Axis) : Prop := ¬o.extent axis < Arith.num 0

variable [OrderedNumber K]

/-- Each side of the box of an object goes through one of these points. -/
theorem exists_mark (o : Object K) (axis : Axis) :
    (∃ p ∈ o.marks, p.along axis = o.box.low axis) ∧
      ∃ p ∈ o.marks, p.along axis = o.box.high axis := by
  unfold marks
  split_ifs with path
  · exact Box.exists_of_ofPoints (ofPoints_of_hasPath path) axis
  · exact o.box.exists_corner axis

/-- The box of a path is the right way round, and so is that of a frame if its extent is not
negative. -/
theorem box_upright {axis : Axis} (h : o.hasPath = false → o.Upright axis) :
    o.box.Upright axis := by
  cases path : o.hasPath with
  | true => exact Box.ofPoints_upright (ofPoints_of_hasPath path) axis
  | false =>
    rw [box_of_no_path path]
    have upright := h path
    cases axis
    · exact OrderedNumber.around upright
    · exact OrderedNumber.around upright

/-- A box that is the right way round holds its corners. -/
theorem box_holds {axis : Axis} (h : o.box.Upright axis) {p : Point K} (hp : p ∈ o.box.corners) :
    o.box.Holds axis p := by
  rcases Box.along_of_mem_corners hp axis with side | side
  · rw [Box.Holds, side]
    exact ⟨OrderedNumber.irrefl _, h⟩
  · rw [Box.Holds, side]
    exact ⟨h, OrderedNumber.irrefl _⟩

end Object

/-! ## The box of a diagram -/

namespace Diagram

variable [Arith K] {d : Diagram K}

theorem box_eq_none_iff :
    d.box = none ↔ ∀ o ∈ d.allObjects, o.cls = .container ∨ o.style.invisible = true := by
  rw [show d.box = Box.mergeAll none (d.measured.map (·.box)) from rfl, Box.mergeAll_eq_none_iff,
    List.map_eq_nil_iff, measured, List.filter_eq_nil_iff]
  refine forall₂_congr fun o _ => ?_
  rw [isDrawn_iff, not_and_or, not_not, Bool.not_eq_false]

variable [OrderedNumber K] {b : Box K} (h : d.box = some b)

include h

theorem box_isHull : Box.IsHull (d.measured.map (·.box)) b :=
  Box.mergeAll_isHull h

/-- Each side of the box of a diagram goes through a point of a path or the corner of a frame. -/
theorem exists_mark (axis : Axis) :
    (∃ o ∈ d.measured, ∃ p ∈ o.marks, p.along axis = b.low axis) ∧
      ∃ o ∈ d.measured, ∃ p ∈ o.marks, p.along axis = b.high axis := by
  obtain ⟨⟨_, hc, low⟩, ⟨_, he, high⟩⟩ := (box_isHull h).exists_sides axis
  obtain ⟨o, ho, rfl⟩ := List.mem_map.1 hc
  obtain ⟨x, hx, rfl⟩ := List.mem_map.1 he
  obtain ⟨p, hp, first⟩ := (o.exists_mark axis).1
  obtain ⟨q, hq, last⟩ := (x.exists_mark axis).2
  exact ⟨⟨o, ho, p, hp, first.trans low⟩, ⟨x, hx, q, hq, last.trans high⟩⟩

variable {o : Object K} (ho : o ∈ d.measured) {axis : Axis} (defined : o.box.IsDefined axis)
  {p : Point K}

include ho defined

/-- The box of a diagram holds the points of the paths. -/
theorem box_holds_point (line : o.cls.isLine = true) (hp : p ∈ o.points) : b.Holds axis p := by
  have path : o.hasPath = true := by
    rw [Object.hasPath, line, Bool.true_and, Bool.not_eq_true', List.isEmpty_eq_false_iff]
    exact List.ne_nil_of_mem hp
  have inside := Box.ofPoints_holds (Object.ofPoints_of_hasPath path) hp axis
  exact (box_isHull h).holds (List.mem_map_of_mem ho) defined inside

/-- It holds the corners of every box that is the right way round. -/
theorem box_holds_corner (upright : o.box.Upright axis) (hp : p ∈ o.box.corners) :
    b.Holds axis p :=
  (box_isHull h).holds (List.mem_map_of_mem ho) defined (Object.box_holds upright hp)

end Diagram

end DiagramScript
