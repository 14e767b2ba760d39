import DiagramScript.Proofs.BoxHulls
import DiagramScript.Proofs.EuclideanNumbers

/-!
# What the canvas covers

The canvas of a diagram is as large as its bounding box, with room for outlines and arrow heads and
for the margin on all four sides.  Unless something visible has a negative width or height, nothing
lies closer to an edge than that.

* `Svg.le_strokePad` — the room for outlines and arrow heads is enough for each object.
* `Svg.Canvas.point_sub_x`, `Svg.Canvas.point_sub_y` — how the canvas maps vectors.
* `Svg.Canvas.ofDiagram_clears` — what the bounding box holds is mapped away from the edges.
* `Svg.Canvas.Covers`, `Svg.Canvas.ofDiagram_covers` — the canvas of every diagram covers it.
* `Svg.Canvas.hypot_point` — the same of lengths, where numbers have square roots.
-/

namespace DiagramScript

/-- Exact boxes are defined. -/
theorem Box.isDefined {K : Type} [ExactNumber K] (b : Box K) (axis : Axis) : b.IsDefined axis :=
  ⟨Arith.isNaN_eq _, Arith.isNaN_eq _⟩

namespace Svg

variable {K : Type} [ExactNumber K]

/-! ## Room for outlines -/

/-- The room is the greatest that any object needs. -/
theorem max?_reach (arrowHeight : K) (os : List (Object K)) :
    (0 :: os.map (reach arrowHeight)).max? = some (strokePad arrowHeight os) := by
  have greater : (fun (pad : K) (o : Object K) => Arith.greatest pad (reach arrowHeight o)) =
      fun pad o => max pad (reach arrowHeight o) := by
    funext pad o
    exact Arith.greatest_eq pad _
  rw [List.max?_cons', List.foldl_map, strokePad, greater, Arith.num_eq, Nat.cast_zero]

theorem strokePad_nonneg (arrowHeight : K) (os : List (Object K)) :
    0 ≤ strokePad arrowHeight os :=
  (List.max?_eq_some_iff.1 (max?_reach arrowHeight os)).2 0 List.mem_cons_self

theorem le_strokePad {arrowHeight : K} {os : List (Object K)} {o : Object K} (ho : o ∈ os) :
    reach arrowHeight o ≤ strokePad arrowHeight os :=
  (List.max?_eq_some_iff.1 (max?_reach arrowHeight os)).2 _
    (List.mem_cons_of_mem _ (List.mem_map_of_mem ho))

/-- An outline reaches half its thickness beyond the box. -/
theorem half_thickness_le_reach (arrowHeight : K) (o : Object K) :
    o.style.thickness / 2 ≤ reach arrowHeight o := by
  unfold reach
  dsimp only
  rw [Arith.half_eq, Arith.greatest_eq]
  split_ifs
  · exact le_max_left _ _
  · exact le_rfl

/-- An arrow head reaches its length beyond it, at most. -/
theorem arrowHeight_le_reach (arrowHeight : K) {o : Object K}
    (heads : (o.style.arrowStart || o.style.arrowEnd) = true) :
    arrowHeight ≤ reach arrowHeight o := by
  unfold reach
  dsimp only
  rw [if_pos heads, Arith.greatest_eq]
  exact le_max_right _ _

namespace Canvas

/-! ## From inches to pixels -/

variable (c : Canvas K) (p q : Point K)

/-- What is further to the right is further to the right on the canvas. -/
theorem point_sub_x : (c.point q).x - (c.point p).x = c.length (q.x - p.x) := by
  simp only [point, length]
  ring

/-- What is further up is less far down. -/
theorem point_sub_y : (c.point q).y - (c.point p).y = -c.length (q.y - p.y) := by
  simp only [point, length]
  ring

/-- Whether a place on the canvas is at least a distance away from its four edges. -/
structure Clears (distance : K) (place : Point K) : Prop where
  /-- It is so far away from the left edge. -/
  left : distance ≤ place.x
  /-- It is so far away from the right edge. -/
  right : place.x ≤ c.width - distance
  /-- It is so far away from the upper edge. -/
  top : distance ≤ place.y
  /-- It is so far away from the lower edge. -/
  bottom : place.y ≤ c.height - distance

variable {d : Diagram K} {scale margin : K}

theorem ofDiagram_pixels_pos (h : 0 < scale) : 0 < (ofDiagram d scale margin).pixels := by
  show 0 < Arith.num 96 * scale
  rw [Arith.num_eq]
  exact mul_pos (by norm_num) h

/-- Everything that the bounding box holds is mapped to a place with room on all sides. -/
theorem ofDiagram_clears (h : 0 < scale) {b : Box K} (hb : d.box = some b) {p : Point K}
    (inside : ∀ axis, b.Holds axis p) :
    let c := ofDiagram d scale margin
    c.Clears (c.length (margin + strokePad c.arrowHeight d.allObjects)) (c.point p) := by
  intro c
  have pixels : 0 ≤ c.pixels := (ofDiagram_pixels_pos h).le
  obtain ⟨left, right⟩ := inside .x
  obtain ⟨bottom, top⟩ := inside .y
  simp only [Box.low, Box.high, Point.along, not_lt] at left right bottom top
  let pad := margin + strokePad c.arrowHeight d.allObjects
  have minX : c.minX = b.minX - pad := by
    simp only [c, ofDiagram, hb, Option.getD_some, pad]
  have maxY : c.maxY = b.maxY + pad := by
    simp only [c, ofDiagram, hb, Option.getD_some, pad]
  have width : c.width = (b.maxX - b.minX + 2 * pad) * c.pixels := by
    simp only [c, ofDiagram, hb, Option.getD_some, pad, Arith.twice_eq]
  have height : c.height = (b.maxY - b.minY + 2 * pad) * c.pixels := by
    simp only [c, ofDiagram, hb, Option.getD_some, pad, Arith.twice_eq]
  constructor
  · refine mul_le_mul_of_nonneg_right ?_ pixels
    show pad ≤ p.x - c.minX
    linarith
  · rw [width, length, ← sub_mul]
    refine mul_le_mul_of_nonneg_right ?_ pixels
    show p.x - c.minX ≤ b.maxX - b.minX + 2 * pad - pad
    linarith
  · refine mul_le_mul_of_nonneg_right ?_ pixels
    show pad ≤ c.maxY - p.y
    linarith
  · rw [height, length, ← sub_mul]
    refine mul_le_mul_of_nonneg_right ?_ pixels
    show c.maxY - p.y ≤ b.maxY - b.minY + 2 * pad - pad
    linarith

/-! ## The canvas of a diagram -/

/-- Whether a canvas shows a diagram with room of some inches around it. -/
structure Covers (d : Diagram K) (pad : K) : Prop where
  /-- Each corner of the box of something visible has the room on all sides. -/
  corners : ∀ o ∈ d.measured, ∀ p ∈ o.box.corners, c.Clears (c.length pad) (c.point p)
  /-- So has each point of a path. -/
  points : ∀ o ∈ d.measured, o.cls.isLine = true → ∀ p ∈ o.points,
    c.Clears (c.length pad) (c.point p)
  /-- The room is there. -/
  room : 0 ≤ pad
  /-- It is at least half as wide as any outline. -/
  strokes : ∀ o ∈ d.allObjects, o.style.thickness / 2 ≤ pad
  /-- It is at least as wide as the arrow heads are long, if there are any. -/
  heads : ∀ o ∈ d.allObjects, (o.style.arrowStart || o.style.arrowEnd) = true → c.arrowHeight ≤ pad
  /-- An inch is some pixels long. -/
  pixels : 0 < c.pixels
  /-- What is further to the right is further to the right on the canvas. -/
  rightward : ∀ p q : Point K, (c.point q).x - (c.point p).x = c.pixels * (q.x - p.x)
  /-- What is further up is less far down. -/
  upward : ∀ p q : Point K, (c.point q).y - (c.point p).y = -(c.pixels * (q.y - p.y))
  /-- All distances are multiplied by the same factor. -/
  distances : ∀ p q : Point K,
    ((c.point q).x - (c.point p).x) ^ 2 + ((c.point q).y - (c.point p).y) ^ 2 =
      c.pixels ^ 2 * ((q.x - p.x) ^ 2 + (q.y - p.y) ^ 2)

/-- The canvas of a diagram covers it, unless something visible has a negative width or height. -/
theorem ofDiagram_covers (d : Diagram K) {scale margin : K} (hs : 0 < scale) (hm : 0 ≤ margin)
    (sizes : ∀ o ∈ d.measured, 0 ≤ o.width ∧ 0 ≤ o.height) :
    let c := ofDiagram d scale margin
    c.Covers d (margin + strokePad c.arrowHeight d.allObjects) := by
  intro c
  have boxed : ∀ o ∈ d.measured, ∃ b, d.box = some b := fun o ho => by
    cases hb : d.box with
    | some b => exact ⟨b, rfl⟩
    | none =>
      obtain ⟨listed, drawn⟩ := List.mem_filter.1 ho
      obtain ⟨single, shown⟩ := Diagram.isDrawn_iff.1 drawn
      rcases Diagram.box_eq_none_iff.1 hb o listed with group | hidden
      · exact absurd group single
      · rw [shown] at hidden
        cases hidden
  have enough : ∀ o ∈ d.allObjects,
      reach c.arrowHeight o ≤ margin + strokePad c.arrowHeight d.allObjects := fun o ho =>
    (le_strokePad ho).trans (le_add_of_nonneg_left hm)
  refine
    { corners := fun o ho p hp => ?_
      points := fun o ho line p hp => ?_
      room := add_nonneg hm (strokePad_nonneg _ _)
      strokes := fun o ho => (half_thickness_le_reach _ o).trans (enough o ho)
      heads := fun o ho heads => (arrowHeight_le_reach _ heads).trans (enough o ho)
      pixels := ofDiagram_pixels_pos hs
      rightward := fun p q => (c.point_sub_x p q).trans (mul_comm _ _)
      upward := fun p q => (c.point_sub_y p q).trans (congrArg Neg.neg (mul_comm _ _))
      distances := fun p q => ?_ }
  · obtain ⟨b, hb⟩ := boxed o ho
    refine ofDiagram_clears hs hb fun axis => ?_
    refine Diagram.box_holds_corner hb ho (o.box.isDefined axis) (Object.box_upright fun _ => ?_) hp
    rw [Object.Upright, Arith.num_eq, Nat.cast_zero, not_lt]
    cases axis
    · exact (sizes o ho).1
    · exact (sizes o ho).2
  · obtain ⟨b, hb⟩ := boxed o ho
    exact ofDiagram_clears hs hb fun axis =>
      Diagram.box_holds_point hb ho (o.box.isDefined axis) line hp
  · rw [c.point_sub_x, c.point_sub_y, length, length]
    ring

/-- A group with a box and an arrow in it, and an invisible circle, at twice the usual size and with
a margin of half an inch. -/
theorem ofDiagram_covers_grouped : ∃ d : Diagram ℚ,
    Diagram.compile Resources.standard "[box; arrow]; circle invisible" = .ok d ∧
    (d.measured.map fun o => (o.width, o.height)) = [(3 / 4, 1 / 2), (1 / 2, 0)] ∧
    (0 : ℚ) < 2 ∧ (0 : ℚ) ≤ 1 / 2 ∧ (∀ o ∈ d.measured, 0 ≤ o.width ∧ 0 ≤ o.height) ∧
    strokePad (8 / 100) d.allObjects = 8 / 100 ∧
    (ofDiagram d 2 (1 / 2)).Covers d (1 / 2 + strokePad (ofDiagram d 2 (1 / 2)).arrowHeight
      d.allObjects) := by
  let ss : List Statement := [.group ⟨1, 1⟩ [.object ⟨1, 2⟩ .box none [],
    .object ⟨1, 7⟩ .arrow none []] none [],
    .object ⟨1, 15⟩ .circle none [⟨⟨1, 22⟩, .flag .invisible⟩]]
  have statements : Program.ofSource .standard "[box; arrow]; circle invisible" = .ok ss := by
    cbv
  have drawn : ((Diagram.ofStatements (Resources.standard : Resources ℚ) ss).toOption.map fun d =>
      (d.measured.map fun o => (o.width, o.height), strokePad (8 / 100) d.allObjects)) =
        some ([(3 / 4, 1 / 2), (1 / 2, 0)], 8 / 100) := by
    decide +kernel
  obtain ⟨d, compiled, known⟩ :=
    Diagram.exists_compile_eq_ok (t := Resources.standard) statements drawn
  obtain ⟨listed, room⟩ := Prod.mk.inj known
  have sizes : ∀ o ∈ d.measured, 0 ≤ o.width ∧ 0 ≤ o.height := by
    intro o ho
    have size : (o.width, o.height) ∈ d.measured.map fun o => (o.width, o.height) :=
      List.mem_map_of_mem ho
    rw [listed] at size
    simp only [List.mem_cons, List.not_mem_nil, or_false, Prod.mk.injEq] at size
    rcases size with ⟨width, height⟩ | ⟨width, height⟩ <;> norm_num [width, height]
  have large : (0 : ℚ) < 2 := by norm_num
  have wide : (0 : ℚ) ≤ 1 / 2 := by norm_num
  exact ⟨d, compiled, listed, large, wide, sizes, room, ofDiagram_covers d large wide sizes⟩

/-- The length of a vector on the canvas. -/
theorem hypot_point {K : Type} [EuclideanNumber K] (c : Canvas K) (h : 0 < c.pixels)
    (p q : Point K) : Arith.hypot ((c.point q).x - (c.point p).x) ((c.point q).y - (c.point p).y) =
      c.pixels * Arith.hypot (q.x - p.x) (q.y - p.y) := by
  have scaled := Arith.hypot_scale c.pixels (q.x - p.x) (q.y - p.y)
  rw [abs_of_pos h] at scaled
  rw [← scaled, c.point_sub_x, c.point_sub_y, length, length]
  refine Arith.hypot_congr ?_
  ring

end Canvas

end Svg

end DiagramScript
