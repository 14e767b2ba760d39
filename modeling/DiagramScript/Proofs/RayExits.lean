import Mathlib
import DiagramScript.Proofs.BoundaryPoints

/-!
# Where a ray leaves a box

A ray is cut off at the nearest of up to four crossings with the sides of a box, each of which is
accepted within a tolerance.  With exact numbers the tolerances decide which crossings there are,
but not where they lie: each is the place on the ray that is as far along as the crossing says.  So
the nearest one only depends on how far along the crossings are, and these are the same after the
plane has been reflected.

* `point_of_mem_rayCrossings` — a crossing is a place on the ray.
* `Reflects`, `rayBoxIntersection_reflect` — reflections of a ray and a box; `swap_reflects`,
  `mirrorX_reflects` and `mirrorY_reflects` are those at the axes and at their diagonal.
* `Box.exit`, `rayBoxIntersection_center` — where a ray from the center of a box leaves it.
* `rayBoxIntersection_exit` — the same for the ray and all its reflections.
-/

namespace DiagramScript

/-! ## Reflections -/

section Reflections

variable {K : Type}

/-- The point with its coordinates exchanged. -/
def Point.swap (p : Point K) : Point K := ⟨p.y, p.x⟩

/-- The box with its axes exchanged. -/
def Box.swap (b : Box K) : Box K := ⟨b.minY, b.minX, b.maxY, b.maxX⟩

variable [Arith K]

/-- The point on the other side of an upright line. -/
def Point.mirrorX (p : Point K) (line : K) : Point K := ⟨Arith.twice line - p.x, p.y⟩

/-- The point on the other side of a level line. -/
def Point.mirrorY (p : Point K) (line : K) : Point K := ⟨p.x, Arith.twice line - p.y⟩

/-- The box on the other side of an upright line. -/
def Box.mirrorX (b : Box K) (line : K) : Box K :=
  ⟨Arith.twice line - b.maxX, b.minY, Arith.twice line - b.minX, b.maxY⟩

/-- The box on the other side of a level line. -/
def Box.mirrorY (b : Box K) (line : K) : Box K :=
  ⟨b.minX, Arith.twice line - b.maxY, b.maxX, Arith.twice line - b.minY⟩

end Reflections

variable {K : Type} [ExactNumber K] {origin target : Point K} {b : Box K}

/-! ## Crossings lie on the ray -/

/-- Whatever its box is, a ray crosses the sides of it where it says. -/
theorem point_of_mem_rayCrossings {c : Crossing K} (h : c ∈ rayCrossings origin target b) :
    c.point = origin.toward target c.along := by
  have moves : ∀ {d : K}, rayTolerance < |d| → d ≠ 0 := fun hd =>
    abs_pos.1 (rayTolerance_pos.trans hd)
  rcases mem_rayCrossings.1 h with ⟨hd, x, -, r, hr, rfl⟩ | ⟨hd, y, -, r, hr, rfl⟩
  · obtain ⟨rfl, -, -, -⟩ := sideCrossing_eq_some.1 hr
    refine Point.ext ?_ ?_
    · show x = origin.x + (target.x - origin.x) * ((x - origin.x) / (target.x - origin.x))
      rw [mul_div_cancel₀ _ (moves hd), add_sub_cancel]
    · exact congrArg (origin.y + ·) (mul_comm ..)
  · obtain ⟨rfl, -, -, -⟩ := sideCrossing_eq_some.1 hr
    refine Point.ext ?_ ?_
    · exact congrArg (origin.x + ·) (mul_comm ..)
    · show y = origin.y + (target.y - origin.y) * ((y - origin.y) / (target.y - origin.y))
      rw [mul_div_cancel₀ _ (moves hd), add_sub_cancel]

/-- Whether a ray crosses a side of a box so far along. -/
def CrossesAt (origin target : Point K) (b : Box K) (along : K) : Prop :=
  ∃ c ∈ rayCrossings origin target b, c.along = along

theorem crossesAt_iff {along : K} : CrossesAt origin target b along ↔
    (rayTolerance < |target.x - origin.x| ∧ ∃ x ∈ [b.minX, b.maxX], ∃ q, sideCrossing origin.x
      origin.y (target.x - origin.x) (target.y - origin.y) x b.minY b.maxY = some (along, q))
    ∨ (rayTolerance < |target.y - origin.y| ∧ ∃ y ∈ [b.minY, b.maxY], ∃ q, sideCrossing origin.y
      origin.x (target.y - origin.y) (target.x - origin.x) y b.minX b.maxX = some (along, q)) := by
  simp only [CrossesAt, mem_rayCrossings]
  constructor
  · rintro ⟨-, ⟨hd, x, hx, r, hr, rfl⟩ | ⟨hd, y, hy, r, hr, rfl⟩, rfl⟩
    · exact .inl ⟨hd, x, hx, r.2, hr⟩
    · exact .inr ⟨hd, y, hy, r.2, hr⟩
  · rintro (⟨hd, x, hx, q, hr⟩ | ⟨hd, y, hy, q, hr⟩)
    · exact ⟨_, .inl ⟨hd, x, hx, _, hr, rfl⟩, rfl⟩
    · exact ⟨_, .inr ⟨hd, y, hy, _, hr, rfl⟩, rfl⟩

/-- The nearest crossing of a ray that has a direction. -/
theorem rayBoxIntersection_of_least {along : K}
    (aims : noDirection (target.x - origin.x) (target.y - origin.y) = false)
    (crosses : CrossesAt origin target b along)
    (least : ∀ s, CrossesAt origin target b s → along ≤ s) :
    rayBoxIntersection origin target b = some (origin.toward target along) := by
  obtain ⟨c, hc, rfl⟩ := crosses
  obtain ⟨c₀, hc₀, nearest, first⟩ := nearestCrossing_spec hc
  have same : c₀.along = c.along := le_antisymm (first c hc) (least _ ⟨c₀, hc₀, rfl⟩)
  rw [rayBoxIntersection, aims, nearest, ← same, ← point_of_mem_rayCrossings hc₀]
  rfl

/-- A ray that crosses no side is not cut off. -/
theorem rayBoxIntersection_of_not_crossesAt (misses : ∀ s, ¬CrossesAt origin target b s) :
    rayBoxIntersection origin target b = none := by
  have empty : rayCrossings origin target b = [] :=
    List.eq_nil_iff_forall_not_mem.2 fun c hc => misses _ ⟨c, hc, rfl⟩
  rw [rayBoxIntersection, empty]
  exact ite_self _

/-! ## Rays that are reflected -/

/-- Whether a ray and a box are those that a change of the plane makes of another ray and box. -/
structure Reflects (f : Point K → Point K) (origin target : Point K) (b : Box K)
    (origin' target' : Point K) (b' : Box K) : Prop where
  /-- Places on the ray become places as far along the other one. -/
  toward : ∀ s, f (origin.toward target s) = origin'.toward target' s
  /-- The other ray has a direction if the first has. -/
  direction : noDirection (target'.x - origin'.x) (target'.y - origin'.y)
    = noDirection (target.x - origin.x) (target.y - origin.y)
  /-- Both cross sides equally far along. -/
  crosses : ∀ s, CrossesAt origin' target' b' s ↔ CrossesAt origin target b s

/-- The place where a ray leaves a box is reflected with the ray and the box. -/
theorem rayBoxIntersection_reflect {f : Point K → Point K} {origin' target' : Point K} {b' : Box K}
    (h : Reflects f origin target b origin' target' b') :
    rayBoxIntersection origin' target' b' = (rayBoxIntersection origin target b).map f := by
  cases aims : noDirection (target.x - origin.x) (target.y - origin.y) with
  | true =>
    rw [rayBoxIntersection, rayBoxIntersection, h.direction, aims]
    rfl
  | false =>
    by_cases crossed : ∃ c, c ∈ rayCrossings origin target b
    · obtain ⟨c, hc⟩ := crossed
      obtain ⟨c₀, hc₀, -, first⟩ := nearestCrossing_spec hc
      have crosses : CrossesAt origin target b c₀.along := ⟨c₀, hc₀, rfl⟩
      have least : ∀ s, CrossesAt origin target b s → c₀.along ≤ s := by
        rintro s ⟨c', hc', rfl⟩
        exact first c' hc'
      rw [rayBoxIntersection_of_least aims crosses least,
        rayBoxIntersection_of_least (h.direction.trans aims) ((h.crosses _).2 crosses)
          fun s hs => least s ((h.crosses s).1 hs),
        Option.map_some, h.toward]
    · have misses : ∀ s, ¬CrossesAt origin target b s := by
        rintro s ⟨c, hc, -⟩
        exact crossed ⟨c, hc⟩
      rw [rayBoxIntersection_of_not_crossesAt misses,
        rayBoxIntersection_of_not_crossesAt fun s hs => misses s ((h.crosses s).1 hs)]
      rfl

/-- The axes may be exchanged. -/
theorem swap_reflects (origin target : Point K) (b : Box K) :
    Reflects Point.swap origin target b origin.swap target.swap b.swap where
  toward _ := rfl
  direction := Bool.and_comm _ _
  crosses _ := by
    rw [crossesAt_iff, crossesAt_iff, or_comm]
    rfl

/-- A side that is reflected with the ray is crossed as far along, at the same height. -/
theorem sideCrossing_reflect_side (o p d e side low high : K) :
    sideCrossing o p (-d) e (Arith.twice o - side) low high =
      sideCrossing o p d e side low high := by
  have along : (Arith.twice o - side - o) / -d = (side - o) / d := by
    rw [Arith.twice_eq, ← neg_div_neg_eq, neg_neg]
    ring_nf
  simp only [sideCrossing, along]

/-- A side that is reflected in itself is crossed as far along, at the reflected place. -/
theorem sideCrossing_reflect_place {o p d e side low high along : K} :
    (∃ q, sideCrossing o p d (-e) side (Arith.twice p - high) (Arith.twice p - low)
      = some (along, q)) ↔ ∃ q, sideCrossing o p d e side low high = some (along, q) := by
  simp only [sideCrossing_eq_some, Arith.twice_eq, Prod.mk.injEq]
  constructor
  · rintro ⟨q, ⟨rfl, -⟩, ahead, above, below⟩
    exact ⟨_, ⟨rfl, rfl⟩, ahead, by linarith, by linarith⟩
  · rintro ⟨q, ⟨rfl, -⟩, ahead, above, below⟩
    exact ⟨_, ⟨rfl, rfl⟩, ahead, by linarith, by linarith⟩

theorem noDirection_neg_left (dx dy : K) : noDirection (-dx) dy = noDirection dx dy := by
  simp only [noDirection, Arith.abs_eq, abs_neg]

/-- Left and right may be exchanged. -/
theorem mirrorX_reflects (origin target : Point K) (b : Box K) :
    Reflects (·.mirrorX origin.x) origin target b origin (target.mirrorX origin.x)
      (b.mirrorX origin.x) := by
  have opposite : Arith.twice origin.x - target.x - origin.x = -(target.x - origin.x) := by
    rw [Arith.twice_eq]
    ring
  refine ⟨fun s => ?_, ?_, fun s => ?_⟩
  · simp only [Point.mirrorX, Point.toward, Arith.twice_eq, Point.mk.injEq, and_true]
    ring
  · simp only [Point.mirrorX, opposite, noDirection_neg_left]
  · simp only [crossesAt_iff, Point.mirrorX, Box.mirrorX, opposite, abs_neg,
      sideCrossing_reflect_place]
    refine or_congr (and_congr_right fun _ => ?_) Iff.rfl
    simp only [List.mem_cons, List.not_mem_nil, or_false, exists_eq_or_imp, exists_eq_left,
      sideCrossing_reflect_side]
    exact or_comm

theorem Reflects.trans {f g : Point K → Point K} {o t o' t' o'' t'' : Point K} {b b' b'' : Box K}
    (first : Reflects f o t b o' t' b') (second : Reflects g o' t' b' o'' t'' b'') :
    Reflects (g ∘ f) o t b o'' t'' b'' where
  toward s := (congrArg g (first.toward s)).trans (second.toward s)
  direction := second.direction.trans first.direction
  crosses s := (second.crosses s).trans (first.crosses s)

/-- So may up and down: that is left and right after the axes have been exchanged. -/
theorem mirrorY_reflects (origin target : Point K) (b : Box K) :
    Reflects (·.mirrorY origin.y) origin target b origin (target.mirrorY origin.y)
      (b.mirrorY origin.y) :=
  ((swap_reflects origin target b).trans (mirrorX_reflects ..)).trans (swap_reflects ..)

/-! ## Rays from the center -/

namespace Box

/-- Whether a point lies on a side of a box. -/
structure OnSide (b : Box K) (p : Point K) : Prop where
  /-- It is not beside the box. -/
  sideways : b.minX ≤ p.x ∧ p.x ≤ b.maxX
  /-- It is not above or below the box. -/
  upward : b.minY ≤ p.y ∧ p.y ≤ b.maxY
  /-- It is not inside the box either. -/
  outward : p.x = b.minX ∨ p.x = b.maxX ∨ p.y = b.minY ∨ p.y = b.maxY

/-- How far along a ray from the center reaches the sides of a box, as a multiple of the way to the
target: the sides across the axis along which it reaches them first, if it moves along both. -/
def exit (b : Box K) (dx dy : K) : K :=
  if dx = 0 then Arith.half b.height / |dy|
  else if dy = 0 then Arith.half b.width / |dx|
  else min (Arith.half b.width / |dx|) (Arith.half b.height / |dy|)

variable {dx dy : K}

theorem exit_le_width (h : dx ≠ 0) : b.exit dx dy ≤ Arith.half b.width / |dx| := by
  rw [exit, if_neg h]
  split_ifs
  · exact le_rfl
  · exact min_le_left _ _

theorem exit_le_height (h : dy ≠ 0) : b.exit dx dy ≤ Arith.half b.height / |dy| := by
  rw [exit, if_neg h]
  split_ifs
  · exact le_rfl
  · exact min_le_right _ _

/-- A ray with a direction is at one pair of sides when it leaves the box. -/
theorem exit_cases (h : ¬(dx = 0 ∧ dy = 0)) :
    (dx ≠ 0 ∧ b.exit dx dy = Arith.half b.width / |dx|)
      ∨ (dy ≠ 0 ∧ b.exit dx dy = Arith.half b.height / |dy|) := by
  by_cases hx : dx = 0
  · exact .inr ⟨fun hy => h ⟨hx, hy⟩, if_pos hx⟩
  · by_cases hy : dy = 0
    · exact .inl ⟨hx, by rw [exit, if_neg hx, if_pos hy]⟩
    · rw [exit, if_neg hx, if_neg hy]
      rcases min_choice (Arith.half b.width / |dx|) (Arith.half b.height / |dy|) with hm | hm
      · exact .inl ⟨hx, hm⟩
      · exact .inr ⟨hy, hm⟩

/-- Until a ray leaves the box, it is not beside it. -/
theorem exit_mul_abs_le_width (wide : 0 ≤ Arith.half b.width) :
    b.exit dx dy * |dx| ≤ Arith.half b.width := by
  by_cases h : dx = 0
  · rwa [h, abs_zero, mul_zero]
  · exact (le_div_iff₀ (abs_pos.2 h)).1 (exit_le_width h)

/-- Neither is it above or below it. -/
theorem exit_mul_abs_le_height (high : 0 ≤ Arith.half b.height) :
    b.exit dx dy * |dy| ≤ Arith.half b.height := by
  by_cases h : dy = 0
  · rwa [h, abs_zero, mul_zero]
  · exact (le_div_iff₀ (abs_pos.2 h)).1 (exit_le_height h)

/-- The sides of a box are half of its width and half of its height away from its center. -/
theorem sides_eq (b : Box K) : b.minX = b.center.x - Arith.half b.width
    ∧ b.maxX = b.center.x + Arith.half b.width ∧ b.minY = b.center.y - Arith.half b.height
    ∧ b.maxY = b.center.y + Arith.half b.height := by
  simp only [Box.center, Box.width, Box.height, Arith.half_eq]
  refine ⟨?_, ?_, ?_, ?_⟩ <;> ring

theorem mirrorX_center (b : Box K) : b.mirrorX b.center.x = b := by
  simp only [Box.mirrorX, Box.center, Arith.twice_eq, Arith.half_eq, Box.ext_iff, and_true,
    true_and]
  exact ⟨by ring, by ring⟩

theorem mirrorY_center (b : Box K) : b.mirrorY b.center.y = b := by
  simp only [Box.mirrorY, Box.center, Arith.twice_eq, Arith.half_eq, Box.ext_iff, true_and]
  exact ⟨by ring, by ring⟩

end Box

/-- Whether the way to a target tells a direction: along each axis it is nothing at all or more than
the tolerance, and it is not nothing along both. -/
structure Aims (dx dy : K) : Prop where
  /-- Sideways. -/
  sideways : dx = 0 ∨ rayTolerance < |dx|
  /-- Upward. -/
  upward : dy = 0 ∨ rayTolerance < |dy|
  /-- It moves. -/
  moves : ¬(dx = 0 ∧ dy = 0)

namespace Aims

variable {dx dy : K}

theorem far_x (h : Aims dx dy) (hx : dx ≠ 0) : rayTolerance < |dx| := h.sideways.resolve_left hx

theorem far_y (h : Aims dx dy) (hy : dy ≠ 0) : rayTolerance < |dy| := h.upward.resolve_left hy

theorem noDirection_eq (h : Aims dx dy) : noDirection dx dy = false := by
  rw [noDirection_eq_false_iff]
  by_cases hx : dx = 0
  · exact .inr (h.far_y fun hy => h.moves ⟨hx, hy⟩).le
  · exact .inl (h.far_x hx).le

end Aims

section Center

variable (wide : 0 < b.width) (high : 0 < b.height)

include wide in
theorem Box.half_width_pos : 0 < Arith.half b.width := by
  rw [Arith.half_eq]
  exact half_pos wide

include high in
theorem Box.half_height_pos : 0 < Arith.half b.height := by
  rw [Arith.half_eq]
  exact half_pos high

omit wide high in
theorem crossesAt_center {s : K} : CrossesAt b.center target b s ↔
    (rayTolerance < |target.x - b.center.x| ∧
      ∃ x ∈ [b.center.x - Arith.half b.width, b.center.x + Arith.half b.width], ∃ q,
        sideCrossing b.center.x b.center.y (target.x - b.center.x) (target.y - b.center.y) x
          (b.center.y - Arith.half b.height) (b.center.y + Arith.half b.height) = some (s, q))
    ∨ (rayTolerance < |target.y - b.center.y| ∧
      ∃ y ∈ [b.center.y - Arith.half b.height, b.center.y + Arith.half b.height], ∃ q,
        sideCrossing b.center.y b.center.x (target.y - b.center.y) (target.x - b.center.x) y
          (b.center.x - Arith.half b.width) (b.center.x + Arith.half b.width) = some (s, q)) := by
  obtain ⟨left, right, lower, upper⟩ := b.sides_eq
  rw [crossesAt_iff, left, right, lower, upper]

include wide high

/-- A ray from the center crosses no side before it leaves the box. -/
theorem exit_le_of_crossesAt {s : K} (h : CrossesAt b.center target b s) :
    b.exit (target.x - b.center.x) (target.y - b.center.y) ≤ s := by
  rcases crossesAt_center.1 h with ⟨far, x, hx, q, hr⟩ | ⟨far, y, hy, q, hr⟩
  · have pos := rayTolerance_pos.trans far
    obtain ⟨-, reaches, -, -⟩ := sideCrossing_sound far (Box.half_width_pos wide) hx hr
    exact (Box.exit_le_width (abs_pos.1 pos)).trans ((div_le_iff₀ pos).2 reaches.ge)
  · have pos := rayTolerance_pos.trans far
    obtain ⟨-, reaches, -, -⟩ := sideCrossing_sound far (Box.half_height_pos high) hy hr
    exact (Box.exit_le_height (abs_pos.1 pos)).trans ((div_le_iff₀ pos).2 reaches.ge)

/-- It crosses a side where it leaves the box. -/
theorem crossesAt_exit (aims : Aims (target.x - b.center.x) (target.y - b.center.y))
    (far : rayTolerance < b.exit (target.x - b.center.x) (target.y - b.center.y)) :
    CrossesAt b.center target b (b.exit (target.x - b.center.x) (target.y - b.center.y)) := by
  have hw := Box.half_width_pos wide
  have hh := Box.half_height_pos high
  rw [crossesAt_center]
  rcases b.exit_cases aims.moves with ⟨moves, reached⟩ | ⟨moves, reached⟩
  · have inside : b.exit (target.x - b.center.x) (target.y - b.center.y) * _ ≤ _ :=
      Box.exit_mul_abs_le_height hh.le
    rw [reached] at far inside ⊢
    obtain ⟨x, hx, r, hr, along⟩ := exists_sideCrossing (aims.far_x moves) hw far inside
    exact .inl ⟨aims.far_x moves, x, hx, r.2, along ▸ hr⟩
  · have inside : b.exit (target.x - b.center.x) (target.y - b.center.y) * _ ≤ _ :=
      Box.exit_mul_abs_le_width hw.le
    rw [reached] at far inside ⊢
    obtain ⟨y, hy, r, hr, along⟩ := exists_sideCrossing (aims.far_y moves) hh far inside
    exact .inr ⟨aims.far_y moves, y, hy, r.2, along ▸ hr⟩

/-- So that is where it is cut off. -/
theorem rayBoxIntersection_center
    (aims : Aims (target.x - b.center.x) (target.y - b.center.y))
    (far : rayTolerance < b.exit (target.x - b.center.x) (target.y - b.center.y)) :
    rayBoxIntersection b.center target b = some
      (b.center.toward target (b.exit (target.x - b.center.x) (target.y - b.center.y))) :=
  rayBoxIntersection_of_least aims.noDirection_eq (crossesAt_exit wide high aims far)
    fun _ crosses => exit_le_of_crossesAt wide high crosses

/-- The place where a ray with a direction leaves a box lies on a side of it. -/
theorem onSide_exit (moves : ¬(target.x - b.center.x = 0 ∧ target.y - b.center.y = 0)) :
    b.OnSide (b.center.toward target
      (b.exit (target.x - b.center.x) (target.y - b.center.y))) := by
  have hw := Box.half_width_pos wide
  have hh := Box.half_height_pos high
  obtain ⟨left, right, lower, upper⟩ := b.sides_eq
  let dx := target.x - b.center.x
  let dy := target.y - b.center.y
  have nonneg : 0 ≤ b.exit dx dy := by
    rcases b.exit_cases moves with ⟨-, reached⟩ | ⟨-, reached⟩
    · exact reached ▸ div_nonneg hw.le (abs_nonneg _)
    · exact reached ▸ div_nonneg hh.le (abs_nonneg _)
  have extent : ∀ d : K, |d * b.exit dx dy| = b.exit dx dy * |d| := fun d => by
    rw [abs_mul, abs_of_nonneg nonneg, mul_comm]
  have sideways : |dx * b.exit dx dy| ≤ Arith.half b.width :=
    (extent dx).trans_le (Box.exit_mul_abs_le_width hw.le)
  have upward : |dy * b.exit dx dy| ≤ Arith.half b.height :=
    (extent dy).trans_le (Box.exit_mul_abs_le_height hh.le)
  refine ⟨?_, ?_, ?_⟩
  · obtain ⟨low, high⟩ := abs_le.1 sideways
    rw [left, right]
    exact ⟨sub_eq_add_neg b.center.x _ ▸ add_le_add_right low _, add_le_add_right high _⟩
  · obtain ⟨low, high⟩ := abs_le.1 upward
    rw [lower, upper]
    exact ⟨sub_eq_add_neg b.center.y _ ▸ add_le_add_right low _, add_le_add_right high _⟩
  · -- along the axis whose sides it has reached it is as far out as these
    rcases b.exit_cases moves with ⟨moves, reached⟩ | ⟨moves, reached⟩
    · have out : |dx * b.exit dx dy| = Arith.half b.width := by
        rw [extent, reached, div_mul_cancel₀ _ (abs_ne_zero.2 moves)]
      rw [left, right, sub_eq_add_neg b.center.x (Arith.half b.width)]
      rcases eq_or_eq_neg_of_abs_eq out with ahead | behind
      · exact .inr (.inl (congrArg (b.center.x + ·) ahead))
      · exact .inl (congrArg (b.center.x + ·) behind)
    · have out : |dy * b.exit dx dy| = Arith.half b.height := by
        rw [extent, reached, div_mul_cancel₀ _ (abs_ne_zero.2 moves)]
      rw [lower, upper, sub_eq_add_neg b.center.y (Arith.half b.height)]
      rcases eq_or_eq_neg_of_abs_eq out with above | below
      · exact .inr (.inr (.inr (congrArg (b.center.y + ·) above)))
      · exact .inr (.inr (.inl (congrArg (b.center.y + ·) below)))

/-- For every box that has an extent and every target, a ray from the center of the box that is told
apart from a point is cut off exactly where it leaves the box, and that is on a side of it.  After
the axes have been exchanged, or the target has been reflected at the center, it is cut off at the
reflected place. -/
theorem rayBoxIntersection_exit (aims : Aims (target.x - b.center.x) (target.y - b.center.y))
    (far : rayTolerance < b.exit (target.x - b.center.x) (target.y - b.center.y)) :
    let s := b.exit (target.x - b.center.x) (target.y - b.center.y)
    let place : Point K := ⟨b.center.x + s * (target.x - b.center.x),
      b.center.y + s * (target.y - b.center.y)⟩
    rayBoxIntersection b.center target b = some place ∧ b.OnSide place
      ∧ rayBoxIntersection b.center.swap target.swap b.swap = some place.swap
      ∧ rayBoxIntersection b.center (target.mirrorX b.center.x) b
        = some (place.mirrorX b.center.x)
      ∧ rayBoxIntersection b.center (target.mirrorY b.center.y) b
        = some (place.mirrorY b.center.y) := by
  intro s place
  have exact : place = b.center.toward target s :=
    Point.ext (congrArg (b.center.x + ·) (mul_comm ..)) (congrArg (b.center.y + ·) (mul_comm ..))
  have left := rayBoxIntersection_center wide high aims far
  have sideways := rayBoxIntersection_reflect (mirrorX_reflects b.center target b)
  have upward := rayBoxIntersection_reflect (mirrorY_reflects b.center target b)
  rw [b.mirrorX_center, left] at sideways
  rw [b.mirrorY_center, left] at upward
  rw [exact]
  refine ⟨left, onSide_exit wide high aims.moves, ?_, sideways, upward⟩
  rw [rayBoxIntersection_reflect (swap_reflects b.center target b), left]
  rfl

end Center

/-- A ray that leaves a box, two wide and one high, through a corner, where it crosses two sides. -/
theorem rayBoxIntersection_exit_corner :
    let b : Box ℚ := ⟨-1, -1 / 2, 1, 1 / 2⟩
    let target : Point ℚ := ⟨4, -2⟩
    0 < b.width ∧ 0 < b.height ∧ Aims (target.x - b.center.x) (target.y - b.center.y)
      ∧ rayTolerance < b.exit (target.x - b.center.x) (target.y - b.center.y)
      ∧ rayBoxIntersection b.center target b = some ⟨1, -1 / 2⟩
      ∧ rayBoxIntersection b.center.swap target.swap b.swap = some ⟨-1 / 2, 1⟩ := by
  intro b target
  have wide : 0 < b.width := by decide +kernel
  have high : 0 < b.height := by decide +kernel
  have aims : Aims (target.x - b.center.x) (target.y - b.center.y) :=
    ⟨.inr (by decide +kernel), .inr (by decide +kernel), by decide +kernel⟩
  have far : rayTolerance < b.exit (target.x - b.center.x) (target.y - b.center.y) := by
    decide +kernel
  obtain ⟨left, -, swapped, -, -⟩ := rayBoxIntersection_exit wide high aims far
  refine ⟨wide, high, aims, far, left.trans ?_, swapped.trans ?_⟩
  · exact congrArg some (Point.ext (by decide +kernel) (by decide +kernel))
  · exact congrArg some (Point.ext (by decide +kernel) (by decide +kernel))

end DiagramScript
