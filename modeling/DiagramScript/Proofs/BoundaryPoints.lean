import Mathlib
import DiagramScript.Placement
import DiagramScript.Proofs.Outlines

/-!
# Where lines are cut off

A line that is to end at an object is cut off where it crosses the ellipse inscribed in its frame,
if the object is round, and the frame itself if it is not.  That is not always the outline the
object is drawn with.

* `nearestCrossing_spec` — the nearest of some crossings.
* `rayBoxIntersection_frame`, `ellipseBoundary_eq` — the crossings of a ray from the center with a
  frame and with the ellipse inscribed in it.
* `Object.cutOutline` — the outline that lines are cut off at; `Draft.boundary_eq` says where.
* `Object.spread_eq_iff` — where this outline is as far out as the one that is drawn.
* `Draft.boundary_cut` — what becomes of every line toward the center of an object.
-/

namespace DiagramScript

/-! ## Crossings -/

section Crossings

variable {K : Type} [ExactNumber K]

/-- The nearer of two crossings is one of them, and no further along than either. -/
theorem Crossing.nearer_spec (a b : Crossing K) :
    (a.nearer b = a ∨ a.nearer b = b) ∧ (a.nearer b).along ≤ a.along
      ∧ (a.nearer b).along ≤ b.along := by
  unfold nearer
  split_ifs with h
  · exact ⟨.inr rfl, h.le, le_rfl⟩
  · exact ⟨.inl rfl, le_rfl, not_lt.1 h⟩

theorem foldl_nearer_spec (cs : List (Crossing K)) (c : Crossing K) :
    cs.foldl Crossing.nearer c ∈ c :: cs
      ∧ ∀ c' ∈ c :: cs, (cs.foldl Crossing.nearer c).along ≤ c'.along := by
  induction cs generalizing c with
  | nil => exact ⟨List.mem_cons_self, fun c' h => by rw [List.mem_singleton.1 h]; rfl⟩
  | cons d ds ih =>
    obtain ⟨hmem, hle⟩ := ih (c.nearer d)
    obtain ⟨hone, hc, hd⟩ := c.nearer_spec d
    have hhead := hle _ List.mem_cons_self
    refine ⟨?_, fun c' h => ?_⟩
    · rcases List.mem_cons.1 hmem with heq | hmem
      · rw [List.foldl_cons, heq]
        rcases hone with h | h <;> simp [h]
      · exact List.mem_cons_of_mem _ (List.mem_cons_of_mem _ hmem)
    · rcases List.mem_cons.1 h with rfl | h
      · exact hhead.trans hc
      · rcases List.mem_cons.1 h with rfl | h
        · exact hhead.trans hd
        · exact hle c' (List.mem_cons_of_mem _ h)

/-- Among some crossings, the nearest lies where all crossings lie that are no further along. -/
theorem nearestCrossing_spec {cs : List (Crossing K)} {c : Crossing K} (h : c ∈ cs) :
    ∃ c₀ ∈ cs, nearestCrossing cs = some c₀ ∧ ∀ c' ∈ cs, c₀.along ≤ c'.along := by
  cases cs with
  | nil => cases h
  | cons d ds =>
    obtain ⟨hmem, hle⟩ := foldl_nearer_spec ds d
    exact ⟨_, hmem, rfl, hle⟩

theorem sideCrossing_eq_some {o p d e side low high : K} {c : K × K} :
    sideCrossing o p d e side low high = some c ↔ c = ((side - o) / d, p + (side - o) / d * e)
      ∧ rayTolerance < (side - o) / d ∧ low - sideSlack ≤ p + (side - o) / d * e
      ∧ p + (side - o) / d * e ≤ high + sideSlack := by
  unfold sideCrossing
  dsimp only
  split_ifs with near inside
  · simp [not_lt.2 near]
  · simp [not_le.1 near, inside, eq_comm]
  · rw [not_and] at inside
    simp only [false_iff, not_and]
    exact fun _ _ h => inside h

/-- What the crossings of a ray are: those with the upright sides, and those with the level ones. -/
theorem mem_rayCrossings {origin target : Point K} {b : Box K} {c : Crossing K} :
    c ∈ rayCrossings origin target b ↔
      (rayTolerance < |target.x - origin.x| ∧ ∃ x ∈ [b.minX, b.maxX], ∃ r,
        sideCrossing origin.x origin.y (target.x - origin.x) (target.y - origin.y) x b.minY b.maxY
          = some r ∧ (⟨r.1, ⟨x, r.2⟩⟩ : Crossing K) = c)
      ∨ (rayTolerance < |target.y - origin.y| ∧ ∃ y ∈ [b.minY, b.maxY], ∃ r,
        sideCrossing origin.y origin.x (target.y - origin.y) (target.x - origin.x) y b.minX b.maxX
          = some r ∧ (⟨r.1, ⟨r.2, y⟩⟩ : Crossing K) = c) := by
  unfold rayCrossings
  rw [List.mem_append]
  refine or_congr ?_ ?_
  · simp only [Arith.abs_eq]
    split_ifs with h
    · simp [h, List.mem_filterMap, Option.map_eq_some_iff]
    · simp [h]
  · simp only [Arith.abs_eq]
    split_ifs with h
    · simp [h, List.mem_filterMap, Option.map_eq_some_iff]
    · simp [h]

theorem rayTolerance_pos : (0 : K) < rayTolerance := by
  rw [rayTolerance, Arith.dec_eq]
  positivity

theorem four_rayTolerance_le : (4 * rayTolerance : K) ≤ 1 := by
  rw [rayTolerance, Arith.dec_eq]
  norm_num

theorem sideSlack_pos : (0 : K) < sideSlack := by
  rw [sideSlack, Arith.dec_eq]
  positivity

/-! ## Frames -/

/-- A crossing with one of two sides that are equally far away on either hand. -/
theorem sideCrossing_sound {o p d e a side low high : K} {r : K × K} (hd : rayTolerance < |d|)
    (ha : 0 < a) (hside : side ∈ [o - a, o + a])
    (h : sideCrossing o p d e side low high = some r) :
    0 < r.1 ∧ r.1 * |d| = a ∧ side = o + d * r.1 ∧ r.2 = p + e * r.1 := by
  obtain ⟨rfl, hahead, -, -⟩ := sideCrossing_eq_some.1 h
  have hd0 : d ≠ 0 := abs_pos.1 (rayTolerance_pos.trans hd)
  have hpos : 0 < (side - o) / d := rayTolerance_pos.trans hahead
  have hmul : (side - o) / d * d = side - o := div_mul_cancel₀ _ hd0
  have habs : |side - o| = a := by
    rcases List.mem_pair.1 hside with rfl | rfl
    · rw [sub_sub_cancel_left, abs_neg, abs_of_pos ha]
    · rw [add_sub_cancel_left, abs_of_pos ha]
  refine ⟨hpos, ?_, ?_, by rw [mul_comm]⟩
  · calc (side - o) / d * |d| = |(side - o) / d * d| := by rw [abs_mul, abs_of_pos hpos]
      _ = a := by rw [hmul, habs]
  · rw [mul_comm, hmul, add_sub_cancel]

/-- A ray crosses the side ahead if it does not leave the frame before. -/
theorem exists_sideCrossing {o p d e a b : K} (hd : rayTolerance < |d|) (ha : 0 < a)
    (hahead : rayTolerance < a / |d|) (hinside : a / |d| * |e| ≤ b) :
    ∃ side ∈ [o - a, o + a], ∃ r, sideCrossing o p d e side (p - b) (p + b) = some r
      ∧ r.1 = a / |d| := by
  have hslack := sideSlack_pos (K := K)
  have hd0 : d ≠ 0 := abs_pos.1 (rayTolerance_pos.trans hd)
  have hb : |a / |d| * e| ≤ b := by
    rw [abs_mul, abs_of_pos (div_pos ha (abs_pos.2 hd0))]
    exact hinside
  obtain ⟨hlow, hhigh⟩ := abs_le.1 hb
  -- The side ahead is the one on the hand that the ray turns to.
  have hside : ∃ side ∈ [o - a, o + a], (side - o) / d = a / |d| := by
    rcases le_total 0 d with hs | hs
    · refine ⟨o + a, by simp, ?_⟩
      rw [add_sub_cancel_left, abs_of_nonneg hs]
    · refine ⟨o - a, by simp, ?_⟩
      rw [sub_sub_cancel_left, abs_of_nonpos hs, neg_div, div_neg]
  obtain ⟨side, hmem, ht⟩ := hside
  refine ⟨side, hmem, (a / |d|, p + a / |d| * e), sideCrossing_eq_some.2 ?_, rfl⟩
  rw [ht]
  exact ⟨rfl, hahead, by linarith, by linarith⟩

variable {o : Object K} {target : Point K}

/-- Whether rays toward a target are told apart from points: sideways and upward, the frame is four
times as large as the tolerance, or the way to the target is longer than it. -/
structure Object.Resolves (o : Object K) (target : Point K) : Prop where
  /-- Sideways. -/
  sideways : 4 * rayTolerance ≤ o.width ∨ rayTolerance < |target.x - o.center.x|
  /-- Upward. -/
  upward : 4 * rayTolerance ≤ o.height ∨ rayTolerance < |target.y - o.center.y|

/-- A target that is further than half of the frame away on one hand is further away there than the
tolerance. -/
theorem rayTolerance_lt_of_half_lt {size d : K}
    (h : 4 * rayTolerance ≤ size ∨ rayTolerance < |d|) (hpos : 0 < size)
    (far : 1 / 2 < |d| / Arith.half size) : rayTolerance < |d| := by
  refine h.elim (fun large => ?_) id
  rw [Arith.half_eq, lt_div_iff₀ (half_pos hpos)] at far
  linarith

theorem noDirection_eq_false_iff {dx dy : K} :
    noDirection dx dy = false ↔ rayTolerance ≤ |dx| ∨ rayTolerance ≤ |dy| := by
  rw [noDirection, Bool.and_eq_false_iff, decide_eq_false_iff_not, decide_eq_false_iff_not,
    Arith.abs_eq, Arith.abs_eq, not_lt, not_lt]

/-- A ray that leads out of a diamond that is large enough has a direction. -/
theorem noDirection_of_outside {width height dx dy : K} (wide : 0 < width) (high : 0 < height)
    (sideways : 4 * rayTolerance ≤ width ∨ rayTolerance < |dx|)
    (upward : 4 * rayTolerance ≤ height ∨ rayTolerance < |dy|)
    (outside : 1 < |dx| / Arith.half width + |dy| / Arith.half height) :
    noDirection dx dy = false := by
  rw [noDirection_eq_false_iff]
  by_cases far : 1 / 2 < |dx| / Arith.half width
  · exact .inl (rayTolerance_lt_of_half_lt sideways wide far).le
  · exact .inr (rayTolerance_lt_of_half_lt upward high (by linarith)).le

section Frame

variable (wide : 0 < o.width) (high : 0 < o.height)

include wide in
theorem Object.abs_inFrame_x (p : Point K) :
    |(o.inFrame p).x| = |p.x - o.center.x| / Arith.half o.width := by
  rw [Object.inFrame, abs_div, abs_of_pos (Object.half_width_pos wide)]

include high in
theorem Object.abs_inFrame_y (p : Point K) :
    |(o.inFrame p).y| = |p.y - o.center.y| / Arith.half o.height := by
  rw [Object.inFrame, abs_div, abs_of_pos (Object.half_height_pos high)]

include wide high

/-- Every crossing with the frame lies on the ray, no nearer than the frame. -/
theorem rayCrossings_frame {c : Crossing K}
    (h : c ∈ rayCrossings o.center target (Box.ofFrame o.center o.width o.height)) :
    c.point = o.center.toward target c.along ∧ 1 ≤ c.along * o.spread .rectangle target := by
  have hw := Object.half_width_pos wide
  have hh := Object.half_height_pos high
  rcases mem_rayCrossings.1 h with ⟨hd, x, hx, r, hr, rfl⟩ | ⟨hd, y, hy, r, hr, rfl⟩
  · obtain ⟨hpos, hlen, rfl, hq⟩ := sideCrossing_sound hd hw hx hr
    refine ⟨by rw [hq, Point.toward], ?_⟩
    calc 1 = r.1 * |(o.inFrame target).x| := by
          rw [Object.abs_inFrame_x wide, ← mul_div_assoc, hlen, div_self hw.ne']
      _ ≤ r.1 * o.spread .rectangle target :=
          mul_le_mul_of_nonneg_left (le_max_left _ _) hpos.le
  · obtain ⟨hpos, hlen, rfl, hq⟩ := sideCrossing_sound hd hh hy hr
    refine ⟨by rw [hq, Point.toward], ?_⟩
    calc 1 = r.1 * |(o.inFrame target).y| := by
          rw [Object.abs_inFrame_y high, ← mul_div_assoc, hlen, div_self hh.ne']
      _ ≤ r.1 * o.spread .rectangle target :=
          mul_le_mul_of_nonneg_left (le_max_right _ _) hpos.le

/-- One of the crossings is as far along as the frame. -/
theorem exists_rayCrossing_frame (resolved : o.Resolves target)
    (outside : 1 / 2 < o.spread .rectangle target)
    (near : rayTolerance < 1 / o.spread .rectangle target) :
    ∃ c ∈ rayCrossings o.center target (Box.ofFrame o.center o.width o.height),
      c.along = 1 / o.spread .rectangle target := by
  have hw := Object.half_width_pos wide
  have hh := Object.half_height_pos high
  have hx := Object.abs_inFrame_x wide target
  have hy := Object.abs_inFrame_y high target
  have hlx : |(o.inFrame target).x| ≤ o.spread .rectangle target := le_max_left _ _
  have hly : |(o.inFrame target).y| ≤ o.spread .rectangle target := le_max_right _ _
  rcases max_choice |(o.inFrame target).x| |(o.inFrame target).y| with hm | hm
  · -- The ray leaves the frame by an upright side.
    have hg : o.spread .rectangle target = |target.x - o.center.x| / Arith.half o.width :=
      hm.trans hx
    have hd := rayTolerance_lt_of_half_lt resolved.sideways wide (hg ▸ outside)
    have hinv : Arith.half o.width / |target.x - o.center.x|
        = 1 / o.spread .rectangle target := by rw [hg, one_div_div]
    obtain ⟨x, hmem, r, hr, halong⟩ := exists_sideCrossing (o := o.center.x) (p := o.center.y)
      (e := target.y - o.center.y) (b := Arith.half o.height) hd hw (hinv ▸ near) <| by
        rw [hinv, one_div_mul_eq_div, div_le_iff₀ (by linarith), mul_comm, ← div_le_iff₀ hh, ← hy]
        exact hly
    exact ⟨_, mem_rayCrossings.2 (.inl ⟨hd, x, hmem, r, hr, rfl⟩), halong.trans hinv⟩
  · -- The ray leaves it by a level one.
    have hg : o.spread .rectangle target = |target.y - o.center.y| / Arith.half o.height :=
      hm.trans hy
    have hd := rayTolerance_lt_of_half_lt resolved.upward high (hg ▸ outside)
    have hinv : Arith.half o.height / |target.y - o.center.y|
        = 1 / o.spread .rectangle target := by rw [hg, one_div_div]
    obtain ⟨y, hmem, r, hr, halong⟩ := exists_sideCrossing (o := o.center.y) (p := o.center.x)
      (e := target.x - o.center.x) (b := Arith.half o.width) hd hh (hinv ▸ near) <| by
        rw [hinv, one_div_mul_eq_div, div_le_iff₀ (by linarith), mul_comm, ← div_le_iff₀ hw, ← hx]
        exact hlx
    exact ⟨_, mem_rayCrossings.2 (.inr ⟨hd, y, hmem, r, hr, rfl⟩), halong.trans hinv⟩

/-- The first place where a ray from the center leaves the frame. -/
theorem rayBoxIntersection_frame (resolved : o.Resolves target)
    (outside : 1 / 2 < o.spread .rectangle target)
    (near : rayTolerance < 1 / o.spread .rectangle target)
    (aims : noDirection (target.x - o.center.x) (target.y - o.center.y) = false) :
    rayBoxIntersection o.center target (Box.ofFrame o.center o.width o.height)
      = some (o.center.toward target (1 / o.spread .rectangle target)) := by
  obtain ⟨c, hc, halong⟩ := exists_rayCrossing_frame wide high resolved outside near
  obtain ⟨c₀, hc₀, hnearest, hle⟩ := nearestCrossing_spec hc
  obtain ⟨hpoint, hone⟩ := rayCrossings_frame wide high hc₀
  have hpos : 0 < o.spread .rectangle target := by linarith
  have heq : c₀.along = 1 / o.spread .rectangle target :=
    le_antisymm ((hle c hc).trans halong.le) ((div_le_iff₀ hpos).2 hone)
  rw [rayBoxIntersection, aims, hnearest, ← heq, ← hpoint]
  rfl

end Frame

end Crossings

/-! ## Ellipses -/

variable {K : Type} [EuclideanNumber K] {o : Object K} {target : Point K}

/-- The place where a ray from the center leaves the ellipse inscribed in the frame. -/
theorem ellipseBoundary_eq (wide : 0 < o.width) (high : 0 < o.height)
    (hpos : 0 < o.spread .ellipse target)
    (aims : noDirection (target.x - o.center.x) (target.y - o.center.y) = false) :
    ellipseBoundary o.center o.width o.height target
      = .ok (o.center.toward target (1 / o.spread .ellipse target)) := by
  have hw := Object.half_width_pos wide
  have hh := Object.half_height_pos high
  have hzero : (Arith.num 0 : K) = 0 := by
    rw [Arith.num_eq, Nat.cast_zero]
  unfold ellipseBoundary
  dsimp only
  rw [if_neg (by simp [hzero, hw, hh, aims]), Arith.square_eq, Arith.square_eq]
  show (Arith.reciprocal (Arith.sqrt _) >>= _) = _
  rw [← Arith.hypot_eq]
  have hrec : Arith.reciprocal (o.spread .ellipse target) = .ok (1 / o.spread .ellipse target) :=
    Arith.reciprocal_eq hpos.ne'
  exact congrArg (· >>= fun t => Except.ok (o.center.toward target t)) hrec

/-! ## Objects -/

namespace Object

/-- The outline that lines are cut off at. -/
def cutOutline (o : Object K) : Outline := if o.cls.isRound then .ellipse else .rectangle

/-- Whether a ray to a target crosses an outline of an object where it crosses the outline that
lines are cut off at. -/
def Meets (o : Object K) (target : Point K) : Outline → Prop
  | .rectangle => True
  | .ellipse => True
  | .circle => o.width = o.height ∨ target.y = o.center.y
  | .diamond => target.x = o.center.x ∨ target.y = o.center.y

/-- Which objects are drawn with which outline. -/
theorem outline?_cases {f : Outline} (h : o.outline? = some f) :
    (f = .rectangle ∧ o.cls = .box) ∨ (f = .ellipse ∧ o.cls = .ellipse)
      ∨ (f = .circle ∧ (o.cls = .circle ∨ o.cls = .dot)) ∨ (f = .diamond ∧ o.cls = .diamond) := by
  unfold outline? at h
  split at h
  · split at h <;> cases h
    exact .inl ⟨rfl, ‹_›⟩
  · cases h
    exact .inr (.inr (.inl ⟨rfl, .inl ‹_›⟩))
  · cases h
    exact .inr (.inr (.inl ⟨rfl, .inr ‹_›⟩))
  · cases h
    exact .inr (.inl ⟨rfl, ‹_›⟩)
  · cases h
    exact .inr (.inr (.inr ⟨rfl, ‹_›⟩))
  · cases h

/-- An object that is drawn with an outline is no path. -/
theorem isLine_of_outline? {f : Outline} (h : o.outline? = some f) : o.cls.isLine = false := by
  rcases outline?_cases h with ⟨-, hc⟩ | ⟨-, hc⟩ | ⟨-, hc | hc⟩ | ⟨-, hc⟩ <;> rw [hc] <;> rfl

/-- The sum of two extents is the larger of them only if the other is nothing. -/
theorem add_eq_max_iff {a b : K} (ha : 0 ≤ a) (hb : 0 ≤ b) : a + b = max a b ↔ a = 0 ∨ b = 0 := by
  constructor
  · intro hsum
    rcases max_choice a b with h | h
    · exact .inr (add_eq_left.1 (hsum.trans h))
    · exact .inl (add_eq_right.1 (hsum.trans h))
  · rintro (rfl | rfl)
    · rw [zero_add, max_eq_right hb]
    · rw [add_zero, max_eq_left ha]

/-- Seen from the center, a circle measures both extents in halves of its width. -/
theorem spread_circle (wide : 0 < o.width) : o.spread .circle target
    = Arith.hypot (o.inFrame target).x ((target.y - o.center.y) / Arith.half o.width) := by
  have hw := half_width_pos wide
  calc o.spread .circle target = |(Arith.half o.width)⁻¹| * o.center.distance target := by
        rw [abs_of_pos (inv_pos.2 hw), inv_mul_eq_div, spread]
    _ = _ := by rw [Point.distance, ← Arith.hypot_scale, inv_mul_eq_div, inv_mul_eq_div, inFrame]

/-- What lies outside of a diamond is more than half as far out as its frame. -/
theorem half_lt_spread_rectangle {f : Outline} (drawn : o.outline? = some f)
    (angular : o.cls.isRound = false) (outside : 1 < o.spread f target) :
    1 / 2 < o.spread .rectangle target := by
  rcases outline?_cases drawn with ⟨rfl, hc⟩ | ⟨rfl, hc⟩ | ⟨rfl, hc⟩ | ⟨rfl, hc⟩
  · linarith
  · rw [hc] at angular
    cases angular
  · rcases hc with hc | hc <;> (rw [hc] at angular; cases angular)
  · have hx : |(o.inFrame target).x| ≤ o.spread .rectangle target := le_max_left _ _
    have hy : |(o.inFrame target).y| ≤ o.spread .rectangle target := le_max_right _ _
    rw [spread] at outside
    linarith

section Sized

variable (wide : 0 < o.width) (high : 0 < o.height)

include wide high

/-- A circle is as far out as the ellipse of its frame on the rays where the two meet. -/
theorem spread_circle_eq_iff :
    o.spread .circle target = o.spread .ellipse target ↔ o.Meets target .circle := by
  have hw := half_width_pos wide
  have hh := half_height_pos high
  have hhalf : Arith.half o.height = Arith.half o.width ↔ o.width = o.height := by
    rw [Arith.half_eq, Arith.half_eq, div_left_inj' two_ne_zero, eq_comm]
  rw [spread_circle wide, spread, Arith.hypot_right_inj, abs_div, abs_inFrame_y high, abs_of_pos hw,
    div_eq_div_iff hw.ne' hh.ne', mul_eq_mul_left_iff, abs_eq_zero, sub_eq_zero, hhalf, Meets]

/-- The outline that lines are cut off at is as far out as the one that is drawn, on the rays where
the two meet. -/
theorem spread_eq_iff {f : Outline} (drawn : o.outline? = some f) :
    o.spread f target = o.spread o.cutOutline target ↔ o.Meets target f := by
  rcases outline?_cases drawn with ⟨rfl, hc⟩ | ⟨rfl, hc⟩ | ⟨rfl, hc⟩ | ⟨rfl, hc⟩
  · simp [cutOutline, hc, ObjectClass.isRound, Meets]
  · simp [cutOutline, hc, ObjectClass.isRound, Meets]
  · have hcut : o.cutOutline = .ellipse := by
      rcases hc with hc | hc <;> simp [cutOutline, hc, ObjectClass.isRound]
    rw [hcut]
    exact spread_circle_eq_iff wide high
  · have hw := (half_width_pos wide).ne'
    have hh := (half_height_pos high).ne'
    have hcut : o.cutOutline = .rectangle := by
      simp [cutOutline, hc, ObjectClass.isRound]
    rw [hcut, spread, spread, add_eq_max_iff (abs_nonneg _) (abs_nonneg _), Meets]
    simp [inFrame, hw, hh, sub_eq_zero]

/-- What can be told apart from the center is some way out. -/
theorem spread_ellipse_pos
    (aims : noDirection (target.x - o.center.x) (target.y - o.center.y) = false) :
    0 < o.spread .ellipse target := by
  refine (Arith.hypot_nonneg _ _).lt_of_ne fun hzero => ?_
  obtain ⟨hx, hy⟩ := Arith.hypot_eq_zero_iff.1 hzero.symm
  have hdx := (div_eq_zero_iff.1 hx).resolve_right (half_width_pos wide).ne'
  have hdy := (div_eq_zero_iff.1 hy).resolve_right (half_height_pos high).ne'
  rcases noDirection_eq_false_iff.1 aims with far | far
  · rw [hdx, abs_zero] at far
    exact rayTolerance_pos.not_ge far
  · rw [hdy, abs_zero] at far
    exact rayTolerance_pos.not_ge far

/-- What lies outside of the outline that is drawn can be told apart from the center. -/
theorem aims_of_outside {f : Outline} (outside : 1 < o.spread f target)
    (resolved : o.Resolves target) :
    noDirection (target.x - o.center.x) (target.y - o.center.y) = false := by
  have hx := abs_inFrame_x wide target
  have hy := abs_inFrame_y high target
  have frame : 1 < |(o.inFrame target).x| + |(o.inFrame target).y| →
      noDirection (target.x - o.center.x) (target.y - o.center.y) = false := fun far =>
    noDirection_of_outside wide high resolved.sideways resolved.upward (hx ▸ hy ▸ far)
  cases f with
  | rectangle => exact frame (outside.trans_le (max_le_add_of_nonneg (abs_nonneg _) (abs_nonneg _)))
  | ellipse => exact frame (outside.trans_le (Arith.hypot_le _ _))
  | circle =>
    rcases resolved.sideways with large | far
    · rw [spread_circle wide] at outside
      have hfar := outside.trans_le (Arith.hypot_le _ _)
      rw [hx, abs_div, abs_of_pos (half_width_pos wide)] at hfar
      exact noDirection_of_outside wide wide (.inl large) (.inl large) hfar
    · exact noDirection_eq_false_iff.2 (.inl far.le)
  | diamond => exact frame outside

end Sized

end Object

/-- A target outside of an object is cut off where the ray from the center to it crosses the frame
of the object or, if it is round, the ellipse inscribed in it. -/
theorem Draft.boundary_eq {r : Registry K} {id : Nat} (found : r.object id = .ok o) {f : Outline}
    (drawn : o.outline? = some f) (wide : 0 < o.width) (high : 0 < o.height)
    (outside : 1 < o.spread f target) (resolved : o.Resolves target)
    (near : o.cls.isRound = false → rayTolerance < 1 / o.spread .rectangle target) :
    0 < o.spread o.cutOutline target ∧ Draft.boundary r id target
      = .ok (o.center.toward target (1 / o.spread o.cutOutline target)) := by
  have aims := Object.aims_of_outside wide high outside resolved
  unfold Draft.boundary
  rw [found]
  show _ ∧ liftFault (outlinePoint _ _ _ _ _ _) = _
  cases round : o.cls.isRound with
  | true =>
    have hcut : o.cutOutline = .ellipse := by simp [Object.cutOutline, round]
    have hpos := Object.spread_ellipse_pos wide high aims
    rw [hcut]
    refine ⟨hpos, ?_⟩
    rw [outlinePoint, if_pos rfl, ellipseBoundary_eq wide high hpos aims]
    rfl
  | false =>
    have hcut : o.cutOutline = .rectangle := by simp [Object.cutOutline, round]
    have frame : o.box = Box.ofFrame o.center o.width o.height := by
      rw [Object.box, Object.isLine_of_outline? drawn, if_neg Bool.false_ne_true]
    have half := Object.half_lt_spread_rectangle drawn round outside
    rw [hcut]
    refine ⟨by linarith, ?_⟩
    rw [outlinePoint, if_neg Bool.false_ne_true, frame,
      rayBoxIntersection_frame wide high resolved half (near round) aims]
    rfl

/-- Where a line toward the center of an object is cut off, for every target outside of the outline
the object is drawn with: on the way to the target, at the frame of the object or the ellipse
inscribed in it.  That is a point of the drawn outline if the object is a box or an ellipse; if it
is a circle, whenever it is as high as wide or the target is level with its center; and if it is a
diamond, only for targets straight above, below or beside its center. -/
theorem Draft.boundary_cut {r : Registry K} {id : Nat} (found : r.object id = .ok o) {f : Outline}
    (drawn : o.outline? = some f) (wide : 0 < o.width) (high : 0 < o.height)
    (outside : 1 < o.spread f target) (resolved : o.Resolves target)
    (near : o.cls.isRound = false → rayTolerance < 1 / o.spread .rectangle target) :
    ∃ s, 0 < s ∧ Draft.boundary r id target = .ok (o.center.toward target s)
      ∧ o.spread o.cutOutline (o.center.toward target s) = 1
      ∧ (o.DrawnAt f (o.center.toward target s) ↔ o.Meets target f)
      ∧ (o.Meets target f → s < 1) := by
  obtain ⟨hpos, hcut⟩ := Draft.boundary_eq found drawn wide high outside resolved near
  have hs : 0 < 1 / o.spread o.cutOutline target := one_div_pos.2 hpos
  refine ⟨_, hs, hcut, ?_, ?_, ?_⟩
  · rw [Object.spread_toward _ _ hs.le, one_div_mul_cancel hpos.ne']
  · rw [Object.drawnAt_iff wide high drawn, Object.spread_toward _ _ hs.le,
      one_div_mul_eq_div, div_eq_one_iff_eq hpos.ne', Object.spread_eq_iff wide high drawn]
  · intro meets
    rw [div_lt_one hpos, ← (Object.spread_eq_iff wide high drawn).2 meets]
    exact outside

/-- A line to a box, two wide and one high, from the right and a little above. -/
theorem Draft.boundary_cut_box :
    let o : Object ℝ := { Object.placeholder 0 .box .right with width := 2, height := 1 }
    ∃ s, 0 < s ∧ Draft.boundary { arena := [o] } 0 ⟨3, 1⟩ = .ok (o.center.toward ⟨3, 1⟩ s)
      ∧ o.spread o.cutOutline (o.center.toward ⟨3, 1⟩ s) = 1
      ∧ (o.DrawnAt .rectangle (o.center.toward ⟨3, 1⟩ s) ↔ o.Meets ⟨3, 1⟩ .rectangle)
      ∧ (o.Meets ⟨3, 1⟩ .rectangle → s < 1) := by
  intro o
  have hframe : o.inFrame ⟨3, 1⟩ = ⟨3, 2⟩ := by
    simp only [o, Object.inFrame, Object.placeholder, Point.origin, Arith.half_eq, Arith.num_eq]
    norm_num
  have hspread : o.spread .rectangle ⟨3, 1⟩ = 3 := by
    rw [Object.spread, hframe]
    norm_num
  have drawn : o.outline? = some .rectangle := by
    simp [o, Object.outline?, Object.placeholder, Svg.cornerRadius, Arith.least_eq, Arith.half_eq,
      Arith.num_eq]
  have htolerance := four_rayTolerance_le (K := ℝ)
  have found : ({ arena := [o] } : Registry ℝ).object 0 = .ok o := rfl
  refine Draft.boundary_cut found drawn two_pos one_pos ?_ ?_ ?_
  · rw [hspread]
    norm_num
  · exact ⟨.inl (htolerance.trans one_le_two), .inl htolerance⟩
  · intro _
    rw [hspread]
    linarith

/-- A line to a diamond from the right and a little above: it ends at the frame, outside of the
diamond. -/
theorem Draft.boundary_diamond :
    let o : Object ℝ := { Object.placeholder 0 .diamond .right with width := 2, height := 2 }
    1 < o.spread .diamond ⟨3, 1⟩ ∧ Draft.boundary { arena := [o] } 0 ⟨3, 1⟩ = .ok ⟨1, 1 / 3⟩
      ∧ ¬ o.DrawnAt .diamond ⟨1, 1 / 3⟩ := by
  intro o
  have hframe : ∀ p : Point ℝ, o.inFrame p = p := by
    intro p
    simp only [o, Object.inFrame, Object.placeholder, Point.origin, Arith.half_eq, Arith.num_eq]
    norm_num
  have htolerance := four_rayTolerance_le (K := ℝ)
  have houtside : 1 < o.spread .diamond ⟨3, 1⟩ := by
    rw [Object.spread, hframe]
    norm_num
  have hspread : o.spread .rectangle ⟨3, 1⟩ = 3 := by
    rw [Object.spread, hframe]
    norm_num
  have found : ({ arena := [o] } : Registry ℝ).object 0 = .ok o := rfl
  have resolved : o.Resolves ⟨3, 1⟩ :=
    ⟨.inl (htolerance.trans one_le_two), .inl (htolerance.trans one_le_two)⟩
  have hcut := (Draft.boundary_eq found (f := .diamond) rfl two_pos two_pos houtside resolved
    fun _ => by rw [hspread]; linarith).2
  refine ⟨houtside, ?_, ?_⟩
  · rw [hcut, show o.cutOutline = .rectangle from rfl, hspread]
    simp only [o, Object.placeholder, Point.origin, Point.toward, Arith.num_eq]
    norm_num
  · rw [Object.drawnAt_iff two_pos two_pos rfl, Object.spread, hframe]
    norm_num

end DiagramScript
