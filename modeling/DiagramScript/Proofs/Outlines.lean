import Mathlib
import DiagramScript.Proofs.EuclideanNumbers
import DiagramScript.Svg.Shape

/-!
# What objects look like

Boxes, circles, ellipses, dots and diamonds are drawn with one outline around their center.

* `OnPolygon` — the points on the sides of a polygon.
* `Outline`, `Object.outline?` — the outlines, and which of them an object is drawn with.
* `Object.DrawnAt` — the points on an outline of an object, as it is drawn.
* `Object.spread` — how far an outline has to be stretched to reach a point: `drawnAt_iff` says that
  the points on it are those it need not be stretched to, and `spread_toward` that it is
  proportional to the way from the center.
-/

namespace DiagramScript

/-! ## Polygons -/

section Polygons

variable {K : Type} [ExactNumber K]

/-- Whether a point lies between two others. -/
def Between (a b p : Point K) : Prop := ∃ s, 0 ≤ s ∧ s ≤ 1 ∧ p = a.toward b s

/-- The sides of a polygon, the last of which leads back to the first corner. -/
def polygonSides {α : Type} : List α → List (α × α)
  | [] => []
  | p :: ps => (p :: ps).zip (ps ++ [p])

/-- Whether a point lies on a side of a polygon. -/
def OnPolygon (corners : List (Point K)) (p : Point K) : Prop :=
  ∃ side ∈ polygonSides corners, Between side.1 side.2 p

theorem polygonSides_map {α β : Type} (f : α → β) (corners : List α) :
    polygonSides (corners.map f) = (polygonSides corners).map (Prod.map f f) := by
  cases corners with
  | nil => rfl
  | cons p ps =>
    simp only [polygonSides, List.map_cons]
    rw [← List.map_cons, ← List.map_singleton, ← List.map_append, List.zip_map]

/-- The square whose sides are at distance one from its center. -/
theorem onPolygon_square (u : Point K) :
    OnPolygon [⟨-1, 1⟩, ⟨1, 1⟩, ⟨1, -1⟩, ⟨-1, -1⟩] u ↔ max |u.x| |u.y| = 1 := by
  obtain ⟨x, y⟩ := u
  simp only [OnPolygon, polygonSides, Between, List.cons_append, List.nil_append,
    List.zip_cons_cons, List.zip_nil_right, List.mem_cons, List.not_mem_nil, or_false,
    exists_eq_or_imp, exists_eq_left, Point.toward, Point.mk.injEq]
  constructor
  · -- On each side one coordinate is constant and the other runs from end to end.
    rintro (⟨s, h0, h1, rfl, rfl⟩ | ⟨s, h0, h1, rfl, rfl⟩ | ⟨s, h0, h1, rfl, rfl⟩
      | ⟨s, h0, h1, rfl, rfl⟩)
    · rw [show (1 : K) + (1 - 1) * s = 1 by ring, abs_one]
      exact max_eq_right (abs_le.2 ⟨by linarith, by linarith⟩)
    · rw [show (1 : K) + (1 - 1) * s = 1 by ring, abs_one]
      exact max_eq_left (abs_le.2 ⟨by linarith, by linarith⟩)
    · rw [show (-1 : K) + (-1 - -1) * s = -1 by ring, abs_neg, abs_one]
      exact max_eq_right (abs_le.2 ⟨by linarith, by linarith⟩)
    · rw [show (-1 : K) + (-1 - -1) * s = -1 by ring, abs_neg, abs_one]
      exact max_eq_left (abs_le.2 ⟨by linarith, by linarith⟩)
  · intro h
    have hx := abs_le.1 (h ▸ le_max_left |x| |y|)
    have hy := abs_le.1 (h ▸ le_max_right |x| |y|)
    rcases max_choice |x| |y| with hm | hm
    · rcases eq_or_eq_neg_of_abs_eq (hm.symm.trans h) with rfl | rfl
      · exact .inr (.inl ⟨(1 - y) / 2, by linarith, by linarith, by ring, by ring⟩)
      · exact .inr (.inr (.inr ⟨(1 + y) / 2, by linarith, by linarith, by ring, by ring⟩))
    · rcases eq_or_eq_neg_of_abs_eq (hm.symm.trans h) with rfl | rfl
      · exact .inl ⟨(1 + x) / 2, by linarith, by linarith, by ring, by ring⟩
      · exact .inr (.inr (.inl ⟨(1 - x) / 2, by linarith, by linarith, by ring, by ring⟩))

/-- The square whose corners are at distance one from its center. -/
theorem onPolygon_diamond (u : Point K) :
    OnPolygon [⟨0, 1⟩, ⟨1, 0⟩, ⟨0, -1⟩, ⟨-1, 0⟩] u ↔ |u.x| + |u.y| = 1 := by
  obtain ⟨x, y⟩ := u
  simp only [OnPolygon, polygonSides, Between, List.cons_append, List.nil_append,
    List.zip_cons_cons, List.zip_nil_right, List.mem_cons, List.not_mem_nil, or_false,
    exists_eq_or_imp, exists_eq_left, Point.toward, Point.mk.injEq]
  constructor
  · -- Each side lies in one quadrant.
    rintro (⟨s, h0, h1, rfl, rfl⟩ | ⟨s, h0, h1, rfl, rfl⟩ | ⟨s, h0, h1, rfl, rfl⟩
      | ⟨s, h0, h1, rfl, rfl⟩)
    · rw [abs_of_nonneg (by linarith), abs_of_nonneg (by linarith)]
      ring
    · rw [abs_of_nonneg (by linarith), abs_of_nonpos (by linarith)]
      ring
    · rw [abs_of_nonpos (by linarith), abs_of_nonpos (by linarith)]
      ring
    · rw [abs_of_nonpos (by linarith), abs_of_nonneg (by linarith)]
      ring
  · intro h
    rcases le_total 0 x with hx | hx <;> rcases le_total 0 y with hy | hy
    · rw [abs_of_nonneg hx, abs_of_nonneg hy] at h
      exact .inl ⟨x, hx, by linarith, by ring, by linarith⟩
    · rw [abs_of_nonneg hx, abs_of_nonpos hy] at h
      exact .inr (.inl ⟨-y, by linarith, by linarith, by linarith, by ring⟩)
    · rw [abs_of_nonpos hx, abs_of_nonneg hy] at h
      exact .inr (.inr (.inr ⟨y, hy, by linarith, by linarith, by ring⟩))
    · rw [abs_of_nonpos hx, abs_of_nonpos hy] at h
      exact .inr (.inr (.inl ⟨-x, by linarith, by linarith, by ring, by linarith⟩))

end Polygons

/-! ## Outlines -/

/-- An outline around the center of an object. -/
inductive Outline where
  /-- The rectangle of its frame. -/
  | rectangle
  /-- The ellipse inscribed in its frame. -/
  | ellipse
  /-- The circle as wide as its frame. -/
  | circle
  /-- The polygon through the middles of the sides of its frame. -/
  | diamond
  deriving DecidableEq, Repr

namespace Object

section Exact

variable {K : Type} [ExactNumber K]

/-- The outline an object is drawn with, if it is one of these. -/
def outline? (o : Object K) : Option Outline :=
  match o.cls with
  | .box => if Svg.cornerRadius o ≤ Arith.num 0 then some .rectangle else none
  | .circle => some .circle
  | .dot => some .circle
  | .ellipse => some .ellipse
  | .diamond => some .diamond
  | _ => none

/-- Where a point lies, seen from the center and measured in halves of the frame. -/
def inFrame (o : Object K) (p : Point K) : Point K :=
  ⟨(p.x - o.center.x) / Arith.half o.width, (p.y - o.center.y) / Arith.half o.height⟩

/-- Whether a point lies on an outline of an object, as it is drawn. -/
def DrawnAt (o : Object K) : Outline → Point K → Prop
  | .rectangle, p => OnPolygon ([Compass.nw, .ne, .se, .sw].map fun corner =>
      rectAnchor o.center o.width o.height (.compass corner)) p
  | .ellipse, p => (o.inFrame p).x * (o.inFrame p).x + (o.inFrame p).y * (o.inFrame p).y = 1
  | .circle, p => o.center.distance p = Arith.half o.width
  | .diamond, p => OnPolygon (Svg.diamondCorners o) p

/-- The factor by which an outline of an object has to be stretched to reach a point. -/
def spread (o : Object K) : Outline → Point K → K
  | .rectangle, p => max |(o.inFrame p).x| |(o.inFrame p).y|
  | .ellipse, p => Arith.hypot (o.inFrame p).x (o.inFrame p).y
  | .circle, p => o.center.distance p / Arith.half o.width
  | .diamond, p => |(o.inFrame p).x| + |(o.inFrame p).y|

variable {o : Object K}

/-- Seen from the center, the way to a point shrinks in proportion. -/
theorem inFrame_toward (p : Point K) (s : K) :
    o.inFrame (o.center.toward p s) = ⟨s * (o.inFrame p).x, s * (o.inFrame p).y⟩ := by
  simp only [inFrame, Point.toward, Point.mk.injEq]
  constructor <;> ring

section Sized

variable (wide : 0 < o.width) (high : 0 < o.height)

include wide in
theorem half_width_pos : 0 < Arith.half o.width := by
  rw [Arith.half_eq]
  exact half_pos wide

include high in
theorem half_height_pos : 0 < Arith.half o.height := by
  rw [Arith.half_eq]
  exact half_pos high

include wide high

/-- What lies between two points does so seen from the center. -/
theorem between_inFrame {a b p : Point K} :
    Between (o.inFrame a) (o.inFrame b) (o.inFrame p) ↔ Between a b p := by
  have hw := (half_width_pos wide).ne'
  have hh := (half_height_pos high).ne'
  refine exists_congr fun s => and_congr_right fun _ => and_congr_right fun _ => ?_
  simp only [inFrame, Point.toward, Point.ext_iff]
  refine and_congr ?_ ?_
  · rw [← mul_left_inj' hw]
    field_simp
    constructor <;> intro h <;> linarith
  · rw [← mul_left_inj' hh]
    field_simp
    constructor <;> intro h <;> linarith

theorem onPolygon_inFrame {corners : List (Point K)} {p : Point K} :
    OnPolygon (corners.map o.inFrame) (o.inFrame p) ↔ OnPolygon corners p := by
  unfold OnPolygon
  rw [polygonSides_map]
  constructor
  · rintro ⟨side, hmem, hbetween⟩
    obtain ⟨side, hside, rfl⟩ := List.mem_map.1 hmem
    exact ⟨side, hside, (between_inFrame wide high).1 hbetween⟩
  · rintro ⟨side, hside, hbetween⟩
    exact ⟨_, List.mem_map_of_mem hside, (between_inFrame wide high).2 hbetween⟩

/-- Seen from the center, the corners and sides of a frame are at distance one. -/
theorem inFrame_rectAnchor (c : Compass) :
    o.inFrame (rectAnchor o.center o.width o.height (.compass c))
      = ⟨(c.signs.1 : K), (c.signs.2 : K)⟩ := by
  have hw := wide.ne'
  have hh := high.ne'
  simp only [inFrame, rectAnchor, Spot.signs, Arith.half_eq, Arith.ofInt_eq, Point.mk.injEq]
  constructor <;> (field_simp; ring)

/-- The rectangle as it is drawn. -/
theorem drawnAt_rectangle {p : Point K} :
    o.DrawnAt .rectangle p ↔ o.spread .rectangle p = 1 := by
  have corners : ([Compass.nw, .ne, .se, .sw].map fun corner =>
      rectAnchor o.center o.width o.height (.compass corner)).map o.inFrame
      = [⟨-1, 1⟩, ⟨1, 1⟩, ⟨1, -1⟩, ⟨-1, -1⟩] := by
    simp only [List.map_cons, List.map_nil, inFrame_rectAnchor wide high, Compass.signs]
    norm_num
  rw [DrawnAt, spread, ← onPolygon_inFrame wide high, corners, onPolygon_square]

/-- The diamond as it is drawn. -/
theorem drawnAt_diamond (h : o.cls = .diamond) {p : Point K} :
    o.DrawnAt .diamond p ↔ o.spread .diamond p = 1 := by
  have sides : ∀ c : Compass, c.isCorner = false →
      o.anchorPoint (.compass c) = rectAnchor o.center o.width o.height (.compass c) := by
    intro c hc
    show o.spotPoint (.compass c) = _
    unfold spotPoint
    rw [h, if_neg (by decide), if_pos rfl]
    simp [diamondAnchor, Spot.isCorner, hc]
  have corners : (Svg.diamondCorners o).map o.inFrame
      = [⟨0, 1⟩, ⟨1, 0⟩, ⟨0, -1⟩, ⟨-1, 0⟩] := by
    simp only [Svg.diamondCorners, List.map_cons, List.map_nil, sides .n rfl, sides .e rfl,
      sides .s rfl, sides .w rfl, inFrame_rectAnchor wide high, Compass.signs]
    norm_num
  rw [DrawnAt, spread, ← onPolygon_inFrame wide high, corners, onPolygon_diamond]

end Sized

end Exact

variable {K : Type} [EuclideanNumber K] {o : Object K}

/-- The points on an outline are those it need not be stretched to. -/
theorem drawnAt_iff (wide : 0 < o.width) (high : 0 < o.height) {f : Outline}
    (h : o.outline? = some f) {p : Point K} : o.DrawnAt f p ↔ o.spread f p = 1 := by
  cases f with
  | rectangle => exact drawnAt_rectangle wide high
  | ellipse =>
    have hpos := Arith.hypot_nonneg (o.inFrame p).x (o.inFrame p).y
    rw [DrawnAt, spread, ← Arith.hypot_mul_self]
    constructor
    · intro hone
      exact (mul_self_inj hpos zero_le_one).1 (hone.trans (mul_one 1).symm)
    · intro hone
      rw [hone, mul_one]
  | circle => rw [DrawnAt, spread, div_eq_one_iff_eq (half_width_pos wide).ne']
  | diamond =>
    refine drawnAt_diamond wide high ?_
    unfold outline? at h
    split at h
    · split at h <;> cases h
    · cases h
    · cases h
    · cases h
    · assumption
    · cases h

/-- On the way from the center to a point an outline is reached in proportion. -/
theorem spread_toward (f : Outline) (p : Point K) {s : K} (h : 0 ≤ s) :
    o.spread f (o.center.toward p s) = s * o.spread f p := by
  cases f with
  | rectangle =>
    simp only [spread, inFrame_toward, abs_mul, abs_of_nonneg h]
    exact (mul_max_of_nonneg _ _ h).symm
  | ellipse =>
    simp only [spread, inFrame_toward]
    rw [Arith.hypot_scale, abs_of_nonneg h]
  | circle =>
    have hscale : o.center.distance (o.center.toward p s) = s * o.center.distance p := by
      unfold Point.distance Point.toward
      rw [← abs_of_nonneg h, ← Arith.hypot_scale, abs_of_nonneg h]
      congr 1 <;> ring
    rw [spread, spread, hscale, mul_div_assoc]
  | diamond =>
    simp only [spread, inFrame_toward, abs_mul, abs_of_nonneg h]
    ring

end Object

end DiagramScript
