import Mathlib
import DiagramScript.Proofs.ExactNumbers

/-!
# Exact numbers with square roots

`ExactNumber` asks nothing of the square root.  Where a drawing measures how far apart two points
are, it matters that the root is a root.

* `EuclideanNumber` — exact numbers in which every number that is not negative is a square, and
  lengths are those of the plane.
* `Arith.dec_eq`, `Arith.twice_eq` and their like — further operations of a drawing, in terms of
  the field.
* `Arith.hypot_mul_self`, `Arith.hypot_eq_zero_iff`, `Arith.hypot_scale` — the length of a vector.
* The real numbers are exact, and have square roots.
-/

namespace DiagramScript

/-! ## Operations of exact numbers -/

section Exact

variable {K : Type} [ExactNumber K]

namespace Arith

theorem twice_eq (x : K) : twice x = 2 * x := by
  rw [twice, num_eq, Nat.cast_ofNat]

theorem abs_eq (x : K) : abs x = |x| := rfl

theorem isFinite_eq (x : K) : isFinite x = true := rfl

/-- A decimal fraction is a fraction. -/
theorem dec_eq (mantissa places : Nat) : (dec mantissa places : K) = mantissa / 10 ^ places := by
  show ((Decimal.toQuotient ⟨mantissa, -(places : Int)⟩).1 : K)
    / ((Decimal.toQuotient ⟨mantissa, -(places : Int)⟩).2 : K) = _
  rcases places.eq_zero_or_pos with rfl | h
  · simp [Decimal.toQuotient, timesPowerOfTen]
  · simp [Decimal.toQuotient, timesPowerOfTen, tenPow, h.ne.symm]

/-- No square of an exact number overflows. -/
theorem square_eq (x : K) : square x = .ok (x * x) := by
  simp [square, isFinite_eq]

/-- Every exact number but zero has a reciprocal. -/
theorem reciprocal_eq {x : K} (h : x ≠ 0) : reciprocal x = .ok (1 / x) := by
  have hz : isZero x = false := Bool.eq_false_iff.2 fun hz => h (isZero_iff.1 hz)
  rw [reciprocal, hz, num_eq, Nat.cast_one]
  rfl

end Arith

end Exact

/-! ## Lengths -/

/-- Exact numbers with square roots and with the lengths of the plane. -/
class EuclideanNumber (K : Type) extends ExactNumber K where
  /-- Roots are not negative. -/
  squareRoot_nonneg : ∀ x : K, 0 ≤ x → 0 ≤ squareRoot x
  /-- Roots are roots. -/
  squareRoot_mul_self : ∀ x : K, 0 ≤ x → squareRoot x * squareRoot x = x
  /-- The length of a vector is the root of the sum of the squares of its components. -/
  norm_eq : ∀ x y : K, norm x y = squareRoot (x * x + y * y)

variable {K : Type} [EuclideanNumber K]

namespace Arith

theorem sqrt_nonneg {x : K} (h : 0 ≤ x) : 0 ≤ sqrt x := EuclideanNumber.squareRoot_nonneg x h

theorem sqrt_mul_self {x : K} (h : 0 ≤ x) : sqrt x * sqrt x = x :=
  EuclideanNumber.squareRoot_mul_self x h

/-- A number that is not negative is the root of its square. -/
theorem sqrt_eq {x y : K} (hy : 0 ≤ y) (h : y * y = x) : sqrt x = y := by
  have hx : 0 ≤ x := h ▸ mul_self_nonneg y
  exact (mul_self_inj (sqrt_nonneg hx) hy).1 ((sqrt_mul_self hx).trans h.symm)

theorem hypot_eq (x y : K) : hypot x y = sqrt (x * x + y * y) := EuclideanNumber.norm_eq x y

theorem hypot_nonneg (x y : K) : 0 ≤ hypot x y := by
  rw [hypot_eq]
  exact sqrt_nonneg (add_nonneg (mul_self_nonneg x) (mul_self_nonneg y))

theorem hypot_mul_self (x y : K) : hypot x y * hypot x y = x * x + y * y := by
  rw [hypot_eq]
  exact sqrt_mul_self (add_nonneg (mul_self_nonneg x) (mul_self_nonneg y))

/-- Only the vector without any extent has length zero. -/
theorem hypot_eq_zero_iff {x y : K} : hypot x y = 0 ↔ x = 0 ∧ y = 0 := by
  rw [← mul_self_eq_zero, hypot_mul_self]
  exact mul_self_add_mul_self_eq_zero

/-- A vector whose components have the squares of others has their length. -/
theorem hypot_congr {x y a b : K} (h : x * x + y * y = a * a + b * b) :
    hypot x y = hypot a b := by
  rw [hypot_eq, hypot_eq, h]

/-- The length of a vector that is stretched by a factor. -/
theorem hypot_scale (k x y : K) : hypot (k * x) (k * y) = |k| * hypot x y := by
  refine (hypot_eq _ _).trans (sqrt_eq (mul_nonneg (abs_nonneg k) (hypot_nonneg x y)) ?_)
  calc |k| * hypot x y * (|k| * hypot x y) = |k| * |k| * (hypot x y * hypot x y) := by ring
    _ = k * k * (x * x + y * y) := by rw [abs_mul_abs_self, hypot_mul_self]
    _ = k * x * (k * x) + k * y * (k * y) := by ring

/-- Vectors that agree in one component have the same length if the others are equally far from
zero. -/
theorem hypot_right_inj {x y z : K} : hypot x y = hypot x z ↔ |y| = |z| := by
  rw [← mul_self_inj (hypot_nonneg x y) (hypot_nonneg x z), hypot_mul_self, hypot_mul_self,
    add_right_inj, ← abs_mul_abs_self y, ← abs_mul_abs_self z,
    mul_self_inj (abs_nonneg y) (abs_nonneg z)]

/-- The length of a vector is at most the sum of its extents. -/
theorem hypot_le (x y : K) : hypot x y ≤ |x| + |y| := by
  refine abs_le_of_sq_le_sq' ?_ (add_nonneg (abs_nonneg x) (abs_nonneg y)) |>.2
  have hx := abs_mul_abs_self x
  have hy := abs_mul_abs_self y
  have hxy := mul_nonneg (abs_nonneg x) (abs_nonneg y)
  have hself := hypot_mul_self x y
  nlinarith

/-- A vector whose components have one as the sum of their squares has length one. -/
theorem hypot_eq_one {x y : K} (h : x * x + y * y = 1) : hypot x y = 1 :=
  (hypot_eq x y).trans (sqrt_eq zero_le_one ((mul_one 1).trans h.symm))

end Arith

/-! ## Real numbers -/

/-- The integer nearest to a real number, a tie going to the even one. -/
noncomputable def nearestToReal (x : ℝ) : Int :=
  let n := ⌊x⌋
  if x - n < 1 / 2 then n
  else if 1 / 2 < x - n then n + 1
  else if Even n then n else n + 1

/-- A numeral with at most six significant digits of a real number that is not negative. -/
noncomputable def generalOfReal (x : ℝ) : List Char :=
  let e := 5 - Int.log 10 x
  let q := timesPowerOfTen (nearestToReal (x * 10 ^ e)).toNat 1 (-e)
  DiagramScript.general 6 q.1 q.2

/-- Real numbers are exact. -/
noncomputable instance : EuclideanNumber ℝ where
  squareRoot := Real.sqrt
  norm x y := Real.sqrt (x * x + y * y)
  sine x := Real.sin (x * Real.pi / 180)
  cosine x := Real.cos (x * Real.pi / 180)
  roundAt places x := nearestToReal (x * 10 ^ places)
  integerPart x := if x < 0 then ⌈x⌉ else ⌊x⌋
  general x := if x < 0 then '-' :: generalOfReal (-x) else generalOfReal x
  squareRoot_nonneg x _ := Real.sqrt_nonneg x
  squareRoot_mul_self _ h := Real.mul_self_sqrt h
  norm_eq _ _ := rfl

end DiagramScript
