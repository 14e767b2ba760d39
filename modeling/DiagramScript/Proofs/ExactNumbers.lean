import Mathlib.Algebra.Field.Rat
import Mathlib.Algebra.Order.Field.Basic
import Mathlib.Algebra.Order.Ring.Rat
import Mathlib.Tactic.Linarith
import Mathlib.Tactic.NormNum
import Mathlib.Tactic.Ring
import DiagramScript.Object.Basic

/-!
# Exact numbers

Drawings can be made with any numbers that have the operations of `Arith`.  Where the four
operations are those of an ordered field, nothing is rounded and no number is undefined, so that
what a drawing looks like can be calculated.

* `ExactNumber` — an ordered field with the other functions that a drawing needs.  Nothing is asked
  of these: the square root of two, say, is just some number.
* `Arith.half_eq` and its like — what the operations of a drawing are in an ordered field.
* `Object.stamp_eq` — exact numbers need no marks.
* The rational numbers are exact; roots, sines and cosines are rational approximations.
-/

namespace DiagramScript

/-- Numbers that are added, multiplied, divided and compared without any error. -/
class ExactNumber (K : Type) extends Field K, LinearOrder K, IsStrictOrderedRing K where
  /-- The square root of a number. -/
  squareRoot : K → K
  /-- The length of the vector with the two given components. -/
  norm : K → K → K
  /-- The sine of an angle in degrees. -/
  sine : K → K
  /-- The cosine of an angle in degrees. -/
  cosine : K → K
  /-- The integer nearest to a number times a power of ten. -/
  roundAt : Nat → K → Int
  /-- The integer part. -/
  integerPart : K → Int
  /-- A numeral with at most six significant digits. -/
  general : K → List Char

variable {K : Type} [ExactNumber K]

/-- Drawings can be made with exact numbers.  None of them is infinite or undefined. -/
instance (priority := low) exactArith : Arith K where
  toAdd := inferInstance
  toSub := inferInstance
  toMul := inferInstance
  toDiv := inferInstance
  toNeg := inferInstance
  toLT := inferInstance
  toLE := inferInstance
  beq a b := decide (a = b)
  decideLT a b := inferInstanceAs (Decidable (a < b))
  decideLE a b := inferInstanceAs (Decidable (a ≤ b))
  ofInt i := i
  ofDecimal x := (x.toQuotient.1 : K) / (x.toQuotient.2 : K)
  abs x := |x|
  isFinite _ := true
  sqrt := ExactNumber.squareRoot
  hypot := ExactNumber.norm
  sinDegrees := ExactNumber.sine
  cosDegrees := ExactNumber.cosine
  roundAt := ExactNumber.roundAt
  integerPart := ExactNumber.integerPart
  general := ExactNumber.general

/-! ## Arithmetic -/

namespace Arith

theorem ofInt_eq (i : Int) : (ofInt i : K) = i := rfl

theorem num_eq (n : Nat) : (num n : K) = n := Int.cast_natCast n

theorem half_eq (x : K) : half x = x / 2 := by
  rw [half, num_eq, Nat.cast_ofNat]

theorem least_eq (a b : K) : least a b = min a b := by
  unfold least
  split_ifs with h
  · exact (min_eq_right h.le).symm
  · exact (min_eq_left (not_lt.1 h)).symm

theorem greatest_eq (a b : K) : greatest a b = max a b := by
  unfold greatest
  split_ifs with h
  · exact (max_eq_right h.le).symm
  · exact (max_eq_left (not_lt.1 h)).symm

theorem isZero_iff {x : K} : isZero x = true ↔ x = 0 := by
  show decide (x = num 0) = true ↔ x = 0
  rw [decide_eq_true_iff, num_eq, Nat.cast_zero]

/-- Exact numbers need no marks. -/
theorem stamp_eq (m : Mark) (x : K) : stamp m x = x := rfl

end Arith

/-! ## Points and objects -/

theorem Point.stamp_eq (m : Mark) (p : Point K) : p.stamp m = p :=
  p.stamp_of_unmarked Arith.stamp_eq m

theorem Object.stamp_eq (serial : Nat) (o : Object K) : o.stamp serial = o :=
  o.stamp_of_unmarked Arith.stamp_eq serial

/-! ## Rational numbers -/

/-- The square root of a rational number that is not negative, to twelve decimal places. -/
def rationalRoot (x : ℚ) : ℚ :=
  (Nat.sqrt (x.num.toNat * tenPow 24 / x.den) : ℚ) / (tenPow 12 : ℚ)

/-- A rational approximation of the sine of an angle in degrees, which is right at every multiple
of a right angle. -/
def rationalSine (x : ℚ) : ℚ :=
  let y := x - 360 * (x / 360).floor
  let arch (z : ℚ) : ℚ := 4 * z * (180 - z) / (40500 - z * (180 - z))
  if y ≤ 180 then arch y else -arch (y - 180)

/-- Rational numbers are exact. -/
instance : ExactNumber ℚ where
  squareRoot := rationalRoot
  norm a b := rationalRoot (a * a + b * b)
  sine := rationalSine
  cosine x := rationalSine (x + 90)
  roundAt places x := x.num.sign * roundDiv (x.num.natAbs * tenPow places) x.den
  integerPart x := x.num.tdiv x.den
  general x := (if x < 0 then ['-'] else []) ++ DiagramScript.general 6 x.num.natAbs x.den

/-- The sine of thirty degrees is one half, and the cosine of zero is one. -/
example : Arith.sinDegrees (30 : ℚ) = 1 / 2 ∧ Arith.cosDegrees (0 : ℚ) = 1 := by
  decide +kernel

end DiagramScript
