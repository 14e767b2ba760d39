import DiagramScript.Number.Rounding
import DiagramScript.Number.Decimal

/-!
# Arithmetic as a parameter

Everything that is laid out is laid out with the operations of `Arith`, so that one
set of definitions serves both the machine's numbers and exact ones.  A type of
numbers supplies the four operations, comparison, the few functions of geometry, the
two ways of turning a number into an integer, and a way to know copies of an undefined
number again.

* `Arith` — the operations a drawing needs, and `Mark`, which copies of an undefined
  number have in common.
* `Fault` — what can go wrong with numbers that is no mistake of a script: an infinity
  turned into an integer, a square that overflows, a division by zero, an endless numeral.
* `Arith.close` — equality up to a relative and an absolute tolerance, with
  `close_self` for numbers that equal themselves.
* `Arith.compact` — the short numeral of a number: an integer when it is within a
  tolerance of one, and otherwise a fraction without trailing zeros.
-/

namespace DiagramScript

/-! ## Faults -/

/-- How many digits the numeral of a whole number may have, leading zeros counted. -/
def maxDigits : Nat := 4300

/-- A failure of arithmetic. -/
inductive Fault where
  /-- An infinity has no nearest integer. -/
  | infinityToInteger
  /-- Neither has a number that is not one. -/
  | nanToInteger
  /-- The square of a finite number is too large. -/
  | squareOverflow
  /-- A number is divided by zero. -/
  | divisionByZero
  /-- The sine of an infinity. -/
  | domain
  /-- A whole number is written with more than `maxDigits` digits. -/
  | tooManyDigits (count : Nat)
  deriving DecidableEq, Repr

/-- The sentence that reports a fault. -/
def Fault.message : Fault → String
  | .infinityToInteger => "cannot convert float infinity to integer"
  | .nanToInteger => "cannot convert float NaN to integer"
  | .squareOverflow => "(34, 'Numerical result out of range')"
  | .divisionByZero => "float division by zero"
  | .domain => "math domain error"
  | .tooManyDigits n =>
    "Exceeds the limit (" ++ toString maxDigits
      ++ " digits) for integer string conversion: value has " ++ toString n
      ++ " digits; use sys.set_int_max_str_digits() to increase the limit"

/-! ## The operations -/

/-- When and where a number was written down. -/
structure Mark where
  /-- Which change of a drawing it was written down in. -/
  serial : Nat
  /-- Which object it was written down for, if it was one. -/
  object : Option Nat
  /-- Which of the points of the object it belongs to. -/
  slot : Nat
  deriving DecidableEq, Repr

/-- A type of numbers to draw with.  No laws are asked for: machine numbers have few. -/
class Arith (K : Type) extends Add K, Sub K, Mul K, Div K, Neg K, BEq K, LT K, LE K where
  /-- Numbers can be compared. -/
  decideLT : ∀ a b : K, Decidable (a < b)
  /-- Numbers can be compared. -/
  decideLE : ∀ a b : K, Decidable (a ≤ b)
  /-- The number nearest to an integer. -/
  ofInt : Int → K
  /-- The number nearest to a decimal. -/
  ofDecimal : Decimal → K
  /-- The distance from zero. -/
  abs : K → K
  /-- Whether the number is neither an infinity nor undefined. -/
  isFinite : K → Bool
  /-- The square root of a number that is not negative. -/
  sqrt : K → K
  /-- The length of the vector with the two given components. -/
  hypot : K → K → K
  /-- The sine of an angle in degrees. -/
  sinDegrees : K → K
  /-- The cosine of an angle in degrees. -/
  cosDegrees : K → K
  /-- The integer nearest to a finite number times `10 ^ places`, a tie going to the even one. -/
  roundAt : Nat → K → Int
  /-- The integer part of a finite number. -/
  integerPart : K → Int
  /-- A numeral with at most six significant digits. -/
  general : K → List Char
  /-- The number, with a mark by which its copies are known again if it is undefined and has none
  so far. -/
  stamp : Mark → K → K := fun _ x => x
  /-- Whether two numbers are equal, or copies of one undefined number. -/
  alike : K → K → Bool := fun a b => a == b

namespace Arith

variable {K : Type} [Arith K]

instance (a b : K) : Decidable (a < b) := decideLT a b

instance (a b : K) : Decidable (a ≤ b) := decideLE a b

/-- A whole number. -/
def num (n : Nat) : K := ofInt n

/-- The decimal fraction `mantissa / 10 ^ places`. -/
def dec (mantissa places : Nat) : K := ofDecimal ⟨mantissa, -(places : Int)⟩

/-- Half of a number. -/
def half (x : K) : K := x / num 2

/-- Twice a number. -/
def twice (x : K) : K := num 2 * x

/-- The smaller of two numbers; the first when neither is. -/
def least (a b : K) : K := if b < a then b else a

/-- The larger of two numbers; the first when neither is. -/
def greatest (a b : K) : K := if a < b then b else a

/-- Whether a number is zero, of either sign. -/
def isZero (x : K) : Bool := x == num 0

/-- Whether a number differs from itself. -/
def isNaN (x : K) : Bool := !(x == x)

/-- The reciprocal of the square root of two. -/
def invSqrtTwo : K := num 1 / sqrt (num 2)

/-! ## Operations that can fail -/

/-- Refuses numbers that no integer is near to. -/
def finite (x : K) : Except Fault K :=
  if isFinite x then .ok x
  else if isNaN x then .error .nanToInteger
  else .error .infinityToInteger

/-- The nearest integer, a tie going to the even one. -/
def nearest (x : K) : Except Fault Int := (finite x).map (roundAt 0)

/-- The integer part. -/
def truncate (x : K) : Except Fault Int := (finite x).map integerPart

/-- The square, unless it overflows. -/
def square (x : K) : Except Fault K :=
  let y := x * x
  if isFinite x && !isFinite y then .error .squareOverflow else .ok y

/-- One divided by a number. -/
def reciprocal (x : K) : Except Fault K :=
  if isZero x then .error .divisionByZero else .ok (num 1 / x)

/-! ## Equality within a tolerance -/

/-- Equality up to a relative tolerance of either operand and an absolute tolerance. -/
def close (relative absolute a b : K) : Bool :=
  if a == b then true
  else if isFinite a && isFinite b then
    let gap := abs (b - a)
    decide (gap ≤ abs (relative * b)) || decide (gap ≤ abs (relative * a))
      || decide (gap ≤ absolute)
  else false

/-- The relative tolerance used throughout, one part in a thousand million. -/
def billionth : K := dec 1 9

/-- A number that equals itself is close to itself. -/
theorem close_self {x : K} (h : (x == x) = true) (r t : K) : close r t x x = true := by
  simp [close, h]

/-! ## Short numerals -/

/-- Fixed-point text of a finite number with exactly `places` digits after the point. -/
def fixed (places : Nat) (x : K) : List Char :=
  (if x < num 0 then ['-'] else []) ++ fixedPoint places (roundAt places x).natAbs

/-- The numeral of a number: of the nearest integer when the number is close to it, and
otherwise with at most `places` digits after the point and no trailing zeros. -/
def compact (places : Nat) (tolerance x : K) : Except Fault (List Char) := do
  let n ← nearest x
  if close billionth tolerance x (ofInt n) then .ok (integerDigits n)
  else .ok (trimFraction (fixed places x))

end Arith

end DiagramScript
