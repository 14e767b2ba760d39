import DiagramScript.Number.Binary64

/-!
# Numbers that are known again

An undefined number equals no number, itself included, so a comparison cannot tell that
a path is back where it started if a coordinate of that place is undefined.  A mark can:
it goes wherever the number is copied to, and whatever is computed has none.

* `Marked` — a number with a mark, or without one; `MachineNumber` is what drawings are
  compiled with.
* `Marked.stamp` — gives a mark to an undefined number that has none.
* `Marked.alike` — equal numbers, or copies of one undefined number: `alike_stamp` says
  that a stamped number is like itself, and `alike_of_unmarked` that without a mark an
  undefined number is like nothing.
-/

namespace DiagramScript

/-- A number, and a mark by which its copies are known. -/
@[ext]
structure Marked (K : Type) where
  /-- The number itself. -/
  value : K
  /-- What its copies have in common. -/
  mark : Option Mark := none
  deriving Repr

namespace Marked

variable {K : Type}

/-- A number without a mark. -/
def plain (x : K) : Marked K := { value := x }

variable [Arith K]

/-! ## Copies -/

/-- Gives a mark to an undefined number that has none. -/
def stamp (m : Mark) (x : Marked K) : Marked K :=
  if Arith.isNaN x.value && x.mark.isNone then { x with mark := some m } else x

/-- Whether two numbers are equal, or copies of one undefined number. -/
def alike (a b : Marked K) : Bool :=
  a.value == b.value || (a.mark.isSome && a.mark == b.mark)

/-! ## Arithmetic -/

instance : Arith (Marked K) where
  add a b := plain (a.value + b.value)
  sub a b := plain (a.value - b.value)
  mul a b := plain (a.value * b.value)
  div a b := plain (a.value / b.value)
  neg a := plain (-a.value)
  beq a b := a.value == b.value
  lt a b := a.value < b.value
  le a b := a.value ≤ b.value
  decideLT a b := Arith.decideLT a.value b.value
  decideLE a b := Arith.decideLE a.value b.value
  ofInt i := plain (Arith.ofInt i)
  ofDecimal x := plain (Arith.ofDecimal x)
  abs a := plain (Arith.abs a.value)
  isFinite a := Arith.isFinite a.value
  sqrt a := plain (Arith.sqrt a.value)
  hypot a b := plain (Arith.hypot a.value b.value)
  sinDegrees a := plain (Arith.sinDegrees a.value)
  cosDegrees a := plain (Arith.cosDegrees a.value)
  roundAt places a := Arith.roundAt places a.value
  integerPart a := Arith.integerPart a.value
  general a := Arith.general a.value
  stamp := stamp
  alike := alike

/-! ## Why marks are right -/

/-- A sum has no mark. -/
@[simp] theorem mark_add (a b : Marked K) : (a + b).mark = none := rfl

/-- A difference has no mark. -/
@[simp] theorem mark_sub (a b : Marked K) : (a - b).mark = none := rfl

/-- A product has no mark. -/
@[simp] theorem mark_mul (a b : Marked K) : (a * b).mark = none := rfl

/-- A quotient has no mark. -/
@[simp] theorem mark_div (a b : Marked K) : (a / b).mark = none := rfl

/-- A mark does not change the number. -/
@[simp] theorem value_stamp (m : Mark) (x : Marked K) : (stamp m x).value = x.value := by
  unfold stamp
  split <;> rfl

/-- A number that equals itself gets no mark. -/
theorem stamp_of_defined {x : Marked K} (h : (x.value == x.value) = true) (m : Mark) :
    stamp m x = x := by
  simp [stamp, Arith.isNaN, h]

/-- The first mark stays. -/
@[simp] theorem stamp_stamp (m n : Mark) (x : Marked K) : stamp m (stamp n x) = stamp n x := by
  cases h : Arith.isNaN x.value && x.mark.isNone with
  | true => simp [stamp, h]
  | false => simp [stamp, h]

/-- A stamped number is like itself, even if it does not equal itself. -/
theorem alike_stamp (m : Mark) (x : Marked K) : alike (stamp m x) (stamp m x) = true := by
  obtain ⟨v, mark⟩ := x
  cases h : (v == v) <;> cases mark <;> simp [alike, stamp, Arith.isNaN, h]

/-- Equal numbers are alike, whatever their marks. -/
theorem alike_of_beq {a b : Marked K} (h : (a.value == b.value) = true) : alike a b = true := by
  simp [alike, h]

/-- Without a mark numbers are alike only if they are equal. -/
theorem alike_of_unmarked {a : Marked K} (h : a.mark = none) (b : Marked K) :
    alike a b = (a.value == b.value) := by
  simp [alike, h]

end Marked

/-- The numbers that drawings are compiled with. -/
abbrev MachineNumber := Marked Float

end DiagramScript
