import DiagramScript.Evaluation
import DiagramScript.Proofs.MachineIntegers
import DiagramScript.Proofs.ShortNumerals

/-!
# What is printed for a number

A number that is nearly whole is printed as an integer, and any other with at most six digits after
the point.  How near is near enough is measured by the size of the number, so that large numbers
lose their fractions, and small negative numbers may be rounded to a zero that keeps its sign.

* `Binary64.passes` — whether a number passes for the nearest integer, and
  `Binary64.distance_of_passes` — how far it can be from it then.
* `Binary64.numeral`, `numberText_eq` — the numeral of a number, which is printed for it.
* `Binary64.numeral_near`, `Binary64.numeral_text_eq_iff` — its error, and when it is a negative
  zero.
* `numberText_spec` — what is printed for a finite number.
-/

namespace DiagramScript

namespace Binary64

variable {x : Float}

/-! ## Nearly whole numbers -/

/-- One part in a thousand million, as a number of the machine. -/
theorem content_billionth : content (Arith.billionth : Float) =
    .finite .positive 4835703278458517 (-82) (by decide) := by
  have bits : (Arith.billionth : Float).toModel.toBits.toBitVec = 0x3E112E0BE826D695#64 := by
    decide +kernel
  rw [content, bits]
  rfl

theorem exact_billionth : exact (Arith.billionth : Float) = 4835703278458517 / 2 ^ 82 := by
  rw [exact_finite content_billionth]
  norm_num [Float.Model.UnpackedFloat.Sign.apply]

/-- The number for the nearest integer. -/
def wholeNear (x : Float) : Float := Arith.ofInt (Arith.roundAt 0 x)

/-- How far a number is from the nearest integer. -/
def distance (x : Float) : ℚ := |(Arith.roundAt 0 x : ℚ) - exact x|

/-- Whether a number passes for the nearest integer. -/
def passes (x : Float) : Bool := Arith.close Arith.billionth Arith.billionth x (wholeNear x)

theorem wholeNear_exact (h : Arith.isFinite x = true) : Arith.isFinite (wholeNear x) = true ∧
    exact (wholeNear x) = (Arith.roundAt 0 x : Int) :=
  exact_ofInt_roundAt h

theorem gap_exact (h : Arith.isFinite x = true) :
    Arith.isFinite (Arith.abs (wholeNear x - x)) = true ∧
      exact (Arith.abs (wholeNear x - x)) = distance x :=
  exact_gap h

theorem passes_iff (h : Arith.isFinite x = true) : passes x = true ↔ distance x = 0 ∨
    Arith.abs (wholeNear x - x) ≤ Arith.abs (Arith.billionth * wholeNear x) ∨
    Arith.abs (wholeNear x - x) ≤ Arith.abs (Arith.billionth * x) ∨
    distance x ≤ exact (Arith.billionth : Float) := by
  obtain ⟨finite, value⟩ := wholeNear_exact h
  obtain ⟨finite', value'⟩ := gap_exact h
  have same : (x == wholeNear x) = true ↔ distance x = 0 := by
    rw [exact_eq_iff h finite, value, distance, abs_eq_zero, sub_eq_zero, eq_comm]
  have small : Arith.abs (wholeNear x - x) ≤ Arith.billionth ↔
      distance x ≤ exact (Arith.billionth : Float) := by
    rw [← value']
    exact exact_le_iff finite' (by decide +kernel)
  rw [passes, Arith.close, h, finite, ← same, ← small]
  by_cases equal : (x == wholeNear x) = true
  · simp [equal]
  · simp [equal, or_assoc]

/-- A billionth of a number is calculated with a small error. -/
theorem distance_le_of_abs_mul (h : Arith.isFinite x = true) {a : Float}
    (ha : Arith.isFinite a = true)
    (near : Arith.abs (wholeNear x - x) ≤ Arith.abs (Arith.billionth * a)) :
    10 ^ 9 * distance x ≤ |exact a| * (1 + 3 / 10 ^ 16) + 1 / 10 ^ 3 := by
  obtain ⟨finite', value'⟩ := gap_exact h
  have bound := exact_le_abs_mul content_billionth (by decide) ha finite' near
  have tiny : (2 : ℚ) ^ (-1074 : Int) ≤ 2 ^ (-40 : Int) :=
    zpow_le_zpow_right₀ one_le_two (by decide)
  rw [value', abs_mul, exact_billionth] at bound
  generalize (2 : ℚ) ^ (-1074 : Int) = least at bound tiny
  norm_num at bound tiny ⊢
  linarith [abs_nonneg (exact a)]

/-- A number that passes for an integer is near to it, measured by its size. -/
theorem distance_of_passes (h : Arith.isFinite x = true) (near : passes x = true) :
    distance x ≤ exact (Arith.billionth : Float) ∨ 10 ^ 9 * distance x ≤ |exact x| + 2 := by
  obtain ⟨finite, value⟩ := wholeNear_exact h
  have half : distance x ≤ 1 / 2 := roundAt_zero_near h
  have apart : |(Arith.roundAt 0 x : ℚ)| - |exact x| ≤ distance x := abs_sub_abs_le_abs_sub ..
  have size := abs_nonneg (exact x)
  rcases whole_or_small h with ⟨-, -, -, -, -, whole⟩ | ⟨z, e, -, -, -, -, small⟩
  · refine .inr ?_
    rw [distance, whole, sub_self, abs_zero, mul_zero]
    positivity
  · rcases (passes_iff h).1 near with same | first | second | least
    · refine .inr ?_
      rw [same, mul_zero]
      positivity
    · have bound := distance_le_of_abs_mul h finite first
      rw [value] at bound
      exact .inr (by linarith)
    · have bound := distance_le_of_abs_mul h h second
      exact .inr (by linarith)
    · exact .inl least

/-- A number nearest to zero passes for it if it is within the tolerance. -/
theorem passes_iff_of_zero (h : Arith.isFinite x = true) (zero : Arith.roundAt 0 x = 0) :
    passes x = true ↔ |exact x| ≤ exact (Arith.billionth : Float) := by
  obtain ⟨finite, value⟩ := wholeNear_exact h
  have same : distance x = |exact x| := by
    rw [distance, zero, Int.cast_zero, zero_sub, abs_neg]
  have size := abs_nonneg (exact x)
  refine ⟨fun near => ?_, fun small => (passes_iff h).2 (.inr (.inr (.inr (same ▸ small))))⟩
  have wide : (1 : ℚ) / 10 ^ 11 ≤ exact (Arith.billionth : Float) := by
    rw [exact_billionth]
    norm_num
  rcases (passes_iff h).1 near with none | first | second | least
  · linarith
  · have bound := distance_le_of_abs_mul h finite first
    rw [value, zero, Int.cast_zero, abs_zero, same] at bound
    linarith
  · have bound := distance_le_of_abs_mul h h second
    rw [same] at bound
    linarith
  · linarith

/-! ## Numerals of numbers -/

/-- The numeral that is printed for a finite number. -/
def numeral (x : Float) : Numeral :=
  if passes x then .ofInteger (Arith.roundAt 0 x)
  else .ofFixed (x < Arith.num 0) 6 (Arith.roundAt 6 x).natAbs

/-! ## What they stand for -/

theorem lt_zero_iff (h : Arith.isFinite x = true) : x < Arith.num 0 ↔ exact x < 0 := by
  rw [exact_lt_iff h (by decide +kernel), exact_eq_worth rank_content_zero summit_pos]
  simp [worth]

theorem value_ofFixed_roundAt (h : Arith.isFinite x = true) (places : Nat) :
    (Numeral.ofFixed (x < Arith.num 0) places (Arith.roundAt places x).natAbs).value =
      Arith.roundAt places x / 10 ^ places := by
  have near := abs_le.1 (roundAt_near places h)
  have power : (0 : ℚ) < 10 ^ places := by positivity
  rw [Numeral.value_ofFixed, Nat.cast_natAbs, Int.cast_abs]
  by_cases down : exact x < 0
  · have sign : (Arith.roundAt places x : ℚ) ≤ 0 := by
      have small : (Arith.roundAt places x : ℚ) < 1 := by
        linarith [mul_neg_of_neg_of_pos down power]
      exact_mod_cast Int.lt_add_one_iff.1 (by exact_mod_cast small : Arith.roundAt places x < 0 + 1)
    rw [decide_eq_true ((lt_zero_iff h).2 down), if_pos rfl, abs_of_nonpos sign]
    ring
  · have sign : (0 : ℚ) ≤ Arith.roundAt places x := by
      have small : (-1 : ℚ) < Arith.roundAt places x := by
        linarith [mul_nonneg (not_lt.1 down) power.le]
      exact_mod_cast Int.le_of_sub_one_lt (by exact_mod_cast small : (0 : Int) - 1 < _)
    rw [decide_eq_false ((lt_zero_iff h).not.2 down), if_neg Bool.false_ne_true,
      abs_of_nonneg sign, one_mul]

/-- A numeral is as near to its number as its digits allow, unless the number passes for an integer:
then a large number may be further away. -/
theorem numeral_near (h : Arith.isFinite x = true) :
    |(numeral x).value - exact x| ≤ 5 / 10 ^ 7 ∨
      (numeral x).fraction = [] ∧ |(numeral x).value - exact x| ≤ 1 / 2 ∧
        10 ^ 9 * |(numeral x).value - exact x| ≤ |exact x| + 2 := by
  by_cases near : passes x = true
  · rw [numeral, if_pos near, Numeral.value_ofInteger]
    rcases distance_of_passes h near with small | large
    · refine .inl (small.trans ?_)
      rw [exact_billionth]
      norm_num
    · exact .inr ⟨rfl, roundAt_zero_near h, large⟩
  · rw [numeral, if_neg near, value_ofFixed_roundAt h]
    have close := roundAt_near 6 h
    refine .inl ?_
    have split : (Arith.roundAt 6 x : ℚ) / 10 ^ 6 - exact x =
        (Arith.roundAt 6 x - exact x * 10 ^ 6) / 10 ^ 6 := by
      field_simp
    rw [split, abs_div, abs_of_pos (by norm_num : (0 : ℚ) < 10 ^ 6), div_le_iff₀ (by norm_num)]
    linarith

theorem text_ofFixed_zero (negative : Bool) :
    (Numeral.ofFixed negative 6 0).text = if negative then ['-', '0'] else ['0'] := by
  cases negative <;> decide

/-- What is below half of the last digit that is printed is rounded to nothing. -/
theorem roundAt_of_tiny (h : Arith.isFinite x = true) {places : Nat} (few : places ≤ 6)
    (tiny : |exact x| ≤ 5 / 10 ^ 7) : Arith.roundAt places x = 0 := by
  have power : (10 : ℚ) ^ places ≤ 10 ^ 6 := pow_le_pow_right₀ (by norm_num) few
  refine roundAt_eq_zero h ?_
  calc |exact x| * 10 ^ places
      ≤ 5 / 10 ^ 7 * 10 ^ 6 := mul_le_mul tiny power (by positivity) (by positivity)
    _ = 1 / 2 := by norm_num

/-- Small negative numbers, but not the smallest, are printed as a negative zero. -/
theorem numeral_text_eq_iff (h : Arith.isFinite x = true) : (numeral x).text = ['-', '0'] ↔
    -(5 / 10 ^ 7) ≤ exact x ∧ exact x < -exact (Arith.billionth : Float) := by
  constructor
  · intro text
    obtain ⟨negative, zero⟩ := Numeral.eq_zero_of_text text
    by_cases near : passes x = true
    · rw [numeral, if_pos near] at negative zero
      rw [Numeral.value_ofInteger, Int.cast_eq_zero] at zero
      exact absurd (of_decide_eq_true negative) zero.not_lt
    · rw [numeral, if_neg near] at negative zero
      rw [value_ofFixed_roundAt h] at zero
      have none : Arith.roundAt 6 x = 0 := by simpa using zero
      have below : exact x < 0 := (lt_zero_iff h).1 (of_decide_eq_true negative)
      have close := abs_le.1 (roundAt_near 6 h)
      rw [none, Int.cast_zero] at close
      have tiny : |exact x| ≤ 5 / 10 ^ 7 := by
        rw [abs_of_neg below]
        linarith
      have far := (passes_iff_of_zero h (roundAt_of_tiny h (Nat.zero_le 6) tiny)).not.1 near
      refine ⟨by linarith, ?_⟩
      rw [abs_of_neg below] at far
      linarith
  · rintro ⟨low, high⟩
    have positive : (0 : ℚ) ≤ exact (Arith.billionth : Float) := by
      rw [exact_billionth]
      positivity
    have below : exact x < 0 := by linarith
    have tiny : |exact x| ≤ 5 / 10 ^ 7 := by
      rw [abs_of_neg below]
      linarith
    have near : passes x ≠ true := by
      rw [ne_eq, passes_iff_of_zero h (roundAt_of_tiny h (Nat.zero_le 6) tiny), abs_of_neg below]
      linarith
    rw [numeral, if_neg near, roundAt_of_tiny h le_rfl tiny,
      decide_eq_true ((lt_zero_iff h).2 below)]
    exact text_ofFixed_zero true

theorem numeral_text_of_zero (h : Arith.isFinite x = true) (zero : (numeral x).value = 0) :
    (numeral x).text = ['0'] ∨ (numeral x).text = ['-', '0'] := by
  by_cases near : passes x = true
  · rw [numeral, if_pos near] at zero ⊢
    rw [Numeral.value_ofInteger, Int.cast_eq_zero] at zero
    rw [zero]
    exact .inl (by decide)
  · rw [numeral, if_neg near] at zero ⊢
    rw [value_ofFixed_roundAt h] at zero
    have none : Arith.roundAt 6 x = 0 := by simpa using zero
    rw [none, Int.natAbs_zero, text_ofFixed_zero]
    split_ifs
    · exact .inr rfl
    · exact .inl rfl

end Binary64

/-- What a number stands for that drawings are compiled with. -/
def MachineNumber.exact (x : MachineNumber) : ℚ := Binary64.exact x.value

theorem numberText_eq {x : MachineNumber} (h : Arith.isFinite x = true) :
    numberText x = .ok (String.ofList (Binary64.numeral x.value).text) := by
  have digits : Arith.compact 6 printTolerance x = .ok (Binary64.numeral x.value).text := by
    unfold Arith.compact Arith.nearest Arith.finite
    rw [if_pos h]
    show (if Binary64.passes x.value then _ else _) = _
    rw [Binary64.numeral]
    split_ifs
    · rw [Numeral.text_ofInteger]
      rfl
    · rw [Numeral.text_ofFixed _ (by decide)]
      simp only [decide_eq_true_eq]
      rfl
  rw [numberText, if_pos h, digits]
  rfl

/-- What is printed for a finite number: a numeral of six digits after the point, without the zeros
at its end, or the nearest integer.  Where that is too far away the number is large, and its
distance is about a billionth of it at most.  Of zeros only those have a sign that small negative
numbers are rounded to. -/
theorem numberText_spec {x : MachineNumber} (h : Arith.isFinite x = true) : ∃ n : Numeral,
    numberText x = .ok (String.ofList n.text) ∧
    (|n.value - x.exact| ≤ 5 / 10 ^ 7 ∨ n.fraction = [] ∧ |n.value - x.exact| ≤ 1 / 2 ∧
      10 ^ 9 * |n.value - x.exact| ≤ |x.exact| + 2) ∧
    (n.text = ['-', '0'] ↔
      -(5 / 10 ^ 7) ≤ x.exact ∧ x.exact < -(printTolerance : MachineNumber).exact) ∧
    (n.value = 0 → n.text = ['0'] ∨ n.text = ['-', '0']) :=
  ⟨_, numberText_eq h, Binary64.numeral_near h, Binary64.numeral_text_eq_iff h,
    Binary64.numeral_text_of_zero h⟩

/-- One half. -/
theorem numberText_spec_half : let x : MachineNumber := Arith.ofDecimal ⟨5, -1⟩
    ∃ n : Numeral, numberText x = .ok (String.ofList n.text) ∧ (|n.value - x.exact| ≤ 5 / 10 ^ 7 ∨
      n.fraction = [] ∧ |n.value - x.exact| ≤ 1 / 2 ∧
        10 ^ 9 * |n.value - x.exact| ≤ |x.exact| + 2) ∧ n.text ≠ ['-', '0'] := by
  intro x
  have value : x.exact = 1 / 2 := by
    have taken : Binary64.parts x.value = .finite false (2 ^ 52) (-53) := by decide +kernel
    rw [MachineNumber.exact, Binary64.exact, taken]
    norm_num
  obtain ⟨n, text, near, sign, -⟩ := numberText_spec (x := x) (by decide +kernel)
  refine ⟨n, text, near, fun minus => ?_⟩
  have below := (sign.1 minus).2
  rw [value] at below
  have positive : (0 : ℚ) ≤ (printTolerance : MachineNumber).exact := by
    show 0 ≤ Binary64.exact (Arith.billionth : Float)
    rw [Binary64.exact_billionth]
    positivity
  linarith

/-- A large number and a small one. -/
theorem numberText_surprises :
    let large : MachineNumber := Arith.ofDecimal ⟨10000000004, -1⟩
    let small : MachineNumber := -Arith.ofDecimal ⟨4, -7⟩
    numberText large = .ok "1000000000" ∧ 5 / 10 ^ 7 < |1000000000 - large.exact| ∧
      numberText small = .ok "-0" := by
  intro large small
  have taken : Binary64.parts large.value = .finite false 8388608003355443 (-23) := by
    decide +kernel
  have digits : (Binary64.numeral large.value).text = "1000000000".toList := by decide +kernel
  have digits' : (Binary64.numeral small.value).text = "-0".toList := by decide +kernel
  refine ⟨?_, ?_, ?_⟩
  · rw [numberText_eq (by decide +kernel), digits, String.ofList_toList]
  · rw [MachineNumber.exact, Binary64.exact, taken]
    norm_num
  · rw [numberText_eq (by decide +kernel), digits', String.ofList_toList]

end DiagramScript
