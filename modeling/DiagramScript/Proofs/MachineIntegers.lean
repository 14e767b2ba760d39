import DiagramScript.Proofs.MachineValues

/-!
# Machine numbers and whole numbers

A machine number is rounded to an integer without an error, apart from that of rounding.  The
integer is a machine number again, and so is its distance from the first number.

* `Binary64.roundAt_near` — the nearest integer, after a shift of the decimal point.
* `Binary64.exact_ofInt` — an integer with few significant bits is a number.
* `Binary64.exact_ofInt_roundAt`, `Binary64.exact_gap` — so are the nearest integer and its
  distance.
-/

namespace DiagramScript

/-- The integer nearest to a quotient is half a unit away at most. -/
theorem roundDiv_near (n : Nat) {d : Nat} (hd : 0 < d) : |(roundDiv n d : ℚ) - n / d| ≤ 1 / 2 := by
  have high : (2 * (roundDiv n d * d) : ℚ) ≤ 2 * n + d := by exact_mod_cast roundDiv_mul_sub_le n d
  have low : (2 * n : ℚ) ≤ 2 * (roundDiv n d * d) + d := by exact_mod_cast sub_roundDiv_mul_le n hd
  have some : (0 : ℚ) < d := by exact_mod_cast hd
  have split : (roundDiv n d : ℚ) - n / d = (roundDiv n d * d - n) / d := by
    rw [sub_div, mul_div_cancel_right₀ _ some.ne']
  rw [split, abs_div, abs_of_pos some, div_le_iff₀ some, abs_le]
  constructor <;> linarith

/-- Half a unit is rounded down to nothing. -/
theorem roundDiv_eq_zero {n d : Nat} (hd : 0 < d) (h : 2 * n ≤ d) : roundDiv n d = 0 := by
  have less : n < d := by omega
  rw [roundDiv, Nat.div_eq_of_lt less, Nat.mod_eq_of_lt less]
  split_ifs <;> omega

namespace Binary64

variable {x : Float}

/-! ## Whole numbers near a number -/

theorem cast_twoPow (k : Nat) : (twoPow k : ℚ) = 2 ^ (k : Int) := by
  rw [zpow_natCast]
  exact Nat.cast_pow 2 k

theorem cast_tenPow (k : Nat) : (tenPow k : ℚ) = 10 ^ k := Nat.cast_pow 10 k

/-- A quotient divided by a power of two. -/
theorem overPowerOfTwo_value (n : Nat) (e : Int) : 0 < (overPowerOfTwo n 1 e).2 ∧
    ((overPowerOfTwo n 1 e).1 : ℚ) / (overPowerOfTwo n 1 e).2 = n * 2 ^ (-e) := by
  unfold overPowerOfTwo
  split_ifs with h
  · refine ⟨(Nat.one_mul _).symm ▸ twoPow_pos _, ?_⟩
    rw [Nat.one_mul, cast_twoPow, Int.toNat_of_nonneg h, zpow_neg]
    rfl
  · refine ⟨Nat.one_pos, ?_⟩
    rw [Nat.cast_mul, cast_twoPow, Int.toNat_of_nonneg (by omega), Nat.cast_one, div_one]

theorem toQuotient_value (m : Nat) (e : Int) : 0 < (toQuotient m e).2 ∧
    ((toQuotient m e).1 : ℚ) / (toQuotient m e).2 = m * 2 ^ e := by
  have value := overPowerOfTwo_value m (-e)
  rwa [neg_neg] at value

/-- The parts of a finite number. -/
theorem parts_of_isFinite (h : Arith.isFinite x = true) : ∃ negative m e,
    parts x = .finite negative m e ∧ m < 2 ^ 53 ∧ -1074 ≤ e ∧ e ≤ 971 := by
  obtain ⟨p, hp, near⟩ := isFinite_iff.1 h
  have proper := (rank_eq_bits hp near).2
  have narrow : (fieldOf (bits x)).toNat < 2 ^ 11 := (fieldOf (bits x)).isLt
  have short : (fractionOf (bits x)).toNat < 2 ^ 52 := (fractionOf (bits x)).isLt
  rw [parts_eq, if_neg proper]
  split_ifs with least
  · exact ⟨_, _, _, rfl, by omega, by omega, by omega⟩
  · exact ⟨_, _, _, rfl, by omega, by omega, by omega⟩

/-- The integer nearest to a number is half a unit away at most. -/
theorem roundAt_near (places : Nat) (h : Arith.isFinite x = true) :
    |(Arith.roundAt places x : ℚ) - exact x * 10 ^ places| ≤ 1 / 2 := by
  obtain ⟨negative, m, e, taken, -⟩ := parts_of_isFinite h
  obtain ⟨positive, value⟩ := toQuotient_value m e
  have near := roundDiv_near ((toQuotient m e).1 * tenPow places) positive
  rw [Nat.cast_mul, mul_div_right_comm, value, cast_tenPow] at near
  show |(roundAt places x : ℚ) - _| ≤ _
  cases negative with
  | false => simpa [roundAt, exact, taken] using near
  | true =>
    rw [abs_sub_comm] at near
    simpa [roundAt, exact, taken, add_comm, ← sub_eq_add_neg] using near

/-- What is below half a unit is rounded to nothing. -/
theorem roundAt_eq_zero {places : Nat} (h : Arith.isFinite x = true)
    (small : |exact x| * 10 ^ places ≤ 1 / 2) : Arith.roundAt places x = 0 := by
  obtain ⟨negative, m, e, taken, -⟩ := parts_of_isFinite h
  obtain ⟨positive, value⟩ := toQuotient_value m e
  have size : |exact x| = m * 2 ^ e := by
    cases negative <;> simp [exact, taken, abs_mul]
  have some : (0 : ℚ) < (toQuotient m e).2 := by exact_mod_cast positive
  rw [size, ← value, div_mul_eq_mul_div, div_le_iff₀ some, ← cast_tenPow] at small
  have below : 2 * ((toQuotient m e).1 * tenPow places) ≤ (toQuotient m e).2 := by
    have doubled : (2 : ℚ) * ((toQuotient m e).1 * tenPow places) ≤ (toQuotient m e).2 := by
      linarith
    exact_mod_cast doubled
  have none : roundDiv ((toQuotient m e).1 * tenPow places) (toQuotient m e).2 = 0 :=
    roundDiv_eq_zero positive below
  show roundAt places x = 0
  rw [roundAt, taken]
  dsimp only
  rw [none]
  simp

/-! ## Whole numbers as numbers -/

theorem rank_ofBits (negative : Bool) {n : Nat} (h : n < 2047 * 2 ^ 52) :
    rank (content (Float.ofBits (UInt64.ofNat (n + if negative then twoPow 63 else 0)))) =
      some (if negative then -(n : Int) else n) := by
  let b := BitVec.ofNat 64 (n + if negative then twoPow 63 else 0)
  have whole : b.toNat = n + negative.toNat * 2 ^ 63 := by
    show (n + if negative then 2 ^ 63 else 0) % 2 ^ 64 = _
    cases negative with
    | false => exact Nat.mod_eq_of_lt (by simp only [Bool.false_eq_true, if_false]; omega)
    | true => exact Nat.mod_eq_of_lt (by simp only [if_true]; omega)
  have single := Bool.toNat_le negative
  have field : (fieldOf b).toNat = n / 2 ^ 52 := by
    rw [fieldOf_toNat, whole]
    omega
  have fraction : (fractionOf b).toNat = n % 2 ^ 52 := by
    rw [fractionOf_toNat, whole]
    omega
  have proper : fieldOf b ≠ -1#11 := fun all => by
    have most : (fieldOf b).toNat = 2047 := all ▸ rfl
    omega
  have sign : signOf b = if negative then .negative else .positive := by
    rw [signOf_eq, whole]
    cases negative with
    | false => exact if_neg (by simp only [Bool.toNat_false]; omega)
    | true => exact if_pos (by simp only [Bool.toNat_true]; omega)
  have value : ((fieldOf b).toNat * 2 ^ 52 + (fractionOf b).toNat : Int) = n := by
    rw [field, fraction]
    omega
  show written (unpacked b) = _
  rw [written_of_fits (fits_unpacked b), rank_unpacked, if_neg fun h => proper h.1, value, sign]
  cases negative <;> rfl

/-- Putting a number together. -/
theorem rank_assemble (negative : Bool) {m : Nat} {e : Int} (h : IsRounded m e) (he : e ≤ 971) :
    rank (content (assemble negative m e)) =
      some (if negative then -magnitude m e else magnitude m e) := by
  obtain ⟨short, least, leading⟩ := h
  let spelled := if m < twoPow 52 then m
    else if 2047 ≤ (e + 1075).toNat then 2047 * twoPow 52
    else (e + 1075).toNat * twoPow 52 + (m - twoPow 52)
  have bits : twoPow 52 = 2 ^ 52 := rfl
  have same : (spelled : Int) = magnitude m e ∧ spelled < 2047 * 2 ^ 52 := by
    simp only [spelled, bits, magnitude]
    split_ifs <;> omega
  have ranked := rank_ofBits negative same.2
  rw [same.1] at ranked
  exact ranked

/-- A natural number with few significant bits has all its digits. -/
theorem ofQuotient_one (negative : Bool) {n c k : Nat} (hn : 0 < n) (h : n = c * 2 ^ k)
    (hc : c < 2 ^ 53) : ∃ m, ofQuotient negative n 1 = assemble negative m (unit n 0) ∧
      (m : ℚ) * 2 ^ unit n 0 = n ∧ IsRounded m (unit n 0) ∧ unit n 0 ≤ k := by
  have units : unit n 0 = (n.log2 : Int) - 52 := by
    unfold unit
    omega
  have value : (n : ℚ) * 2 ^ (0 : Int) = c * 2 ^ (k : Int) := by
    rw [h, zpow_zero, mul_one, zpow_natCast]
    push_cast
    rfl
  obtain ⟨m, whole, same⟩ := exists_scaled hn value hc (by omega)
  rw [zpow_zero, mul_one] at same
  have power : (2 : ℚ) ^ (n.log2 : Int) = 2 ^ 52 * 2 ^ unit n 0 := by
    rw [units, ← zpow_natCast, ← zpow_add₀ two_ne_zero]
    congr 1
    omega
  have positive : (0 : ℚ) < 2 ^ unit n 0 := by positivity
  have low : (2 ^ 52 : ℚ) ≤ m :=
    le_of_mul_le_mul_right (power.symm.trans_le ((two_zpow_log2_le hn).trans_eq same.symm)) positive
  have high : (m : ℚ) < 2 ^ 53 := by
    have below : (n : ℚ) < 2 ^ (n.log2 + 1) := by exact_mod_cast Nat.lt_log2_self
    rw [pow_succ, ← zpow_natCast, power, ← same] at below
    nlinarith
  have fits : n.log2 < 53 + k := by
    rw [Nat.log2_lt hn.ne', h, Nat.pow_add]
    exact Nat.mul_lt_mul_of_pos_right hc (Nat.two_pow_pos k)
  refine ⟨m, ?_, same, ⟨by exact_mod_cast high, least_unit n 0, .inl (by exact_mod_cast low)⟩,
    by omega⟩
  have exponent : (if (overPowerOfTwo n 1 n.log2).1 < (overPowerOfTwo n 1 n.log2).2
      then (n.log2 : Int) - 1 else n.log2) = n.log2 := by
    obtain ⟨some, value⟩ := overPowerOfTwo_value n n.log2
    have above : (1 : ℚ) ≤ n * 2 ^ (-(n.log2 : Int)) := by
      rw [zpow_neg, ← div_eq_mul_inv, one_le_div (by positivity)]
      exact two_zpow_log2_le hn
    rw [← value, one_le_div (by exact_mod_cast some)] at above
    exact if_neg (Nat.not_lt.2 (by exact_mod_cast above))
  have digits :
      roundDiv (overPowerOfTwo n 1 (unit n 0)).1 (overPowerOfTwo n 1 (unit n 0)).2 = m := by
    obtain ⟨some, value⟩ := overPowerOfTwo_value n (unit n 0)
    rw [← same, zpow_neg, mul_inv_cancel_right₀ positive.ne',
      div_eq_iff (by exact_mod_cast some.ne')] at value
    have multiple : (overPowerOfTwo n 1 (unit n 0)).1 = m * (overPowerOfTwo n 1 (unit n 0)).2 := by
      exact_mod_cast value
    rw [multiple, roundDiv_of_dvd some (Nat.dvd_mul_left ..), Nat.mul_div_cancel _ some]
  have least : max ((n.log2 : Int) - 52) (-1074) = unit n 0 := by omega
  have steps : ofQuotient negative n 1 =
      if roundDiv (overPowerOfTwo n 1 (unit n 0)).1 (overPowerOfTwo n 1 (unit n 0)).2 = twoPow 53
      then assemble negative (twoPow 52) (unit n 0 + 1)
      else assemble negative (roundDiv (overPowerOfTwo n 1 (unit n 0)).1
        (overPowerOfTwo n 1 (unit n 0)).2) (unit n 0) := by
    unfold ofQuotient
    rw [if_neg hn.ne', show ((Nat.log2 1 : Nat) : Int) = 0 from rfl, sub_zero]
    dsimp only
    rw [exponent, least]
  rw [steps, digits, if_neg (by exact_mod_cast high.ne)]

/-- An integer with few significant bits is a number. -/
theorem exact_ofInt {n : Int} {c k : Nat} (h : n.natAbs = c * 2 ^ k) (hc : c < 2 ^ 53)
    (hk : k ≤ 971) : Arith.isFinite (Arith.ofInt n : Float) = true ∧
      exact (Arith.ofInt n) = n := by
  have near : |(n : ℚ)| < 2 ^ 1024 := by
    rw [← Int.cast_abs, Int.abs_eq_natAbs, Int.cast_natCast, h, Nat.cast_mul, Nat.cast_pow,
      Nat.cast_ofNat]
    calc (c : ℚ) * 2 ^ k
        < 2 ^ 53 * 2 ^ k := mul_lt_mul_of_pos_right (by exact_mod_cast hc) (by positivity)
      _ ≤ 2 ^ 53 * 2 ^ 971 :=
        mul_le_mul_of_nonneg_left (pow_le_pow_right₀ one_le_two hk) (by positivity)
      _ = 2 ^ 1024 := by rw [← pow_add]
  rcases Nat.eq_zero_or_pos n.natAbs with zero | some
  · obtain rfl := Int.natAbs_eq_zero.1 zero
    have ranked := rank_assemble false (m := 0) ⟨by decide, le_rfl, .inr rfl⟩ (by decide)
    exact exact_of_rank ranked (by simp [worth, magnitude]) near
  · obtain ⟨m, spelled, value, isRounded, small⟩ := ofQuotient_one (n < 0) some h hc
    have ranked := rank_assemble (n < 0) isRounded (small.trans (by omega))
    rw [← spelled] at ranked
    refine exact_of_rank ranked ?_ near
    have size := worth_magnitude isRounded.short.le isRounded.least isRounded.leading
    rw [value] at size
    rw [Nat.cast_natAbs] at size
    by_cases down : n < 0
    · rw [decide_eq_true down, if_pos rfl, worth_neg, size, abs_of_neg down, Int.cast_neg, neg_neg]
    · rw [decide_eq_false down, if_neg Bool.false_ne_true, size, abs_of_nonneg (not_lt.1 down)]

/-! ## Distances to whole numbers -/

/-- A finite number is a multiple of a power of two. -/
theorem exists_multiple (h : Arith.isFinite x = true) : ∃ z e : Int,
    exact x = z * 2 ^ e ∧ z.natAbs < 2 ^ 53 ∧ -1074 ≤ e ∧ e ≤ 971 := by
  obtain ⟨negative, m, e, taken, short, bounds⟩ := parts_of_isFinite h
  refine ⟨if negative then -m else m, e, ?_, ?_, bounds⟩
  · cases negative <;> simp [exact, taken]
  · cases negative <;> simpa using short

theorem roundAt_zero_near (h : Arith.isFinite x = true) :
    |(Arith.roundAt 0 x : ℚ) - exact x| ≤ 1 / 2 := by
  have near := roundAt_near 0 h
  rwa [pow_zero, mul_one] at near

/-- A number is whole, or not so large that it must be. -/
theorem whole_or_small (h : Arith.isFinite x = true) :
    (∃ c k : Nat, (Arith.roundAt 0 x).natAbs = c * 2 ^ k ∧ c < 2 ^ 53 ∧ k ≤ 971 ∧
      exact x = (Arith.roundAt 0 x : Int)) ∨
    ∃ z e : Int, exact x = z * 2 ^ e ∧ z.natAbs < 2 ^ 53 ∧ -1074 ≤ e ∧ e < 0 ∧
      |exact x| < 2 ^ 52 := by
  obtain ⟨z, e, value, short, least, most⟩ := exists_multiple h
  have near := roundAt_zero_near h
  have positive : (0 : ℚ) < 2 ^ e := by positivity
  rcases le_or_gt 0 e with whole | part
  · obtain ⟨k, rfl⟩ := Int.eq_ofNat_of_zero_le whole
    have integer : exact x = (z * 2 ^ k : Int) := by
      rw [value]
      push_cast
      rfl
    have same : Arith.roundAt 0 x = z * 2 ^ k := by
      rw [integer, ← Int.cast_sub, ← Int.cast_abs] at near
      have less : ((|Arith.roundAt 0 x - z * 2 ^ k| : Int) : ℚ) < 1 := near.trans_lt (by norm_num)
      have apart : |Arith.roundAt 0 x - z * 2 ^ k| < 1 := by exact_mod_cast less
      exact sub_eq_zero.1 (Int.abs_lt_one_iff.1 apart)
    refine .inl ⟨z.natAbs, k, ?_, short, by omega, same ▸ integer⟩
    rw [same, Int.natAbs_mul, Int.natAbs_pow]
    rfl
  · refine .inr ⟨z, e, value, short, least, part, ?_⟩
    have size : |(z : ℚ)| < 2 ^ 53 := by
      rw [← Int.cast_abs, Int.abs_eq_natAbs]
      exact_mod_cast short
    calc |exact x| = |(z : ℚ)| * 2 ^ e := by rw [value, abs_mul, abs_of_pos positive]
      _ < 2 ^ 53 * 2 ^ e := mul_lt_mul_of_pos_right size positive
      _ ≤ 2 ^ 53 * 2 ^ (-1 : Int) :=
        mul_le_mul_of_nonneg_left (zpow_le_zpow_right₀ one_le_two (by omega)) (by positivity)
      _ = 2 ^ 52 := by norm_num

/-- The nearest integer is a number. -/
theorem exact_ofInt_roundAt (h : Arith.isFinite x = true) :
    Arith.isFinite (Arith.ofInt (Arith.roundAt 0 x) : Float) = true ∧
      exact (Arith.ofInt (Arith.roundAt 0 x)) = (Arith.roundAt 0 x : Int) := by
  rcases whole_or_small h with ⟨c, k, same, short, small, -⟩ | ⟨z, e, -, -, -, -, small⟩
  · exact exact_ofInt same short small
  · have near := roundAt_zero_near h
    have size : ((Arith.roundAt 0 x).natAbs : ℚ) < 2 ^ 53 := by
      rw [Nat.cast_natAbs, Int.cast_abs]
      have apart := abs_sub_abs_le_abs_sub (Arith.roundAt 0 x : ℚ) (exact x)
      linarith
    exact exact_ofInt (Nat.mul_one _).symm (by exact_mod_cast size) (Nat.zero_le _)

/-- Zero is not nearer than the nearest integer. -/
theorem roundAt_zero_nearer (h : Arith.isFinite x = true) :
    |(Arith.roundAt 0 x : ℚ) - exact x| ≤ |exact x| := by
  have near := roundAt_zero_near h
  rcases eq_or_ne (Arith.roundAt 0 x) 0 with zero | some
  · rw [zero, Int.cast_zero, zero_sub, abs_neg]
  · have far : (1 : ℚ) ≤ |(Arith.roundAt 0 x : ℚ)| := by exact_mod_cast Int.one_le_abs some
    have apart := abs_sub_abs_le_abs_sub (Arith.roundAt 0 x : ℚ) (exact x)
    linarith

/-- The distance to it is calculated exactly. -/
theorem exact_gap (h : Arith.isFinite x = true) :
    Arith.isFinite (Arith.abs (Arith.ofInt (Arith.roundAt 0 x) - x)) = true ∧
      exact (Arith.abs (Arith.ofInt (Arith.roundAt 0 x) - x)) =
        |(Arith.roundAt 0 x : ℚ) - exact x| := by
  obtain ⟨finite, value⟩ := exact_ofInt_roundAt h
  have near : |exact (Arith.ofInt (Arith.roundAt 0 x)) - exact x| < 2 ^ 1024 := by
    rw [value]
    exact (roundAt_zero_near h).trans_lt (lt_of_lt_of_le (by norm_num) (one_le_pow₀ one_le_two))
  suffices difference : Arith.isFinite (Arith.ofInt (Arith.roundAt 0 x) - x : Float) = true ∧
      exact (Arith.ofInt (Arith.roundAt 0 x) - x) =
        exact (Arith.ofInt (Arith.roundAt 0 x)) - exact x by
    have gap := exact_abs difference.1
    rwa [difference.2, value] at gap
  rcases whole_or_small h with ⟨c, k, -, -, -, same⟩ | ⟨z, e, multiple, short, least, part, -⟩
  · refine exact_sub finite h (c := 0) (f := 0) ?_ (by decide) (by decide) near
    rw [value, same]
    simp
  · have unit : (0 : ℚ) < 2 ^ e := by positivity
    have power : (2 : ℚ) ^ (-e).toNat * 2 ^ e = 1 := by
      have lifted := two_pow_toNat_mul part.le
      rwa [zero_sub, zpow_zero] at lifted
    have same : exact (Arith.ofInt (Arith.roundAt 0 x)) - exact x =
        (Arith.roundAt 0 x * 2 ^ (-e).toNat - z : Int) * 2 ^ e := by
      rw [value, multiple]
      push_cast
      rw [sub_mul, mul_assoc, power, mul_one]
    refine exact_sub finite h same ?_ least near
    have nearer := roundAt_zero_nearer h
    rw [← value, same, multiple, abs_mul, abs_mul, abs_of_pos unit] at nearer
    have fewer := le_of_mul_le_mul_right nearer unit
    rw [← Int.cast_abs, ← Int.cast_abs, Int.abs_eq_natAbs, Int.abs_eq_natAbs] at fewer
    exact lt_of_le_of_lt (by exact_mod_cast fewer) short

end Binary64

end DiagramScript
