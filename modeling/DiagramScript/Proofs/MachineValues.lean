import DiagramScript.Proofs.MachineOrder

/-!
# What machine numbers stand for, exactly

Every finite number of 64 bits is a whole number times a power of two.

* `Binary64.exact` — that rational number; `Binary64.exact_eq_worth` — it depends on the rank only,
  and `Binary64.worth_strictMono` — it grows with the rank.
* `Binary64.exact_le_iff`, `Binary64.exact_lt_iff`, `Binary64.exact_eq_iff` — numbers are compared
  as what they stand for.
* `Binary64.worth_rounded`, `Binary64.worth_rounded_le` — what can be represented is not rounded,
  and rounding overshoots little.
* `Binary64.exact_sub`, `Binary64.exact_le_abs_mul` — so differences may be exact, and products are
  not much too large.
-/

namespace DiagramScript

namespace Binary64

open Float.Model (UnpackedFloat)
open Float.Model.UnpackedFloat (Sign ExtendedMantissa Accuracy)

/-! ## The values of ranks -/

/-- What a number stands for, if it is finite. -/
def exact (x : Float) : ℚ :=
  match parts x with
  | .finite negative significand exponent =>
    (if negative then -1 else 1) * (significand * 2 ^ exponent)
  | _ => 0

/-- What the numbers from zero upward stand for. -/
def nth (n : Nat) : ℚ :=
  if n / 2 ^ 52 = 0 then (n % 2 ^ 52 : Nat) * 2 ^ (-1074 : Int)
  else (2 ^ 52 + n % 2 ^ 52 : Nat) * 2 ^ ((n / 2 ^ 52 : Nat) - 1075 : Int)

/-- What the number with a rank stands for. -/
def worth (p : Int) : ℚ := p.sign * nth p.natAbs

theorem nth_zero : nth 0 = 0 := by
  simp [nth]

theorem two_zpow_add_one (e : Int) : (2 : ℚ) ^ (e + 1) = 2 * 2 ^ e := by
  rw [zpow_add_one₀ two_ne_zero, mul_comm]

theorem two_pow_toNat_mul {e f : Int} (h : e ≤ f) : (2 : ℚ) ^ (f - e).toNat * 2 ^ e = 2 ^ f := by
  rw [← zpow_natCast, ← zpow_add₀ two_ne_zero, Int.toNat_of_nonneg (by omega), sub_add_cancel]

theorem nth_lt_succ (n : Nat) : nth n < nth (n + 1) := by
  have split := Nat.div_add_mod n (2 ^ 52)
  have short : n % 2 ^ 52 < 2 ^ 52 := Nat.mod_lt n (by decide)
  rcases Nat.lt_or_ge (n % 2 ^ 52 + 1) (2 ^ 52) with inside | last
  · -- the next number has the same exponent
    have field : (n + 1) / 2 ^ 52 = n / 2 ^ 52 := by omega
    have fraction : (n + 1) % 2 ^ 52 = n % 2 ^ 52 + 1 := by omega
    rw [nth, nth, field, fraction]
    split_ifs
    · exact mul_lt_mul_of_pos_right (by exact_mod_cast Nat.lt_succ_self _) (by positivity)
    · exact mul_lt_mul_of_pos_right (by exact_mod_cast Nat.lt_succ_self _) (by positivity)
  · have field : (n + 1) / 2 ^ 52 = n / 2 ^ 52 + 1 := by omega
    have fraction : (n + 1) % 2 ^ 52 = 0 := by omega
    have all : n % 2 ^ 52 = 2 ^ 52 - 1 := by omega
    rw [nth, nth, field, fraction, all, if_neg (Nat.succ_ne_zero _)]
    split_ifs with least
    · rw [least]
      norm_num
    · have next :
          ((n / 2 ^ 52 + 1 : Nat) : Int) - 1075 = ((n / 2 ^ 52 : Nat) - 1075 : Int) + 1 := by
        push_cast
        ring
      have unit : (0 : ℚ) < 2 ^ ((n / 2 ^ 52 : Nat) - 1075 : Int) := by positivity
      rw [next, two_zpow_add_one]
      generalize (2 : ℚ) ^ ((n / 2 ^ 52 : Nat) - 1075 : Int) = u at unit ⊢
      norm_num
      linarith

theorem nth_strictMono : StrictMono nth := strictMono_nat_of_lt_succ nth_lt_succ

theorem worth_neg (p : Int) : worth (-p) = -worth p := by
  simp [worth]

theorem worth_natCast (n : Nat) : worth n = nth n := by
  rcases Nat.eq_zero_or_pos n with rfl | some
  · simp [worth, nth_zero]
  · rw [worth, Int.sign_natCast_of_ne_zero some.ne', Int.natAbs_natCast]
    simp

/-- The number with the higher rank stands for more. -/
theorem worth_strictMono : StrictMono worth := by
  refine strictMono_of_odd_strictMonoOn_nonneg worth_neg fun p hp q hq less => ?_
  obtain ⟨m, rfl⟩ := Int.eq_ofNat_of_zero_le hp
  obtain ⟨n, rfl⟩ := Int.eq_ofNat_of_zero_le hq
  rw [worth_natCast, worth_natCast]
  exact nth_strictMono (Int.ofNat_lt.1 less)

theorem worth_abs (p : Int) : worth |p| = |worth p| := by
  have zero : worth 0 = 0 := by simp [worth]
  rcases le_total 0 p with h | h
  · rw [abs_of_nonneg h, abs_of_nonneg (zero ▸ worth_strictMono.monotone h)]
  · rw [abs_of_nonpos h, abs_of_nonpos (zero ▸ worth_strictMono.monotone h), worth_neg]

/-- A significand and an exponent stand for their product, even if the significand has one bit too
many. -/
theorem worth_magnitude {q : Nat} {u : Int} (short : q ≤ 2 ^ 53) (least : -1074 ≤ u)
    (leading : 2 ^ 52 ≤ q ∨ u = -1074) : worth (magnitude q u) = q * 2 ^ u := by
  obtain ⟨n, hn⟩ := Int.eq_ofNat_of_zero_le
    (show 0 ≤ magnitude q u by simp only [magnitude]; omega)
  rw [hn, worth_natCast]
  simp only [magnitude] at hn
  rcases Nat.lt_or_ge q (2 ^ 52) with few | many
  · obtain rfl : u = -1074 := by omega
    have field : n / 2 ^ 52 = 0 := by omega
    have fraction : n % 2 ^ 52 = q := by omega
    rw [nth, if_pos field, fraction]
  · rcases short.lt_or_eq with fits | rfl
    · have field : n / 2 ^ 52 = (u + 1075).toNat := by omega
      have fraction : 2 ^ 52 + n % 2 ^ 52 = q := by omega
      have exponent : ((u + 1075).toNat : Int) - 1075 = u := by omega
      rw [nth, if_neg (by omega), fraction, field, exponent]
    · have field : n / 2 ^ 52 = (u + 1076).toNat := by omega
      have fraction : n % 2 ^ 52 = 0 := by omega
      have exponent : ((u + 1076).toNat : Int) - 1075 = u + 1 := by omega
      rw [nth, if_neg (by omega), fraction, field, exponent, two_zpow_add_one]
      push_cast
      ring

theorem worth_apply (s : Sign) (p : Int) : worth (s.apply p) = s.apply 1 * worth p := by
  cases s <;> simp [Sign.apply, worth_neg]

theorem abs_apply (s : Sign) (p : Int) : |s.apply p| = |p| := by
  cases s with
  | positive => rfl
  | negative => exact abs_neg p

/-! ## The values of numbers -/

theorem fieldOf_toNat (b : BitVec 64) : (fieldOf b).toNat = b.toNat / 2 ^ 52 % 2 ^ 11 := by
  show (BitVec.cast rfl (BitVec.extractLsb 62 52 b)).toNat = _
  rw [BitVec.toNat_cast, BitVec.extractLsb_toNat, Nat.shiftRight_eq_div_pow]

theorem fractionOf_toNat (b : BitVec 64) : (fractionOf b).toNat = b.toNat % 2 ^ 52 := by
  show (BitVec.cast rfl (BitVec.extractLsb 51 0 b)).toNat = _
  rw [BitVec.toNat_cast, BitVec.extractLsb_toNat, Nat.shiftRight_zero]

theorem signOf_eq (b : BitVec 64) :
    signOf b = if b.toNat / 2 ^ 63 % 2 = 1 then .negative else .positive := by
  have bit : (@UnpackedFloat.unpackSign .binary64 b).toNat = b.toNat / 2 ^ 63 % 2 := by
    show (BitVec.cast rfl (BitVec.extractLsb 63 63 b)).toNat = _
    rw [BitVec.toNat_cast, BitVec.extractLsb_toNat, Nat.shiftRight_eq_div_pow]
  rw [signOf, Sign.ofBitVec, ← bit]
  rcases BitVec.eq_zero_or_eq_one (@UnpackedFloat.unpackSign .binary64 b) with h | h
  · rw [h]
    rfl
  · rw [h]
    rfl

/-- The bits of a number. -/
def bits (x : Float) : BitVec 64 := x.toModel.toBits.toBitVec

variable {x a b : Float} {p q : Int}

/-- Both ways of taking a number apart come to the same. -/
theorem parts_eq (x : Float) : parts x =
    if (fieldOf (bits x)).toNat = 2047 then
      if (fractionOf (bits x)).toNat = 0 then .infinite (signOf (bits x) == .negative) else .nan
    else if (fieldOf (bits x)).toNat = 0 then
      .finite (signOf (bits x) == .negative) (fractionOf (bits x)).toNat (-1074)
    else
      .finite (signOf (bits x) == .negative) (2 ^ 52 + (fractionOf (bits x)).toNat)
        ((fieldOf (bits x)).toNat - 1075) := by
  have sign : (signOf (bits x) == .negative) = ((bits x).toNat / 2 ^ 63 % 2 == 1) := by
    rw [signOf_eq]
    cases ((bits x).toNat / 2 ^ 63 % 2).decEq 1 with
    | isTrue h =>
      rw [if_pos h, h]
      rfl
    | isFalse h =>
      rw [if_neg h, beq_eq_false_iff_ne.2 h]
      rfl
  rw [sign, fieldOf_toNat, fractionOf_toNat]
  rfl

/-- The rank of a finite number is what its bits spell, and some of the bits of its exponent are not
set. -/
theorem rank_eq_bits (h : rank (content x) = some p) (finite : |p| < summit) :
    p = (signOf (bits x)).apply ((fieldOf (bits x)).toNat * 2 ^ 52 + (fractionOf (bits x)).toNat) ∧
      (fieldOf (bits x)).toNat ≠ 2047 := by
  have ranked : rank (content x) = _ := rank_unpacked (bits x)
  rw [h] at ranked
  split_ifs at ranked with undefined
  obtain rfl := Option.some.inj ranked
  refine ⟨rfl, fun all => ?_⟩
  rw [all, abs_apply, abs_of_nonneg (by positivity), summit] at finite
  omega

/-- What a number stands for depends on its rank only. -/
theorem exact_eq_worth (h : rank (content x) = some p) (finite : |p| < summit) :
    exact x = worth p := by
  have short : (fractionOf (bits x)).toNat < 2 ^ 52 := (fractionOf (bits x)).isLt
  obtain ⟨rfl, proper⟩ := rank_eq_bits h finite
  rw [← Nat.cast_ofNat (n := 2), ← Nat.cast_pow, ← Nat.cast_mul, ← Nat.cast_add, worth_apply,
    worth_natCast, exact, parts_eq, if_neg proper, nth]
  have field : ((fieldOf (bits x)).toNat * 2 ^ 52 + (fractionOf (bits x)).toNat) / 2 ^ 52 =
    (fieldOf (bits x)).toNat := by omega
  have fraction : ((fieldOf (bits x)).toNat * 2 ^ 52 + (fractionOf (bits x)).toNat) % 2 ^ 52 =
    (fractionOf (bits x)).toNat := by omega
  have sign : (if (signOf (bits x) == .negative) = true then (-1 : ℚ) else 1) =
      ((signOf (bits x)).apply 1 : Int) := by
    cases signOf (bits x) <;> simp [Sign.apply]
  rw [field, fraction, ← sign]
  by_cases least : (fieldOf (bits x)).toNat = 0
  · rw [if_pos least, if_pos least]
  · rw [if_neg least, if_neg least]

/-! ## Comparing -/

/-- The finite numbers are those whose rank is not that of an infinity. -/
theorem isFinite_iff : Arith.isFinite x = true ↔ ∃ p, rank (content x) = some p ∧ |p| < summit := by
  have fits := fits_content x
  have same : Arith.isFinite x = (content x).isFinite := rfl
  rw [same]
  generalize content x = u at fits ⊢
  cases u with
  | notANumber => simp [UnpackedFloat.isFinite, rank]
  | infinity s =>
    constructor
    · intro h
      cases h
    · rintro ⟨p, hp, finite⟩
      obtain rfl := Option.some.inj hp
      rw [abs_apply, abs_of_pos summit_pos] at finite
      exact absurd finite (lt_irrefl _)
  | zero s => exact ⟨fun _ => ⟨0, rfl, summit_pos⟩, fun _ => rfl⟩
  | finite s m e hm =>
    refine ⟨fun _ => ⟨_, rfl, ?_⟩, fun _ => rfl⟩
    rw [abs_apply, abs_of_pos (fits.1.magnitude_pos hm)]
    exact fits.1.magnitude_lt fits.2

theorem content_cases (h : Arith.isFinite x = true) : (∃ s, content x = .zero s) ∨
    ∃ s m e hm, content x = .finite s m e hm := by
  have same : (content x).isFinite = true := h
  generalize content x = u at same ⊢
  cases u with
  | notANumber => cases same
  | infinity s => cases same
  | zero s => exact .inl ⟨s, rfl⟩
  | finite s m e hm => exact .inr ⟨s, m, e, hm, rfl⟩

theorem le_iff_of_rank (ha : rank (content a) = some p) (hb : rank (content b) = some q) :
    a ≤ b ↔ worth p ≤ worth q := by
  have compared : a ≤ b ↔ (content a).le (content b) = true := by
    show decide (a.toModel ≤ b.toModel) = true ↔ _
    rw [decide_eq_true_iff]
    rfl
  rw [compared, le_iff (fits_content a) (fits_content b), ha, hb, worth_strictMono.le_iff_le]
  simp

section Finite

variable (ha : Arith.isFinite a = true) (hb : Arith.isFinite b = true)

include ha hb

theorem exact_le_iff : a ≤ b ↔ exact a ≤ exact b := by
  obtain ⟨p, hp, near⟩ := isFinite_iff.1 ha
  obtain ⟨q, hq, near'⟩ := isFinite_iff.1 hb
  rw [le_iff_of_rank hp hq, exact_eq_worth hp near, exact_eq_worth hq near']

theorem exact_lt_iff : a < b ↔ exact a < exact b := by
  obtain ⟨p, hp, near⟩ := isFinite_iff.1 ha
  obtain ⟨q, hq, near'⟩ := isFinite_iff.1 hb
  rw [content_lt_iff, hp, hq, exact_eq_worth hp near, exact_eq_worth hq near',
    worth_strictMono.lt_iff_lt]
  simp

theorem exact_eq_iff : (a == b) = true ↔ exact a = exact b := by
  obtain ⟨p, hp, near⟩ := isFinite_iff.1 ha
  obtain ⟨q, hq, near'⟩ := isFinite_iff.1 hb
  have compared : (a == b) = (content a).beq (content b) := rfl
  rw [compared, beq_iff (fits_content a) (fits_content b), hp, hq, exact_eq_worth hp near,
    exact_eq_worth hq near', worth_strictMono.injective.eq_iff]
  simp [eq_comm]

end Finite

/-! ## Calculating -/

theorem rank_abs (h : rank (content a) = some p) : rank (content (Arith.abs a)) = some |p| := by
  have fits := fits_content a
  show written (content a).abs = _
  cases ha : content a with
  | notANumber => rw [ha] at h; cases h
  | infinity s =>
    rw [ha] at h
    obtain rfl := Option.some.inj h
    rw [abs_apply, abs_of_pos summit_pos]
    exact written_infinity _
  | zero s =>
    rw [ha] at h
    obtain rfl := Option.some.inj h
    exact written_zero _
  | finite s m e hm =>
    rw [ha] at h fits
    obtain rfl := Option.some.inj h
    rw [abs_apply, abs_of_pos (fits.1.magnitude_pos hm)]
    exact written_finite _ fits

theorem exact_abs (h : Arith.isFinite a = true) :
    Arith.isFinite (Arith.abs a) = true ∧ exact (Arith.abs a) = |exact a| := by
  obtain ⟨p, hp, near⟩ := isFinite_iff.1 h
  have near' : |(|p|)| < summit := by rwa [abs_abs]
  refine ⟨isFinite_iff.2 ⟨_, rank_abs hp, near'⟩, ?_⟩
  rw [exact_eq_worth (rank_abs hp) near', exact_eq_worth hp near, worth_abs]

theorem exact_zero {s : Sign} (h : content x = .zero s) : exact x = 0 := by
  rw [exact_eq_worth (p := 0) (h ▸ rfl) summit_pos]
  simp [worth]

theorem exact_finite {s : Sign} {m : Nat} {e : Int} {hm : 0 < m}
    (h : content x = .finite s m e hm) : exact x = s.apply m * 2 ^ e := by
  have fits : Fits (.finite s m e hm) := h ▸ fits_content x
  have near : |s.apply (magnitude m e)| < summit := by
    rw [abs_apply, abs_of_pos (fits.1.magnitude_pos hm)]
    exact fits.1.magnitude_lt fits.2
  rw [exact_eq_worth (h ▸ rfl) near, worth_apply,
    worth_magnitude fits.1.short.le fits.1.least fits.1.leading, ← mul_assoc]
  cases s <;> simp [Sign.apply]

theorem abs_exact {s : Sign} {m : Nat} {e : Int} {hm : 0 < m} (h : content x = .finite s m e hm) :
    |exact x| = m * 2 ^ e := by
  rw [exact_finite h, abs_mul, abs_of_pos (by positivity : (0 : ℚ) < 2 ^ e), ← Int.cast_abs,
    abs_apply, Nat.abs_cast, Int.cast_natCast]

/-! ## Rounding -/

/-- The infinities stand for the power of two that follows. -/
theorem worth_summit : worth summit = 2 ^ 1024 := by
  have edge := worth_magnitude (q := 2 ^ 52) (u := 972) (by decide) (by decide) (.inl le_rfl)
  rw [show magnitude (2 ^ 52) 972 = summit from rfl] at edge
  rw [edge, Nat.cast_pow, Nat.cast_ofNat, ← zpow_natCast, ← zpow_natCast, ← zpow_add₀ two_ne_zero]
  rfl

theorem two_zpow_log2_le {m : Nat} (hm : 0 < m) : (2 : ℚ) ^ (m.log2 : Int) ≤ m := by
  rw [zpow_natCast]
  exact_mod_cast Nat.log2_self_le hm.ne'

theorem shiftRight_mul (c n : Nat) : (⟨c * 2 ^ n, false, false⟩ : ExtendedMantissa) >>> n =
    ⟨c, false, false⟩ := by
  induction n generalizing c with
  | zero => simp; rfl
  | succ n ih =>
    show ((⟨c * 2 ^ (n + 1), false, false⟩ : ExtendedMantissa) >>> n).shiftRightOne = _
    rw [Nat.pow_succ', ← Nat.mul_assoc, ih]
    simp [ExtendedMantissa.shiftRightOne]

/-- What can be represented is a multiple of its unit. -/
theorem exists_scaled {m c : Nat} {e f : Int} (hm : 0 < m) (same : (m : ℚ) * 2 ^ e = c * 2 ^ f)
    (short : c < 2 ^ 53) (least : -1074 ≤ f) :
    ∃ k, scaled m e = ⟨k, false, false⟩ ∧ (k : ℚ) * 2 ^ unit m e = m * 2 ^ e := by
  have logs : (m.log2 : Int) + e < 53 + f := by
    have below : (2 : ℚ) ^ ((m.log2 : Int) + e) < 2 ^ (53 + f) := calc
      (2 : ℚ) ^ ((m.log2 : Int) + e) = 2 ^ (m.log2 : Int) * 2 ^ e := zpow_add₀ two_ne_zero _ _
      _ ≤ m * 2 ^ e := mul_le_mul_of_nonneg_right (two_zpow_log2_le hm) (by positivity)
      _ = c * 2 ^ f := same
      _ < 2 ^ 53 * 2 ^ f := mul_lt_mul_of_pos_right (by exact_mod_cast short) (by positivity)
      _ = 2 ^ (53 + f) := by rw [zpow_add₀ two_ne_zero]; norm_num
    exact (zpow_lt_zpow_iff_right₀ one_lt_two).1 below
  have coarse : unit m e ≤ f := by
    unfold unit
    omega
  rcases le_total (unit m e) e with left | right
  · refine ⟨m <<< (e - unit m e).toNat, ?_, ?_⟩
    · rw [scaled, Int.toNat_eq_zero.2 (by omega : unit m e - e ≤ 0)]
      rfl
    · rw [Nat.shiftLeft_eq, Nat.cast_mul, Nat.cast_pow, Nat.cast_ofNat, mul_assoc,
        two_pow_toNat_mul left]
  · -- all that is shifted out is zero
    have split : m = c * 2 ^ (f - unit m e).toNat * 2 ^ (unit m e - e).toNat := by
      rw [← two_pow_toNat_mul coarse, ← two_pow_toNat_mul right, ← mul_assoc, ← mul_assoc] at same
      exact_mod_cast mul_right_cancel₀ (by positivity) same
    refine ⟨c * 2 ^ (f - unit m e).toNat, ?_, ?_⟩
    · rw [scaled, Int.toNat_eq_zero.2 (by omega : e - unit m e ≤ 0), Nat.shiftLeft_zero]
      have shifted := shiftRight_mul (c * 2 ^ (f - unit m e).toNat) (unit m e - e).toNat
      rwa [← split] at shifted
    · rw [same, Nat.cast_mul, Nat.cast_pow, Nat.cast_ofNat, mul_assoc, two_pow_toNat_mul coarse]

/-- It is left as it is. -/
theorem worth_rounded {m c : Nat} {e f : Int} (hm : 0 < m) (same : (m : ℚ) * 2 ^ e = c * 2 ^ f)
    (short : c < 2 ^ 53) (least : -1074 ≤ f) (near : (m : ℚ) * 2 ^ e < 2 ^ 1024) :
    worth (rounded m e) = m * 2 ^ e := by
  obtain ⟨k, whole, value⟩ := exists_scaled hm same short least
  have kept : significand m e = k := by
    rw [significand, whole]
    rfl
  obtain ⟨bounded, leading⟩ := significand_bounds hm e
  have valued := worth_magnitude bounded (least_unit m e) leading
  rw [kept, value] at valued
  have below : magnitude (significand m e) (unit m e) < summit := by
    rw [← worth_strictMono.lt_iff_lt, kept, valued, worth_summit]
    exact near
  rw [rounded, min_eq_left below.le, kept, valued]

/-- Rounding overshoots by at most a unit, which is a small part of the number unless it is the
least of all units. -/
theorem worth_rounded_le {m : Nat} {e : Int} (hm : 0 < m) (coarse : e ≤ unit m e) :
    worth (rounded m e) ≤ m * 2 ^ e * (1 + 2 ^ (-52 : Int)) + 2 ^ (-1074 : Int) := by
  obtain ⟨bounded, leading⟩ := significand_bounds hm e
  have above := (roundedMantissa_bounds (scaled m e)).2
  rw [mantissa_scaled, Int.toNat_eq_zero.2 (by omega : e - unit m e ≤ 0), Nat.pow_zero,
    Nat.mul_one] at above
  have down : ((m / 2 ^ (unit m e - e).toNat : Nat) : ℚ) * 2 ^ unit m e ≤ m * 2 ^ e := by
    have floor : ((m / 2 ^ (unit m e - e).toNat * 2 ^ (unit m e - e).toNat : Nat) : ℚ) ≤ m :=
      by exact_mod_cast Nat.div_mul_le_self m _
    rw [← two_pow_toNat_mul coarse, ← mul_assoc]
    refine mul_le_mul_of_nonneg_right ?_ (by positivity)
    exact_mod_cast floor
  have small : (2 : ℚ) ^ unit m e ≤ m * 2 ^ e * 2 ^ (-52 : Int) + 2 ^ (-1074 : Int) := by
    rcases max_choice ((m.log2 : Int) + 1 + e - 53) (-1074) with normal | least
    · have split : (2 : ℚ) ^ unit m e = 2 ^ (m.log2 : Int) * 2 ^ e * 2 ^ (-52 : Int) := by
        rw [unit, normal, ← zpow_add₀ two_ne_zero, ← zpow_add₀ two_ne_zero]
        congr 1
        omega
      rw [split]
      have first := mul_le_mul_of_nonneg_right (two_zpow_log2_le hm)
        (by positivity : (0 : ℚ) ≤ 2 ^ e * 2 ^ (-52 : Int))
      rw [← mul_assoc, ← mul_assoc] at first
      exact first.trans (le_add_of_nonneg_right (by positivity))
    · rw [unit, least]
      exact le_add_of_nonneg_left (by positivity)
  calc worth (rounded m e)
      ≤ worth (magnitude (significand m e) (unit m e)) :=
        worth_strictMono.monotone (min_le_left _ _)
    _ = significand m e * 2 ^ unit m e := worth_magnitude bounded (least_unit m e) leading
    _ ≤ ((m / 2 ^ (unit m e - e).toNat : Nat) + 1) * 2 ^ unit m e :=
        mul_le_mul_of_nonneg_right (by exact_mod_cast above) (by positivity)
    _ ≤ m * 2 ^ e * (1 + 2 ^ (-52 : Int)) + 2 ^ (-1074 : Int) := by
        rw [add_mul, one_mul, mul_add, mul_one, add_assoc]
        exact add_le_add down small

/-! ## Differences and products -/

theorem worth_settled {z c : Int} {e f : Int} (same : (z : ℚ) * 2 ^ e = c * 2 ^ f)
    (short : c.natAbs < 2 ^ 53) (least : -1074 ≤ f) (near : |(z : ℚ) * 2 ^ e| < 2 ^ 1024) :
    worth (settled z e) = z * 2 ^ e := by
  have power (g : Int) : |(2 : ℚ) ^ g| = 2 ^ g := abs_of_pos (by positivity)
  rcases eq_or_ne z 0 with rfl | some
  · rw [settled_zero]
    simp [worth]
  · have sized : worth (rounded z.natAbs e) = z.natAbs * 2 ^ e := by
      refine worth_rounded (c := c.natAbs) (f := f) (Int.natAbs_pos.2 some) ?_ short least ?_
      · have sizes := congrArg abs same
        rwa [abs_mul, abs_mul, power, power, ← Int.cast_abs, ← Int.cast_abs, Int.abs_eq_natAbs,
          Int.abs_eq_natAbs] at sizes
      · rwa [abs_mul, power, ← Int.cast_abs, Int.abs_eq_natAbs] at near
    rw [settled]
    rcases lt_or_gt_of_ne some with down | up
    · have size : (z.natAbs : ℚ) = -z := by
        rw [Nat.cast_natAbs, abs_of_neg down, Int.cast_neg]
      rw [Int.sign_eq_neg_one_of_neg down, neg_one_mul, worth_neg, sized, size]
      ring
    · have size : (z.natAbs : ℚ) = z := by rw [Nat.cast_natAbs, abs_of_pos up]
      rw [Int.sign_eq_one_of_pos up, one_mul, sized, size]

theorem exact_of_rank {v : ℚ} (h : rank (content x) = some p) (value : worth p = v)
    (near : |v| < 2 ^ 1024) : Arith.isFinite x = true ∧ exact x = v := by
  have below : |p| < summit := by
    rwa [← worth_strictMono.lt_iff_lt, worth_abs, worth_summit, value]
  exact ⟨isFinite_iff.2 ⟨p, h, below⟩, (exact_eq_worth h below).trans value⟩

theorem multiple_mul (s : Sign) (m : Nat) {e g : Int} (h : g ≤ e) :
    (multiple s m e g : ℚ) * 2 ^ g = s.apply m * 2 ^ e := by
  have size : ((m <<< (e - g).toNat : Nat) : ℚ) * 2 ^ g = m * 2 ^ e := by
    rw [Nat.shiftLeft_eq, Nat.cast_mul, Nat.cast_pow, Nat.cast_ofNat, mul_assoc,
      two_pow_toNat_mul h]
  cases s with
  | positive => exact size
  | negative =>
    rw [multiple, Sign.apply, Sign.apply, Int.cast_neg, Int.cast_neg, neg_mul, neg_mul]
    exact congrArg _ size

/-- The difference of two numbers is exact if it can be represented. -/
theorem exact_sub (ha : Arith.isFinite a = true) (hb : Arith.isFinite b = true) {c f : Int}
    (same : exact a - exact b = c * 2 ^ f) (short : c.natAbs < 2 ^ 53) (least : -1074 ≤ f)
    (near : |exact a - exact b| < 2 ^ 1024) :
    Arith.isFinite (a - b) = true ∧ exact (a - b) = exact a - exact b := by
  have result : rank (content (a - b)) = written (.sub .binary64 (content a) (content b)) := rfl
  have fits := fits_content a
  have fits' := fits_content b
  rcases content_cases ha with ⟨s, hx⟩ | ⟨s, m, e, hm, hx⟩ <;>
    rcases content_cases hb with ⟨t, hy⟩ | ⟨t, n, f', hn, hy⟩ <;> rw [hx, hy] at result
  · have nothing : rank (content (a - b)) = some 0 := by
      rw [result]
      cases s <;> cases t <;> exact written_zero _
    refine exact_of_rank nothing ?_ near
    rw [exact_zero hx, exact_zero hy]
    simp [worth]
  · rw [hy] at fits'
    refine exact_of_rank (result.trans (written_finite (-t) fits')) ?_ near
    rw [worth_apply, worth_magnitude fits'.1.short.le fits'.1.least fits'.1.leading, exact_zero hx,
      exact_finite hy]
    cases t <;> simp [Sign.apply]
  · rw [hx] at fits
    refine exact_of_rank (result.trans (written_finite s fits)) ?_ near
    rw [worth_apply, worth_magnitude fits.1.short.le fits.1.least fits.1.leading, exact_zero hy,
      exact_finite hx]
    cases s <;> simp [Sign.apply]
  · have difference : ((multiple s m e (min e f') - multiple t n f' (min e f') : Int) : ℚ) *
        2 ^ min e f' = exact a - exact b := by
      rw [Int.cast_sub, sub_mul, multiple_mul _ _ (min_le_left ..),
        multiple_mul _ _ (min_le_right ..), exact_finite hx, exact_finite hy]
    refine exact_of_rank (result.trans rank_sub) ?_ near
    rw [← difference] at same near ⊢
    exact worth_settled same short least near

theorem rank_mul {s t : Sign} {m n : Nat} {e f : Int} {hm : 0 < m} {hn : 0 < n}
    (ha : content a = .finite s m e hm) (hb : content b = .finite t n f hn)
    (coarse : e + f ≤ unit (m * n) (e + f)) :
    rank (content (a * b)) = some ((s * t).apply (rounded (m * n) (e + f))) := by
  have product : rank (content (a * b)) = written (.mul .binary64 (content a) (content b)) := rfl
  have unshifted : UnpackedFloat.decreaseExponent (m * n) (e + f) (unit (m * n) (e + f)) =
      (m * n, e + f) := by
    rw [UnpackedFloat.decreaseExponent, Int.toNat_eq_zero.2 (by omega)]
    simp
  have rounding : UnpackedFloat.round .binary64 (s * t) (m * n) (e + f) =
      .roundWithAccuracy .binary64 (s * t) (m * n) (e + f) .exact := by
    have steps : UnpackedFloat.round .binary64 (s * t) (m * n) (e + f) =
      let p := UnpackedFloat.decreaseExponent (m * n) (e + f) (unit (m * n) (e + f))
      .roundWithAccuracy .binary64 (s * t) p.1 p.2 .exact := rfl
    rw [steps, unshifted]
  rw [product, ha, hb, ← rank_round _ (Nat.mul_pos hm hn), rounding]
  rfl

/-- Rounding a product overshoots little, if the first factor has all its bits. -/
theorem exact_le_abs_mul {s : Sign} {m : Nat} {e : Int} {hm : 0 < m}
    (ha : content a = .finite s m e hm) (long : 2 ^ 52 ≤ m) (hb : Arith.isFinite b = true)
    (hx : Arith.isFinite x = true) (h : x ≤ Arith.abs (a * b)) :
    exact x ≤ |exact a * exact b| * (1 + 2 ^ (-52 : Int)) + 2 ^ (-1074 : Int) := by
  obtain ⟨p, hp, near⟩ := isFinite_iff.1 hx
  rw [exact_eq_worth hp near]
  rcases content_cases hb with ⟨t, hy⟩ | ⟨t, n, f, hn, hy⟩
  · have product : rank (content (a * b)) = written (.mul .binary64 (content a) (content b)) := rfl
    rw [ha, hy] at product
    rw [le_iff_of_rank hp (rank_abs (product.trans (written_zero _)))] at h
    refine (h.trans_eq ?_).trans (by positivity)
    simp [worth]
  · have positive : 0 < m * n := Nat.mul_pos hm hn
    have coarse : e + f ≤ unit (m * n) (e + f) := by
      have bits : 52 ≤ (m * n).log2 :=
        (Nat.le_log2 positive.ne').2 (long.trans (Nat.le_mul_of_pos_right m hn))
      refine le_trans ?_ (le_max_left _ _)
      omega
    have size : |exact a * exact b| = ((m * n : Nat) : ℚ) * 2 ^ (e + f) := by
      rw [abs_mul, abs_exact ha, abs_exact hy, zpow_add₀ two_ne_zero, Nat.cast_mul]
      ring
    rw [le_iff_of_rank hp (rank_abs (rank_mul ha hy coarse)), abs_apply,
      abs_of_nonneg (rounded_nonneg _ _)] at h
    rw [size]
    exact h.trans (worth_rounded_le positive coarse)

end Binary64

end DiagramScript
