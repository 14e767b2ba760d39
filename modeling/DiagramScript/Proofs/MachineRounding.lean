import DiagramScript.Proofs.MachineRanks

/-!
# Rounding is monotone

Sums and differences of machine numbers are calculated without error, as a whole number times a
power of two, and then rounded to the nearest machine number.  A larger whole number never leads to
a smaller one.

* `Binary64.quarters` — a significand together with what has been shifted out of it, as one number.
  Shifting and rounding are monotone in it.
* `Binary64.significand`, `Binary64.unit` — what a whole number times a power of two is rounded to.
* `Binary64.rank_round`, `Binary64.rounded_le` — its rank, which grows with the whole number.
* `Binary64.rank_normalize`, `Binary64.settled_le` — the same with signs.
-/

namespace DiagramScript

namespace Binary64

open Float.Model (UnpackedFloat)
open Float.Model.UnpackedFloat (Sign ExtendedMantissa Accuracy)

/-! ## Shifting -/

/-- A significand with two more bits, in quarters.  The first of these is the bit that was shifted
out last, and the second tells whether any was set before. -/
def quarters (em : ExtendedMantissa) : Nat :=
  4 * em.mantissa + 2 * em.roundBit.toNat + em.stickyBit.toNat

theorem quarters_div (em : ExtendedMantissa) : quarters em / 4 = em.mantissa := by
  obtain ⟨m, round, sticky⟩ := em
  cases round <;> cases sticky <;> simp only [quarters, Bool.toNat_false, Bool.toNat_true] <;> omega

theorem quarters_shiftRightOne (em : ExtendedMantissa) :
    quarters em.shiftRightOne = 2 * (quarters em / 4) + min 1 (quarters em % 4) := by
  obtain ⟨m, round, sticky⟩ := em
  have odd : (m % 2 != 0).toNat = m % 2 := by
    rcases Nat.mod_two_eq_zero_or_one m with h | h <;> rw [h] <;> rfl
  simp only [quarters, ExtendedMantissa.shiftRightOne, odd]
  cases round <;> cases sticky <;>
    simp only [Bool.or_false, Bool.or_true, Bool.toNat_false, Bool.toNat_true] <;> omega

theorem quarters_shiftRight_le {em em' : ExtendedMantissa} (h : quarters em ≤ quarters em')
    (n : Nat) : quarters (em >>> n) ≤ quarters (em' >>> n) := by
  induction n with
  | zero => exact h
  | succ n ih =>
    show quarters (em >>> n).shiftRightOne ≤ quarters (em' >>> n).shiftRightOne
    rw [quarters_shiftRightOne, quarters_shiftRightOne]
    omega

theorem mantissa_shiftRight (em : ExtendedMantissa) (n : Nat) :
    (em >>> n).mantissa = em.mantissa / 2 ^ n := by
  induction n with
  | zero => exact (Nat.div_one _).symm
  | succ n ih =>
    show (em >>> n).mantissa / 2 = _
    rw [ih, Nat.div_div_eq_div_mul, Nat.pow_succ]

/-- Rounding goes to the nearest whole number, and to the even one of two. -/
theorem roundedMantissa_eq (em : ExtendedMantissa) :
    em.roundedMantissa = (quarters em + 1 + em.mantissa % 2) / 4 := by
  obtain ⟨m, round, sticky⟩ := em
  cases round <;> cases sticky <;>
    simp only [quarters, ExtendedMantissa.roundedMantissa, ExtendedMantissa.accuracy,
      Accuracy.roundToNearestEven, Bool.toNat_false, Bool.toNat_true] <;> omega

theorem roundedMantissa_bounds (em : ExtendedMantissa) :
    em.mantissa ≤ em.roundedMantissa ∧ em.roundedMantissa ≤ em.mantissa + 1 := by
  have whole := quarters_div em
  rw [roundedMantissa_eq]
  omega

theorem roundedMantissa_le {em em' : ExtendedMantissa} (h : quarters em ≤ quarters em') :
    em.roundedMantissa ≤ em'.roundedMantissa := by
  have first := quarters_div em
  have second := quarters_div em'
  rcases (Nat.div_le_div_right h : quarters em / 4 ≤ quarters em' / 4).lt_or_eq with less | same
  · have above := (roundedMantissa_bounds em).2
    have below := (roundedMantissa_bounds em').1
    omega
  · rw [roundedMantissa_eq, roundedMantissa_eq, ← first, ← second, same]
    exact Nat.div_le_div_right (by omega)

/-! ## Significands -/

/-- The exponent of the number nearest to `m * 2 ^ e`. -/
def unit (m : Nat) (e : Int) : Int := max ((m.log2 : Int) + 1 + e - 53) (-1074)

/-- The number `m * 2 ^ e` in units of that power of two, before it is rounded. -/
def scaled (m : Nat) (e : Int) : ExtendedMantissa :=
  (⟨m <<< (e - unit m e).toNat, false, false⟩ : ExtendedMantissa) >>> (unit m e - e).toNat

/-- Its significand, which may have one bit more than those of machine numbers. -/
def significand (m : Nat) (e : Int) : Nat := (scaled m e).roundedMantissa

theorem least_unit (m : Nat) (e : Int) : -1074 ≤ unit m e := le_max_right _ _

theorem log2_shiftLeft {m : Nat} (hm : 0 < m) (k : Nat) : (m <<< k).log2 = m.log2 + k := by
  have some : m <<< k ≠ 0 := by
    rw [Nat.shiftLeft_eq]
    exact (Nat.mul_pos hm (Nat.two_pow_pos k)).ne'
  rw [Nat.log2_eq_iff some, Nat.shiftLeft_eq, Nat.pow_add, Nat.add_right_comm, Nat.pow_add]
  exact ⟨Nat.mul_le_mul_right _ (Nat.log2_self_le hm.ne'),
    Nat.mul_lt_mul_of_pos_right Nat.lt_log2_self (Nat.two_pow_pos k)⟩

/-- The first shift, to the left or to the right, leads to the unit. -/
theorem shift_scaled {m : Nat} (hm : 0 < m) (e : Int) :
    let p := UnpackedFloat.decreaseExponent m e (unit m e)
    UnpackedFloat.shiftToTargetExponent .binary64 p.1 p.2 .exact = (scaled m e, unit m e) := by
  intro p
  have same : unit p.1 p.2 = unit m e := by
    show max (((m <<< (e - unit m e).toNat).log2 : Int) + 1 + (e - (e - unit m e).toNat) - 53)
      (-1074) = unit m e
    rw [log2_shiftLeft hm, unit]
    push_cast
    ring_nf
  show UnpackedFloat.shiftToExponent p.1 p.2 .exact (unit p.1 p.2) = _
  have amount : (unit m e - p.2).toNat = (unit m e - e).toNat := by
    show (unit m e - (e - (e - unit m e).toNat)).toNat = _
    omega
  rw [same, UnpackedFloat.shiftToExponent, amount]
  refine Prod.ext rfl ?_
  show e - (e - unit m e).toNat + ((unit m e - e).toNat : Int) = unit m e
  omega

theorem mantissa_scaled (m : Nat) (e : Int) :
    (scaled m e).mantissa = m * 2 ^ (e - unit m e).toNat / 2 ^ (unit m e - e).toNat := by
  rw [scaled, mantissa_shiftRight, Nat.shiftLeft_eq]

theorem significand_bounds {m : Nat} (hm : 0 < m) (e : Int) :
    significand m e ≤ 2 ^ 53 ∧ (2 ^ 52 ≤ significand m e ∨ unit m e = -1074) := by
  obtain ⟨below, above⟩ := roundedMantissa_bounds (scaled m e)
  rw [mantissa_scaled] at below above
  let k := (e - unit m e).toNat
  let n := (unit m e - e).toNat
  have target : unit m e = max ((m.log2 : Int) + 1 + e - 53) (-1074) := rfl
  constructor
  · have short : m * 2 ^ k < 2 ^ 53 * 2 ^ n := calc
      m * 2 ^ k < 2 ^ (m.log2 + 1) * 2 ^ k :=
        Nat.mul_lt_mul_of_pos_right Nat.lt_log2_self (Nat.two_pow_pos k)
      _ = 2 ^ (m.log2 + 1 + k) := (Nat.pow_add ..).symm
      _ ≤ 2 ^ (53 + n) := Nat.pow_le_pow_right Nat.two_pos (by omega)
      _ = 2 ^ 53 * 2 ^ n := Nat.pow_add ..
    exact above.trans (Nat.div_lt_of_lt_mul (short.trans_eq (Nat.mul_comm ..)))
  · by_cases least : unit m e = -1074
    · exact .inr least
    · have long : 2 ^ 52 * 2 ^ n ≤ m * 2 ^ k := calc
        2 ^ 52 * 2 ^ n = 2 ^ (52 + n) := (Nat.pow_add ..).symm
        _ ≤ 2 ^ (m.log2 + k) := Nat.pow_le_pow_right Nat.two_pos (by omega)
        _ = 2 ^ m.log2 * 2 ^ k := Nat.pow_add ..
        _ ≤ m * 2 ^ k := Nat.mul_le_mul_right _ (Nat.log2_self_le hm.ne')
      exact .inl (((Nat.le_div_iff_mul_le (Nat.two_pow_pos n)).2 long).trans below)

/-- The second shift takes away a bit too many. -/
theorem shift_significand {q : Nat} {e : Int} (short : q ≤ 2 ^ 53) (least : -1074 ≤ e) :
    let p := UnpackedFloat.shiftToTargetExponent .binary64 q e .exact
    (p.1.mantissa, p.2) = if q < 2 ^ 53 then (q, e) else (2 ^ 52, e + 1) := by
  show ((((⟨q, false, false⟩ : ExtendedMantissa) >>> (unit q e - e).toNat).mantissa,
    e + ((unit q e - e).toNat : Int)) : Nat × Int) = _
  rw [mantissa_shiftRight]
  split_ifs with h
  · have bits : q.log2 ≤ 52 := by
      rcases Nat.eq_zero_or_pos q with rfl | some
      · decide
      · exact Nat.le_of_lt_succ ((Nat.log2_lt some.ne').2 h)
    have none : (unit q e - e).toNat = 0 := by
      unfold unit
      omega
    rw [none]
    simp
  · obtain rfl : q = 2 ^ 53 := by omega
    have one : (unit (2 ^ 53) e - e).toNat = 1 := by
      unfold unit
      rw [Nat.log2_two_pow]
      omega
    rw [one]
    rfl

/-- It does not change the rank. -/
theorem shift_rounded {q : Nat} {e : Int} (short : q ≤ 2 ^ 53) (least : -1074 ≤ e)
    (leading : 2 ^ 52 ≤ q ∨ e = -1074) :
    let p := UnpackedFloat.shiftToTargetExponent .binary64 q e .exact
    IsRounded p.1.mantissa p.2 ∧ magnitude p.1.mantissa p.2 = magnitude q e := by
  intro p
  have shifted : (p.1.mantissa, p.2) = _ := shift_significand short least
  split_ifs at shifted with h
  · obtain ⟨same, same'⟩ := Prod.mk.inj shifted
    rw [same, same']
    exact ⟨⟨h, least, leading⟩, rfl⟩
  · obtain ⟨same, same'⟩ := Prod.mk.inj shifted
    rw [same, same']
    refine ⟨⟨by decide, by omega, .inl le_rfl⟩, ?_⟩
    simp only [magnitude]
    omega

/-! ## Rounding -/

/-- The rank of the number nearest to `m * 2 ^ e`. -/
def rounded (m : Nat) (e : Int) : Int := min (magnitude (significand m e) (unit m e)) summit

theorem rank_round (s : Sign) {m : Nat} (hm : 0 < m) (e : Int) :
    written (.round .binary64 s m e) = some (s.apply (rounded m e)) := by
  let p := UnpackedFloat.decreaseExponent m e (unit m e)
  let first := UnpackedFloat.shiftToTargetExponent .binary64 p.1 p.2 .exact
  let last := UnpackedFloat.shiftToTargetExponent .binary64 first.1.roundedMantissa first.2 .exact
  have result : UnpackedFloat.round .binary64 s m e = if h : last.1.mantissa = 0 then .zero s
      else .finite s last.1.mantissa last.2 (Nat.pos_of_ne_zero h) := rfl
  have start : first = (scaled m e, unit m e) := shift_scaled hm e
  have finish : IsRounded last.1.mantissa last.2 ∧
      magnitude last.1.mantissa last.2 = magnitude (significand m e) (unit m e) := by
    obtain ⟨short, leading⟩ := significand_bounds hm e
    have shifted := shift_rounded short (least_unit m e) leading
    simp only [last, start]
    exact shifted
  obtain ⟨isRounded, same⟩ := finish
  rw [result, rounded, ← same]
  split_ifs with zero
  · have least : last.2 = -1074 := by
      rcases isRounded.leading with long | least
      · omega
      · exact least
    rw [written_zero, zero, least]
    cases s <;> rfl
  · exact rank_packed s isRounded (Nat.pos_of_ne_zero zero)

theorem rounded_nonneg (m : Nat) (e : Int) : 0 ≤ rounded m e := by
  have least := least_unit m e
  refine le_min ?_ summit_pos.le
  simp only [magnitude]
  omega

/-- Rounding is monotone.  Where the larger number has a larger unit, its significand has all bits;
otherwise the two are shifted and rounded in the same way. -/
theorem rounded_le {m n : Nat} (hm : 0 < m) (h : m ≤ n) (e : Int) : rounded m e ≤ rounded n e := by
  refine min_le_min_right _ ?_
  have logs : m.log2 ≤ n.log2 :=
    (Nat.le_log2 (hm.trans_le h).ne').2 ((Nat.log2_self_le hm.ne').trans h)
  have units : unit m e ≤ unit n e := by
    unfold unit
    omega
  have least := least_unit m e
  rcases units.lt_or_eq with less | same
  · obtain ⟨short, -⟩ := significand_bounds hm e
    obtain ⟨-, leading⟩ := significand_bounds (hm.trans_le h) e
    simp only [magnitude]
    omega
  · have ordered : significand m e ≤ significand n e := by
      refine roundedMantissa_le ?_
      rw [scaled, scaled, same]
      refine quarters_shiftRight_le ?_ _
      have shifted := Nat.mul_le_mul_right (2 ^ (e - unit n e).toNat) h
      simp only [quarters, Nat.shiftLeft_eq]
      omega
    rw [magnitude, magnitude, same]
    omega

/-- The rank of the number nearest to `z * 2 ^ e`. -/
def settled (z e : Int) : Int := z.sign * rounded z.natAbs e

theorem rank_normalize (z e : Int) :
    written (.normalize .binary64 z e .positive) = some (settled z e) := by
  unfold UnpackedFloat.normalize settled
  rcases lt_trichotomy z 0 with h | rfl | h
  · rw [compare_lt_iff_lt.2 h, Int.sign_eq_neg_one_of_neg h]
    refine (rank_round .negative (by omega) e).trans (congrArg some ?_)
    rw [show (-z).toNat = z.natAbs by omega]
    exact (neg_one_mul _).symm
  · rw [compare_eq_iff_eq.2 rfl]
    exact (written_zero .positive).trans (congrArg some (Int.zero_mul _).symm)
  · rw [compare_gt_iff_gt.2 h, Int.sign_eq_one_of_pos h]
    refine (rank_round .positive (by omega) e).trans (congrArg some ?_)
    rw [show z.toNat = z.natAbs by omega]
    exact (one_mul _).symm

theorem settled_zero (e : Int) : settled 0 e = 0 := Int.zero_mul _

theorem settled_le {z w : Int} (h : z ≤ w) (e : Int) : settled z e ≤ settled w e := by
  unfold settled
  have first := rounded_nonneg z.natAbs e
  have second := rounded_nonneg w.natAbs e
  rcases lt_trichotomy z 0 with hz | rfl | hz
  · rw [Int.sign_eq_neg_one_of_neg hz]
    rcases lt_trichotomy w 0 with hw | rfl | hw
    · have ordered : rounded w.natAbs e ≤ rounded z.natAbs e :=
        rounded_le (by omega) (by omega) e
      rw [Int.sign_eq_neg_one_of_neg hw]
      omega
    · rw [Int.sign_zero]
      omega
    · rw [Int.sign_eq_one_of_pos hw]
      omega
  · rw [Int.sign_zero, Int.zero_mul]
    exact mul_nonneg (Int.sign_nonneg_iff.2 h) second
  · have ordered : rounded z.natAbs e ≤ rounded w.natAbs e :=
      rounded_le (by omega) (by omega) e
    rw [Int.sign_eq_one_of_pos hz, Int.sign_eq_one_of_pos (hz.trans_le h)]
    omega

end Binary64

end DiagramScript
