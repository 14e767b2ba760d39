import Mathlib
import DiagramScript.Number.Marked

/-!
# Ranks of machine numbers

A number of 64 bits has a rank, which is what its bits spell after the sign: a whole number, which
grows by one from each number to the next.  Undefined numbers have none.

* `Binary64.rank`, `Binary64.compare_eq` — numbers are compared as their ranks are, so that of two
  the one with the lower rank is the smaller.
* `Binary64.rank_unpacked` — the rank as the bits spell it.
* `Binary64.written`, `Binary64.written_of_fits` — what becomes of a result when it is packed into
  bits again: what fits is kept, and `Binary64.rank_packed` says that too large numbers become
  infinities.
-/

namespace DiagramScript

namespace Binary64

open Float.Model (UnpackedFloat Format)
open Float.Model.UnpackedFloat (Sign)

/-! ## Ranks -/

/-- How many numbers there are from zero to the number with a significand and an exponent. -/
def magnitude (significand : Nat) (exponent : Int) : Int :=
  (exponent + 1074) * 2 ^ 52 + significand

/-- The magnitude of the infinities. -/
def summit : Int := 2047 * 2 ^ 52

/-- Where a number stands among the others. -/
def rank : UnpackedFloat → Option Int
  | .notANumber => none
  | .infinity s => some (s.apply summit)
  | .zero _ => some 0
  | .finite s m e _ => some (s.apply (magnitude m e))

theorem summit_pos : 0 < summit := by decide

/-- Whether a significand and an exponent are those of a rounded number. -/
structure IsRounded (significand : Nat) (exponent : Int) : Prop where
  /-- The significand has at most 53 bits. -/
  short : significand < 2 ^ 53
  /-- There is a least exponent. -/
  least : -1074 ≤ exponent
  /-- With any other exponent all these bits are needed. -/
  leading : 2 ^ 52 ≤ significand ∨ exponent = -1074

/-- Whether there are bits for an unpacked number. -/
def Fits : UnpackedFloat → Prop
  | .finite _ m e _ => IsRounded m e ∧ e ≤ 971
  | _ => True

namespace IsRounded

variable {m n : Nat} {e f : Int}

theorem magnitude_pos (h : IsRounded m e) (hm : 0 < m) : 0 < magnitude m e := by
  obtain ⟨-, least, -⟩ := h
  simp only [magnitude]
  omega

theorem magnitude_lt (h : IsRounded m e) (he : e ≤ 971) : magnitude m e < summit := by
  obtain ⟨short, -, -⟩ := h
  simp only [magnitude, summit]
  omega

/-- Of two rounded numbers the one with the larger exponent is the larger, and then the one with the
larger significand. -/
theorem compare_magnitude (hm : IsRounded m e) (hn : IsRounded n f) :
    compare (magnitude m e) (magnitude n f) = (compare e f).then (compare m n) := by
  obtain ⟨short, least, leading⟩ := hm
  obtain ⟨short', least', leading'⟩ := hn
  rcases lt_trichotomy e f with h | rfl | h
  · rw [compare_lt_iff_lt.2 h, compare_lt_iff_lt.2 (by simp only [magnitude]; omega)]
    rfl
  · rw [compare_eq_iff_eq.2 rfl]
    rcases lt_trichotomy m n with h | rfl | h
    · rw [compare_lt_iff_lt.2 h, compare_lt_iff_lt.2 (by simp only [magnitude]; omega)]
      rfl
    · rw [compare_eq_iff_eq.2 rfl, compare_eq_iff_eq.2 rfl]
      rfl
    · rw [compare_gt_iff_gt.2 h, compare_gt_iff_gt.2 (by simp only [magnitude]; omega)]
      rfl
  · rw [compare_gt_iff_gt.2 h, compare_gt_iff_gt.2 (by simp only [magnitude]; omega)]
    rfl

end IsRounded

/-- Numbers are compared as their ranks are. -/
theorem compare_eq {x y : UnpackedFloat} (hx : Fits x) (hy : Fits y) :
    x.compare y = (rank x).bind fun p => (rank y).map (compare p) := by
  have top := summit_pos
  have below {p q : Int} (h : p < q) : Ordering.lt = compare p q := (compare_lt_iff_lt.2 h).symm
  have above {p q : Int} (h : q < p) : Ordering.gt = compare p q := (compare_gt_iff_gt.2 h).symm
  have swapped (p q : Int) : (compare p q).swap = compare (-p) (-q) := by
    rcases lt_trichotomy p q with h | rfl | h
    · rw [← below h, ← above (neg_lt_neg h)]
      rfl
    · rw [compare_eq_iff_eq.2 rfl, compare_eq_iff_eq.2 rfl]
      rfl
    · rw [← above h, ← below (neg_lt_neg h)]
      rfl
  cases x with
  | notANumber => cases y <;> rfl
  | infinity s =>
    cases y with
    | notANumber => cases s <;> rfl
    | infinity t => cases s <;> cases t <;> rfl
    | zero t =>
      cases s with
      | negative => exact congrArg some (below (neg_neg_of_pos top))
      | positive => exact congrArg some (above top)
    | finite t n f hn =>
      have near := hy.1.magnitude_lt hy.2
      have far := hy.1.magnitude_pos hn
      cases s with
      | negative => exact congrArg some (below (by cases t <;> simp only [Sign.apply] <;> omega))
      | positive => exact congrArg some (above (by cases t <;> simp only [Sign.apply] <;> omega))
  | zero s =>
    cases y with
    | notANumber => rfl
    | infinity t =>
      cases t with
      | negative => exact congrArg some (above (neg_neg_of_pos top))
      | positive => exact congrArg some (below top)
    | zero t => rfl
    | finite t n f hn =>
      have far := hy.1.magnitude_pos hn
      cases t with
      | negative => exact congrArg some (above (neg_neg_of_pos far))
      | positive => exact congrArg some (below far)
  | finite s m e hm =>
    have far := hx.1.magnitude_pos hm
    cases y with
    | notANumber => cases s <;> rfl
    | infinity t =>
      have near := hx.1.magnitude_lt hx.2
      cases t with
      | negative =>
        cases s <;> exact congrArg some (above (by simp only [Sign.apply]; omega))
      | positive =>
        cases s <;> exact congrArg some (below (by simp only [Sign.apply]; omega))
    | zero t =>
      cases s with
      | negative => exact congrArg some (below (neg_neg_of_pos far))
      | positive => exact congrArg some (above far)
    | finite t n f hn =>
      have far' := hy.1.magnitude_pos hn
      have magnitudes := hx.1.compare_magnitude hy.1
      cases s with
      | negative =>
        cases t with
        | negative =>
          exact congrArg some ((congrArg Ordering.swap magnitudes).symm.trans (swapped ..))
        | positive => exact congrArg some (below (by simp only [Sign.apply]; omega))
      | positive =>
        cases t with
        | negative => exact congrArg some (above (by simp only [Sign.apply]; omega))
        | positive => exact congrArg some magnitudes.symm

/-- The smaller number has the lower rank. -/
theorem lt_iff {x y : UnpackedFloat} (hx : Fits x) (hy : Fits y) :
    x.lt y = true ↔ ∃ a ∈ rank x, ∃ b ∈ rank y, a < b := by
  rw [UnpackedFloat.lt, beq_iff_eq, compare_eq hx hy]
  simp [Option.bind_eq_some_iff, compare_lt_iff_lt]

theorem le_iff {x y : UnpackedFloat} (hx : Fits x) (hy : Fits y) :
    x.le y = true ↔ ∃ a ∈ rank x, ∃ b ∈ rank y, a ≤ b := by
  rw [UnpackedFloat.le, compare_eq hx hy]
  cases rank x <;> cases rank y <;> simp [Int.isLE_compare]

/-- Equal numbers have one rank. -/
theorem beq_iff {x y : UnpackedFloat} (hx : Fits x) (hy : Fits y) :
    x.beq y = true ↔ ∃ a ∈ rank x, a ∈ rank y := by
  rw [UnpackedFloat.beq, beq_iff_eq, compare_eq hx hy]
  simp only [Option.bind_eq_some_iff, Option.map_eq_some_iff, compare_eq_iff_eq, Option.mem_def]
  exact ⟨fun ⟨a, ha, b, hb, same⟩ => ⟨a, ha, same ▸ hb⟩, fun ⟨a, ha, hb⟩ => ⟨a, ha, a, hb, rfl⟩⟩

/-! ## Bits -/

/-- The number that some bits stand for. -/
def unpacked (b : BitVec 64) : UnpackedFloat := .unpack .binary64 b

/-- The bits that stand for a number. -/
def packed (x : UnpackedFloat) : BitVec 64 := UnpackedFloat.pack .binary64 x

/-- The sign that some bits begin with. -/
def signOf (b : BitVec 64) : Sign := .ofBitVec (@UnpackedFloat.unpackSign .binary64 b)

/-- The bits of the exponent. -/
def fieldOf (b : BitVec 64) : BitVec 11 := @UnpackedFloat.unpackExponent .binary64 b

/-- The bits of the significand, of which the leading one is left out. -/
def fractionOf (b : BitVec 64) : BitVec 52 := @UnpackedFloat.unpackMantissa .binary64 b

theorem toNat_leading (fraction : BitVec 52) :
    (1#1 ++ fraction).toNat = 2 ^ 52 + fraction.toNat := by
  rw [BitVec.toNat_append, ← Nat.shiftLeft_add_eq_or_of_lt fraction.isLt]
  rfl

/-- What bits stand for has fitted. -/
theorem fits_unpacked (b : BitVec 64) : Fits (unpacked b) := by
  have short : (fractionOf b).toNat < 2 ^ 52 := (fractionOf b).isLt
  have narrow : (fieldOf b).toNat < 2 ^ 11 := (fieldOf b).isLt
  have whole := toNat_leading (fractionOf b)
  unfold unpacked UnpackedFloat.unpack
  change Fits (if fieldOf b = -1#11 then _ else if fieldOf b = 0#11 then _ else _)
  split_ifs with infinite nothing least zero
  · trivial
  · trivial
  · trivial
  · have exponent : ((fieldOf b).toNat : Int) - (1023 + 52) + 1 = -1074 := by
      rw [least]
      rfl
    exact ⟨⟨short.trans (by decide), exponent.ge, .inr exponent⟩, exponent.trans_le (by decide)⟩
  · have most : (fieldOf b).toNat ≠ 2047 := fun h => infinite (BitVec.eq_of_toNat_eq h)
    have some : (fieldOf b).toNat ≠ 0 := fun h => least (BitVec.eq_of_toNat_eq h)
    have exponent : -1074 ≤ ((fieldOf b).toNat : Int) - (1023 + 52) ∧
        ((fieldOf b).toNat : Int) - (1023 + 52) ≤ 971 := by
      omega
    exact ⟨⟨whole.trans_lt (by omega), exponent.1, .inl (whole.ge.trans' (by omega))⟩, exponent.2⟩

/-- The rank of a number is what its bits spell after the sign. -/
theorem rank_unpacked (b : BitVec 64) : rank (unpacked b) =
    if fieldOf b = -1#11 ∧ fractionOf b ≠ 0#52 then none
    else some ((signOf b).apply ((fieldOf b).toNat * 2 ^ 52 + (fractionOf b).toNat)) := by
  unfold unpacked UnpackedFloat.unpack
  change rank (
    if fieldOf b = -1#11 then if fractionOf b = 0#52 then .infinity (signOf b) else _
    else if fieldOf b = 0#11 then if h : fractionOf b = 0#52 then .zero (signOf b) else _
    else _) = _
  by_cases infinite : fieldOf b = -1#11
  · by_cases nothing : fractionOf b = 0#52
    · rw [if_pos infinite, if_pos nothing, if_neg fun h => h.2 nothing, infinite, nothing]
      rfl
    · rw [if_pos infinite, if_neg nothing, if_pos ⟨infinite, nothing⟩]
      rfl
  · have defined : ¬(fieldOf b = -1#11 ∧ fractionOf b ≠ 0#52) := fun h => infinite h.1
    rw [if_neg infinite, if_neg defined]
    by_cases least : fieldOf b = 0#11
    · rw [if_pos least]
      by_cases nothing : fractionOf b = 0#52
      · rw [dif_pos nothing, least, nothing]
        cases signOf b <;> simp [rank, Sign.apply]
      · have exponent : ((fieldOf b).toNat : Int) - (1023 + 52) + 1 = -1074 := by
          rw [least]
          rfl
        rw [dif_neg nothing]
        refine congrArg some (congrArg _ ?_)
        show magnitude (fractionOf b).toNat (((fieldOf b).toNat : Int) - (1023 + 52) + 1) = _
        rw [exponent, least]
        rfl
    · rw [if_neg least]
      refine congrArg some (congrArg _ ?_)
      show magnitude (1#1 ++ fractionOf b).toNat (((fieldOf b).toNat : Int) - (1023 + 52)) = _
      rw [toNat_leading, magnitude]
      push_cast
      ring

/-! ## Packing -/

/-- The rank of what some bits stand for that are put together from their parts. -/
theorem rank_packComponents (s : Sign) {field : BitVec 11} {fraction : BitVec 52}
    (h : field = -1#11 → fraction = 0#52) :
    rank (unpacked (UnpackedFloat.packComponents .binary64 s field fraction)) =
      some (s.apply (field.toNat * 2 ^ 52 + fraction.toNat)) := by
  let b : BitVec 64 := UnpackedFloat.packComponents .binary64 s field fraction
  have sign : signOf b = s :=
    (congrArg _ (UnpackedFloat.unpackSign_packComponents ..)).trans s.ofBitVec_toBitVec
  have exponent : fieldOf b = field := UnpackedFloat.unpackExponent_packComponents
  have significand : fractionOf b = fraction := UnpackedFloat.unpackMantissa_packComponents
  show rank (unpacked b) = _
  rw [rank_unpacked, sign, exponent, significand, if_neg fun both => both.2 (h both.1)]

/-- The rank of a number that is packed into bits. -/
def written (x : UnpackedFloat) : Option Int := rank (unpacked (packed x))

/-- Packing keeps what is not too large, and makes infinities of the rest. -/
theorem rank_packed (s : Sign) {m : Nat} {e : Int} (h : IsRounded m e) (hm : 0 < m) :
    written (.finite s m e hm) = some (s.apply (min (magnitude m e) summit)) := by
  obtain ⟨short, least, leading⟩ := h
  let field := (e + 1023 + 52).toNat
  show rank (unpacked (UnpackedFloat.pack .binary64 _)) = _
  rw [UnpackedFloat.pack]
  change rank (unpacked (if 2 ^ 11 ≤ field + 1 then _ else if m.log2 + 1 = 53 then _ else _)) = _
  split_ifs with large normal
  · refine (rank_packComponents s fun _ => rfl).trans (congrArg some (congrArg _ ?_))
    have far : summit ≤ magnitude m e := by
      simp only [summit, magnitude]
      omega
    rw [min_eq_right far]
    decide
  · have bits : 2 ^ 52 ≤ m := (Nat.le_log2 hm.ne').1 (by omega)
    have exponent : (BitVec.ofNat 11 field).toNat = field := by
      rw [BitVec.toNat_ofNat]
      omega
    have below : BitVec.ofNat 11 field ≠ -1#11 := fun all => by
      have most : 2047 = field := (congrArg BitVec.toNat all).symm.trans exponent
      omega
    refine (rank_packComponents s fun all => absurd all below).trans (congrArg some (congrArg _ ?_))
    have near : magnitude m e ≤ summit := by
      simp only [summit, magnitude]
      omega
    rw [exponent, BitVec.toNat_ofNat, min_eq_left near, magnitude]
    omega
  · have bits : m < 2 ^ 52 := by
      have fewer := (Nat.log2_lt hm.ne').2 short
      exact (Nat.log2_lt hm.ne').1 (by omega)
    have exponent : e = -1074 := by omega
    refine (rank_packComponents s fun none => absurd none (by decide)).trans
      (congrArg some (congrArg _ ?_))
    have near : magnitude m e ≤ summit := by
      simp only [summit, magnitude]
      omega
    have significand : (BitVec.ofNat 52 m).toNat = m := by
      rw [BitVec.toNat_ofNat, Nat.mod_eq_of_lt bits]
    rw [min_eq_left near, magnitude, exponent]
    show ((0 : Nat) : Int) * 2 ^ 52 + (BitVec.ofNat 52 m).toNat = (-1074 + 1074) * 2 ^ 52 + m
    rw [significand]
    rfl

/-- Packing keeps what fits. -/
theorem written_of_fits {x : UnpackedFloat} (h : Fits x) : written x = rank x := by
  cases x with
  | notANumber => exact congrArg rank UnpackedFloat.unpack_packedNaN
  | infinity s => exact rank_packComponents s fun _ => rfl
  | zero s => exact congrArg rank UnpackedFloat.unpack_packedZero
  | finite s m e hm =>
    rw [rank_packed s h.1 hm, min_eq_left (h.1.magnitude_lt h.2).le]
    rfl

theorem written_notANumber : written .notANumber = none := written_of_fits trivial

theorem written_infinity (s : Sign) : written (.infinity s) = some (s.apply summit) :=
  written_of_fits trivial

theorem written_zero (s : Sign) : written (.zero s) = some 0 := written_of_fits trivial

theorem written_finite (s : Sign) {m : Nat} {e : Int} {hm : 0 < m} (h : IsRounded m e ∧ e ≤ 971) :
    written (.finite s m e hm) = some (s.apply (magnitude m e)) :=
  written_of_fits (x := .finite s m e hm) h

end Binary64

end DiagramScript
