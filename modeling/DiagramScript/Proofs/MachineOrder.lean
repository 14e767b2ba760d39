import DiagramScript.Proofs.MachineRounding
import DiagramScript.Proofs.OrderedNumbers

/-!
# Machine numbers are ordered

The numbers that drawings are compiled with have the laws of `OrderedNumber`.  Each law is one about
ranks: sums and differences are rounded whole multiples of a power of two, and rounding is monotone.

* `Binary64.Below` — whether one rank is not above another, undefined numbers aside.
* `Binary64.sub_below_add`, `Binary64.zero_below_sub`, `Binary64.zero_below_div` — sums, differences
  and halves.
* `Binary64.ordered`, `MachineNumber.ordered` — the laws.
-/

namespace DiagramScript

namespace Binary64

open Float.Model (UnpackedFloat)
open Float.Model.UnpackedFloat (Sign)

/-! ## Comparing ranks -/

/-- Whether one rank is not above another.  Undefined numbers have none. -/
def Below (a b : Option Int) : Prop := ∀ p ∈ a, ∀ q ∈ b, p ≤ q

theorem below_some {p q : Int} : Below (some p) (some q) ↔ p ≤ q := by
  simp [Below]

theorem none_below (a : Option Int) : Below none a := by
  simp [Below]

theorem below_none (a : Option Int) : Below a none := by
  simp [Below]

theorem Below.refl (a : Option Int) : Below a a := by
  intro p hp q hq
  exact (Option.some.inj (hp.symm.trans hq)).le

variable {s t : Sign} {m n : Nat} {e f : Int} {hm : 0 < m} {hn : 0 < n} {x y : UnpackedFloat}

/-- A finite number that is not negative has no sign. -/
theorem sign_of_below (h : Fits (.finite s m e hm))
    (upward : Below (some 0) (rank (.finite s m e hm))) : s = .positive := by
  cases s with
  | positive => rfl
  | negative => exact absurd (below_some.1 upward) (neg_neg_of_pos (h.1.magnitude_pos hm)).not_ge

/-- Neither has an infinity. -/
theorem sign_of_below_infinity (upward : Below (some 0) (rank (.infinity s))) : s = .positive := by
  cases s with
  | positive => rfl
  | negative => exact absurd (below_some.1 upward) (neg_neg_of_pos summit_pos).not_ge

/-- The positive infinity is above zero. -/
theorem zero_below_infinity : Below (some 0) (written (.infinity .positive)) :=
  written_infinity _ ▸ below_some.2 summit_pos.le

/-! ## Sums and differences -/

/-- A finite number as a multiple of a power of two that is not larger than its own. -/
def multiple (s : Sign) (m : Nat) (e unit : Int) : Int := s.apply (m <<< (e - unit).toNat : Nat)

theorem rank_add : written (.add .binary64 (.finite s m e hm) (.finite t n f hn)) =
    some (settled (multiple s m e (min e f) + multiple t n f (min e f)) (min e f)) :=
  rank_normalize _ _

theorem rank_sub : written (.sub .binary64 (.finite s m e hm) (.finite t n f hn)) =
    some (settled (multiple s m e (min e f) - multiple t n f (min e f)) (min e f)) :=
  rank_normalize _ _

theorem shiftLeft_le (he : IsRounded m e) (hf : IsRounded n f)
    (h : magnitude m e ≤ magnitude n f) :
    m <<< (e - min e f).toNat ≤ n <<< (f - min e f).toNat := by
  obtain ⟨short, least, leading⟩ := he
  obtain ⟨short', least', leading'⟩ := hf
  simp only [magnitude] at h
  rw [Nat.shiftLeft_eq, Nat.shiftLeft_eq]
  rcases lt_trichotomy e f with less | rfl | more
  · rw [min_eq_left less.le, Int.sub_self, Int.toNat_zero, Nat.pow_zero, Nat.mul_one]
    have even : 2 ^ 1 ≤ 2 ^ (f - e).toNat := Nat.pow_le_pow_right Nat.two_pos (by omega)
    have twice := Nat.mul_le_mul_left n even
    omega
  · exact Nat.mul_le_mul_right _ (by omega)
  · omega

/-- Multiples of one power of two are in the order of the numbers. -/
theorem multiple_le (hx : Fits (.finite s m e hm)) (hy : Fits (.finite t n f hn))
    (h : s.apply (magnitude m e) ≤ t.apply (magnitude n f)) :
    multiple s m e (min e f) ≤ multiple t n f (min e f) := by
  have far := hx.1.magnitude_pos hm
  have far' := hy.1.magnitude_pos hn
  cases s with
  | negative =>
    cases t with
    | negative =>
      have mirrored := shiftLeft_le hy.1 hx.1 (neg_le_neg_iff.1 h)
      rw [min_comm] at mirrored
      exact neg_le_neg (Int.ofNat_le.2 mirrored)
    | positive => exact (neg_nonpos.2 (Int.natCast_nonneg _)).trans (Int.natCast_nonneg _)
  | positive =>
    cases t with
    | negative => exact absurd (far.le.trans h) (neg_neg_of_pos far').not_ge
    | positive => exact Int.ofNat_le.2 (shiftLeft_le hx.1 hy.1 h)

/-- Adding what is not negative does not lead below what subtracting it leads to. -/
theorem sub_below_add (hy : Fits y) (h : Below (some 0) (rank y)) :
    Below (written (.sub .binary64 x y)) (written (.add .binary64 x y)) := by
  cases y with
  | notANumber => cases x <;> exact written_notANumber ▸ none_below _
  | infinity t =>
    obtain rfl := sign_of_below_infinity h
    have apart : Below (written (.infinity .negative)) (written (.infinity .positive)) := by
      rw [written_infinity, written_infinity]
      exact below_some.2 (neg_le_self summit_pos.le)
    cases x with
    | notANumber => exact written_notANumber ▸ none_below _
    | infinity s =>
      cases s with
      | negative => exact written_notANumber ▸ below_none _
      | positive => exact written_notANumber ▸ none_below _
    | zero s => exact apart
    | finite s m e hm => exact apart
  | zero t =>
    cases x with
    | notANumber => exact written_notANumber ▸ none_below _
    | infinity s => exact .refl _
    | zero s =>
      have same : ∀ u v, Below (written (.zero u)) (written (.zero v)) := fun u v => by
        rw [written_zero, written_zero]
        exact .refl _
      cases s <;> cases t <;> exact same _ _
    | finite s m e hm => exact .refl _
  | finite t n f hn =>
    obtain rfl := sign_of_below hy h
    cases x with
    | notANumber => exact written_notANumber ▸ none_below _
    | infinity s => exact .refl _
    | zero s =>
      show Below (written (.finite .negative n f hn)) (written (.finite .positive n f hn))
      rw [written_finite _ hy, written_finite _ hy]
      exact below_some.2 (neg_le_self (hy.1.magnitude_pos hn).le)
    | finite s m e hm =>
      rw [rank_sub, rank_add, below_some]
      have upward : 0 ≤ multiple .positive n f (min e f) := Int.natCast_nonneg _
      exact settled_le (by omega) _

/-- Subtracting what is not above does not lead below zero. -/
theorem zero_below_sub (hx : Fits x) (hy : Fits y) (h : Below (rank x) (rank y)) :
    Below (some 0) (written (.sub .binary64 y x)) := by
  have top := summit_pos
  cases y with
  | notANumber => cases x <;> exact written_notANumber ▸ below_none _
  | infinity s =>
    cases s with
    | positive =>
      cases x with
      | notANumber => exact written_notANumber ▸ below_none _
      | infinity t =>
        cases t with
        | positive => exact written_notANumber ▸ below_none _
        | negative => exact zero_below_infinity
      | zero t => exact zero_below_infinity
      | finite t m e hm => exact zero_below_infinity
    | negative =>
      cases x with
      | notANumber => exact written_notANumber ▸ below_none _
      | infinity t =>
        cases t with
        | positive => exact absurd (below_some.1 h) (by decide)
        | negative => exact written_notANumber ▸ below_none _
      | zero t => exact absurd (below_some.1 h) (neg_neg_of_pos top).not_ge
      | finite t m e hm =>
        -- only an infinity is as low as the negative infinity
        have near := hx.1.magnitude_lt hx.2
        have far := hx.1.magnitude_pos hm
        have lowest : t.apply (magnitude m e) ≤ -summit := below_some.1 h
        cases t <;> simp only [Sign.apply] at lowest <;> omega
  | zero s =>
    cases x with
    | notANumber => exact written_notANumber ▸ below_none _
    | infinity t =>
      cases t with
      | positive => exact absurd (below_some.1 h) top.not_ge
      | negative => exact zero_below_infinity
    | zero t => cases s <;> cases t <;> exact written_zero _ ▸ .refl _
    | finite t m e hm =>
      have far := hx.1.magnitude_pos hm
      cases t with
      | positive => exact absurd (below_some.1 h) far.not_ge
      | negative =>
        show Below _ (written (.finite .positive m e hm))
        rw [written_finite _ hx]
        exact below_some.2 far.le
  | finite s n f hn =>
    cases x with
    | notANumber => exact written_notANumber ▸ below_none _
    | infinity t =>
      cases t with
      | positive =>
        have near := hy.1.magnitude_lt hy.2
        have far := hy.1.magnitude_pos hn
        have highest : summit ≤ s.apply (magnitude n f) := below_some.1 h
        cases s <;> simp only [Sign.apply] at highest <;> omega
      | negative => exact zero_below_infinity
    | zero t => exact written_finite s hy ▸ h
    | finite t m e hm =>
      have ordered := multiple_le hx hy (below_some.1 h)
      rw [min_comm] at ordered
      rw [rank_sub, below_some]
      exact (settled_zero _).ge.trans (settled_le (sub_nonneg.2 ordered) _)

/-! ## Halves -/

/-- A number without a sign gets none when it is packed, even if it is not rounded. -/
theorem zero_below_positive (hm : 0 < m) : Below (some 0) (written (.finite .positive m e hm)) := by
  have positive : ∀ (field : BitVec 11) (fraction : BitVec 52), Below (some 0)
      (rank (unpacked (UnpackedFloat.packComponents .binary64 .positive field fraction))) := by
    intro field fraction
    let b : BitVec 64 := UnpackedFloat.packComponents .binary64 .positive field fraction
    have sign : signOf b = .positive := congrArg _ (UnpackedFloat.unpackSign_packComponents ..)
    show Below (some 0) (rank (unpacked b))
    rw [rank_unpacked, sign]
    split_ifs
    · exact below_none _
    · exact below_some.2 (by simp only [Sign.apply]; omega)
  show Below (some 0) (rank (unpacked (UnpackedFloat.pack .binary64 _)))
  rw [UnpackedFloat.pack]
  dsimp only
  split_ifs <;> exact positive _ _

/-- Dividing what is not negative by a positive number does not lead below zero. -/
theorem zero_below_div (hx : Fits x) (h : Below (some 0) (rank x)) :
    Below (some 0) (written (.div .binary64 x (.finite .positive n f hn))) := by
  cases x with
  | notANumber => exact written_notANumber ▸ below_none _
  | infinity s =>
    obtain rfl := sign_of_below_infinity h
    exact zero_below_infinity
  | zero s => exact written_zero _ ▸ .refl _
  | finite s m e hm =>
    obtain rfl := sign_of_below hx h
    show Below (some 0) (written (.roundWithAccuracy .binary64 .positive _ _ _))
    rw [UnpackedFloat.roundWithAccuracy]
    dsimp only
    split_ifs
    · exact written_zero _ ▸ .refl _
    · exact zero_below_positive _

/-! ## Numbers -/

/-- The unpacked number that a number stands for. -/
def content (x : Float) : UnpackedFloat := unpacked x.toModel.toBits.toBitVec

theorem fits_content (x : Float) : Fits (content x) := fits_unpacked _

variable {a b : Float}

theorem content_lt_iff : a < b ↔ ∃ p ∈ rank (content a), ∃ q ∈ rank (content b), p < q := by
  show decide (a.toModel < b.toModel) = true ↔ _
  rw [decide_eq_true_iff]
  exact lt_iff (fits_content a) (fits_content b)

theorem content_not_lt_iff : ¬a < b ↔ Below (rank (content b)) (rank (content a)) := by
  rw [content_lt_iff, Below]
  push Not
  exact ⟨fun h q hq p hp => h p hp q hq, fun h p hp q hq => h q hq p hp⟩

theorem isNaN_iff : Arith.isNaN a = true ↔ rank (content a) = none := by
  have self : Arith.isNaN a = !(content a).beq (content a) := rfl
  rw [self, Bool.not_eq_true', ← Bool.not_eq_true, UnpackedFloat.beq_iff_ne_notANumber_and_eq]
  cases content a <;> simp [rank]

theorem rank_content_zero : rank (content (Arith.num 0)) = some 0 := by
  decide +kernel

theorem content_two : content (Arith.num 2) = .finite .positive (2 ^ 52) (-51) (by decide) := by
  have bits : (Arith.num 2 : Float).toModel.toBits.toBitVec = 0x4000000000000000#64 := by
    decide +kernel
  rw [content, bits]
  rfl

theorem rank_half (a : Float) : rank (content (Arith.half a)) =
    written (.div .binary64 (content a) (.finite .positive (2 ^ 52) (-51) (by decide))) := by
  rw [← content_two]
  rfl

/-! ## The laws -/

/-- Numbers of 64 bits are ordered. -/
instance ordered : OrderedNumber Float where
  irrefl a := content_not_lt_iff.2 (.refl _)
  trans {a b c} first second := by
    obtain ⟨p, hp, q, hq, less⟩ := content_lt_iff.1 first
    obtain ⟨q', hq', r, hr, less'⟩ := content_lt_iff.1 second
    cases Option.some.inj (hq.symm.trans hq')
    exact content_lt_iff.2 ⟨p, hp, r, hr, less.trans less'⟩
  through {a b c} defined first second := by
    rw [content_not_lt_iff] at first second ⊢
    obtain ⟨q, hq⟩ := Option.ne_none_iff_exists'.1 fun none =>
      Bool.false_ne_true (defined.symm.trans (isNaN_iff.2 none))
    exact fun p hp r hr => (first p hp q hq).trans (second q hq r hr)
  around {c w} h := by
    rw [content_not_lt_iff, rank_content_zero] at h
    have half : Below (some 0) (rank (content (Arith.half w))) :=
      rank_half w ▸ zero_below_div (fits_content w) h
    exact content_not_lt_iff.2 (sub_below_add (fits_content _) half)
  difference {a b} h := by
    rw [content_not_lt_iff, rank_content_zero]
    exact zero_below_sub (fits_content a) (fits_content b) (content_not_lt_iff.1 h)

end Binary64

/-- The numbers that drawings are compiled with are ordered. -/
instance MachineNumber.ordered : OrderedNumber MachineNumber where
  irrefl a := OrderedNumber.irrefl a.value
  trans := OrderedNumber.trans (K := Float)
  through := OrderedNumber.through (K := Float)
  around := OrderedNumber.around (K := Float)
  difference := OrderedNumber.difference (K := Float)

end DiagramScript
