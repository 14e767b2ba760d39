/-!
# Rounding exact quotients, and the digits of numbers

Every number the library writes is first an exact quotient of naturals; this
module rounds such quotients and spells the results.  Nothing here knows about
floating point.

* **rounding** — `roundDiv n d` is the integer nearest to `n / d`, a tie going to
  the even neighbour: `roundDiv_mul_sub_le` and `sub_roundDiv_mul_le` say it is
  never further away than half a unit, `roundDiv_of_dvd` that an exact quotient is
  left alone.
* **powers** — of two and ten; `decimalExponent n d` is the exponent of the leading
  digit of `n / d`, `significant k n d` its first `k` digits, correctly rounded.
* **numerals** — `fixedPoint`, `scientific` and `general` spell a rounded quotient
  with a point, with an exponent, or with whichever of the two is customary.
-/

namespace DiagramScript

/-! ## Rounding to the nearest integer -/

/-- The integer nearest to `n / d`; a tie goes to the even neighbour. -/
def roundDiv (n d : Nat) : Nat :=
  let q := n / d
  let r := n % d
  if 2 * r < d then q
  else if d < 2 * r then q + 1
  else if q % 2 = 0 then q else q + 1

/-- Rounding up overshoots by at most half a unit. -/
theorem roundDiv_mul_sub_le (n d : Nat) : 2 * (roundDiv n d * d) ≤ 2 * n + d := by
  have h : d * (n / d) + n % d = n := Nat.div_add_mod n d
  have hq : (n / d) * d = d * (n / d) := Nat.mul_comm _ _
  have hq1 : (n / d + 1) * d = d * (n / d) + d := by rw [Nat.add_mul, Nat.one_mul, hq]
  unfold roundDiv
  dsimp only
  split
  · omega
  · split
    · omega
    · split <;> omega

/-- Rounding down falls short by at most half a unit. -/
theorem sub_roundDiv_mul_le (n : Nat) {d : Nat} (hd : 0 < d) :
    2 * n ≤ 2 * (roundDiv n d * d) + d := by
  have h : d * (n / d) + n % d = n := Nat.div_add_mod n d
  have hq : (n / d) * d = d * (n / d) := Nat.mul_comm _ _
  have hq1 : (n / d + 1) * d = d * (n / d) + d := by rw [Nat.add_mul, Nat.one_mul, hq]
  have hlt : n % d < d := Nat.mod_lt _ hd
  unfold roundDiv
  dsimp only
  split
  · omega
  · split
    · omega
    · split <;> omega

/-- An exact quotient is its own nearest integer. -/
theorem roundDiv_of_dvd {n d : Nat} (hd : 0 < d) (h : d ∣ n) : roundDiv n d = n / d := by
  have hm : n % d = 0 := Nat.mod_eq_zero_of_dvd h
  simp [roundDiv, hm, hd]

/-! ## Powers of two and ten -/

/-- The power `2 ^ k`. -/
def twoPow (k : Nat) : Nat := Nat.pow 2 k

/-- The power `10 ^ k`. -/
def tenPow (k : Nat) : Nat := Nat.pow 10 k

@[simp] theorem twoPow_zero : twoPow 0 = 1 := rfl

@[simp] theorem tenPow_zero : tenPow 0 = 1 := rfl

theorem twoPow_succ (k : Nat) : twoPow (k + 1) = twoPow k * 2 := Nat.pow_succ 2 k

theorem tenPow_succ (k : Nat) : tenPow (k + 1) = tenPow k * 10 := Nat.pow_succ 10 k

theorem twoPow_pos (k : Nat) : 0 < twoPow k := Nat.pow_pos (by decide)

theorem tenPow_pos (k : Nat) : 0 < tenPow k := Nat.pow_pos (by decide)

/-- The decimal digits of a natural number. -/
def digits (n : Nat) : List Char := Nat.toDigits 10 n

/-- The decimal digits of an integer, with a leading `-` when it is negative. -/
def integerDigits (i : Int) : List Char :=
  if i < 0 then '-' :: digits i.natAbs else digits i.natAbs

/-- The quotient `n / d` multiplied by a power of ten, again as a quotient. -/
def timesPowerOfTen (n d : Nat) (e : Int) : Nat × Nat :=
  if 0 ≤ e then (n * tenPow e.toNat, d) else (n, d * tenPow (-e).toNat)

/-- The `e` with `10 ^ e ≤ n / d < 10 ^ (e + 1)`, for positive `n` and `d`. -/
def decimalExponent (n d : Nat) : Int :=
  let e : Int := (digits n).length - (digits d).length
  let (a, b) := timesPowerOfTen n d (-e)
  if b ≤ a then e else e - 1

/-- The first `k` digits of `n / d` as one number, and the exponent of the leading
digit.  Rounding may carry into a new leading digit. -/
def significant (k n d : Nat) : Nat × Int :=
  if n = 0 then (0, 0)
  else
    let e := decimalExponent n d
    let (a, b) := timesPowerOfTen n d ((k : Int) - 1 - e)
    let m := roundDiv a b
    if m = tenPow k then (tenPow (k - 1), e + 1) else (m, e)

/-! ## Numerals -/

/-- A digit string padded with zeros on the left to at least `width` digits. -/
def padZeros (width : Nat) (ds : List Char) : List Char :=
  List.replicate (width - ds.length) '0' ++ ds

/-- The numeral of `n / 10 ^ places`, with exactly `places` digits after the point. -/
def fixedPoint (places n : Nat) : List Char :=
  let ds := padZeros (places + 1) (digits n)
  let whole := ds.take (ds.length - places)
  if places = 0 then whole else whole ++ '.' :: ds.drop (ds.length - places)

/-- Drops the trailing zeros of a numeral with a point, and then the point if it is last. -/
def trimFraction (cs : List Char) : List Char :=
  ((cs.reverse.dropWhile (· == '0')).dropWhile (· == '.')).reverse

/-- A signed exponent of at least two digits. -/
def exponentDigits (e : Int) : List Char :=
  (if e < 0 then '-' else '+') :: padZeros 2 (digits e.natAbs)

/-- A digit string with a point after its first digit, when more digits follow. -/
def pointAfterFirst : List Char → List Char
  | [] => []
  | [c] => [c]
  | c :: cs => c :: '.' :: cs

/-- The numeral of `n / d` with one digit before the point, `places` after it, and an exponent. -/
def scientific (places n d : Nat) : List Char :=
  let (m, e) := significant (places + 1) n d
  pointAfterFirst (padZeros (places + 1) (digits m)) ++ 'e' :: exponentDigits e

/-- The numeral of `n / d` with at most `k` significant digits and no trailing zeros: an
exponent is written when the leading digit is below `10 ^ -4` or at `10 ^ k` and above. -/
def general (k n d : Nat) : List Char :=
  let (m, e) := significant k n d
  if -4 ≤ e ∧ e < k then
    let places := ((k : Int) - 1 - e).toNat
    let (a, b) := timesPowerOfTen n d places
    let text := fixedPoint places (roundDiv a b)
    if places = 0 then text else trimFraction text
  else
    let ds := (padZeros k (digits m)).reverse.dropWhile (· == '0') |>.reverse
    pointAfterFirst ds ++ 'e' :: exponentDigits e

end DiagramScript
