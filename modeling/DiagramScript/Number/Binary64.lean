import DiagramScript.Number.Arith
import DiagramScript.Number.Decimal

/-!
# Binary64 numbers, exactly

A finite binary64 number is a signed whole number times a power of two.  This module
takes such numbers apart and builds them, so that every conversion between them and
text is done in whole-number arithmetic and rounded once.

* **parts** — `Binary64.parts` decodes a number, `Binary64.ofQuotient` finds the
  number nearest to a quotient, a tie going to the even significand.
* **shortest digits** — `Binary64.shortest` finds the fewest digits that read back
  as the same number, and among those the ones nearest to it.
* **texts** — fixed-point, exponent and shortest notations of a number.
* **arithmetic** — the instance of `Arith` that drawings are compiled with.
-/

namespace DiagramScript

namespace Binary64

/-! ## Taking numbers apart and putting them together -/

/-- What a binary64 number is. -/
inductive Parts where
  /-- Not a number. -/
  | nan
  /-- An infinity. -/
  | infinite (negative : Bool)
  /-- The number `± significand · 2 ^ exponent`. -/
  | finite (negative : Bool) (significand : Nat) (exponent : Int)
  deriving DecidableEq, Repr

/-- Decodes sign, exponent field and fraction. -/
def parts (x : Float) : Parts :=
  let bits := x.toBits.toNat
  let negative := bits / twoPow 63 % 2 == 1
  let field : Nat := bits / twoPow 52 % twoPow 11
  let fraction : Nat := bits % twoPow 52
  if field = 2047 then (if fraction = 0 then .infinite negative else .nan)
  else if field = 0 then .finite negative fraction (-1074)
  else .finite negative (twoPow 52 + fraction) ((field : Int) - 1075)

/-- The number with the given sign, significand below `2 ^ 53` and exponent of at least `-1074`. -/
def assemble (negative : Bool) (significand : Nat) (exponent : Int) : Float :=
  let field := (exponent + 1075).toNat
  let magnitude :=
    if significand < twoPow 52 then significand
    else if 2047 ≤ field then 2047 * twoPow 52
    else field * twoPow 52 + (significand - twoPow 52)
  Float.ofBits (UInt64.ofNat (magnitude + if negative then twoPow 63 else 0))

/-- The quotient `n / d` divided by a power of two, again as a quotient. -/
def overPowerOfTwo (n d : Nat) (e : Int) : Nat × Nat :=
  if 0 ≤ e then (n, d * twoPow e.toNat) else (n * twoPow (-e).toNat, d)

/-- The binary64 number nearest to `± n / d`, a tie going to the even significand. -/
def ofQuotient (negative : Bool) (n d : Nat) : Float :=
  if n = 0 then assemble negative 0 (-1074)
  else
    let guess : Int := (n.log2 : Int) - d.log2
    let (a, b) := overPowerOfTwo n d guess
    let exponent := if a < b then guess - 1 else guess
    let unit := max (exponent - 52) (-1074)
    let (a, b) := overPowerOfTwo n d unit
    let significand := roundDiv a b
    if significand = twoPow 53 then assemble negative (twoPow 52) (unit + 1)
    else assemble negative significand unit

/-- The binary64 number nearest to an integer. -/
def ofInt (i : Int) : Float := ofQuotient (i < 0) i.natAbs 1

/-- The binary64 number nearest to a decimal. -/
def ofDecimal (x : Decimal) : Float :=
  if x.mantissa = 0 then ofQuotient false 0 1
  else if 310 < x.magnitude then assemble false (twoPow 52) 972
  else if x.magnitude < -330 then ofQuotient false 0 1
  else
    let (n, d) := x.toQuotient
    ofQuotient false n d

/-- The magnitude of a finite number as a quotient. -/
def toQuotient (significand : Nat) (exponent : Int) : Nat × Nat :=
  overPowerOfTwo significand 1 (-exponent)

/-- The integer nearest to `x · 10 ^ places`, a tie going to the even one; zero if `x` is not
finite. -/
def roundAt (places : Nat) (x : Float) : Int :=
  match parts x with
  | .finite negative m q =>
    let (n, d) := toQuotient m q
    let r := roundDiv (n * tenPow places) d
    if negative then -r else r
  | _ => 0

/-- The integer part of `x`; zero if `x` is not finite. -/
def truncate (x : Float) : Int :=
  match parts x with
  | .finite negative m q =>
    let (n, d) := toQuotient m q
    if negative then -(n / d : Nat) else (n / d : Nat)
  | _ => 0

/-! ## The fewest digits that read back -/

/-- The digits and decimal exponent of the shortest decimal that rounds to the number
`significand · 2 ^ exponent`; of several equally short ones the nearest. -/
def shortest (significand : Nat) (exponent : Int) : Nat × Int :=
  if significand = 0 then (0, 0)
  else
    -- All of the interval that rounds to the number is measured in quarters of its unit.
    let low := 4 * significand - (if significand = twoPow 52 ∧ -1074 < exponent then 1 else 2)
    let high := 4 * significand + 2
    let closed := significand % 2 = 0
    let (n, d) := toQuotient significand exponent
    let leading := decimalExponent n d
    /- The value of `c` units of the grid, in quarters: a quotient. -/
    let quarters (c : Nat) (grid : Int) : Nat × Nat :=
      let (a, b) := timesPowerOfTen c 1 grid
      overPowerOfTwo a b (exponent - 2)
    let inside (c : Nat) (grid : Int) : Bool :=
      let (a, b) := quarters c grid
      if closed then low * b ≤ a ∧ a ≤ high * b else low * b < a ∧ a < high * b
    let candidate (k : Nat) : Option (Nat × Int) :=
      let grid := leading - k
      let (a, b) := timesPowerOfTen n d (-grid)
      let below := a / b
      let above := below + 1
      let nearer := if 2 * (a % b) < b ∨ (2 * (a % b) = b ∧ below % 2 = 0) then below else above
      match inside below grid, inside above grid with
      | true, true => some (nearer, grid)
      | true, false => some (below, grid)
      | false, true => some (above, grid)
      | false, false => none
    ((List.range 17).findSome? candidate).getD (significant 17 n d |>.1, leading - 16)

/-! ## Texts -/

/-- Spells a finite number with `spell`, which is given its magnitude as a quotient. -/
def spelled (spell : Nat → Nat → List Char) (x : Float) : List Char :=
  match parts x with
  | .nan => ['n', 'a', 'n']
  | .infinite negative => (if negative then ['-'] else []) ++ ['i', 'n', 'f']
  | .finite negative m q =>
    let (n, d) := toQuotient m q
    (if negative then ['-'] else []) ++ spell n d

/-- Fixed-point text with exactly `places` digits after the point. -/
def fixedText (places : Nat) (x : Float) : List Char :=
  spelled (fun n d => fixedPoint places (roundDiv (n * tenPow places) d)) x

/-- Exponent text with `places` digits after the point. -/
def scientificText (places : Nat) (x : Float) : List Char :=
  spelled (scientific places) x

/-- Text with at most `k` significant digits, with an exponent where that is customary. -/
def generalText (k : Nat) (x : Float) : List Char :=
  spelled (general k) x

/-- Shortest digits with a point: an exponent is written when the leading digit is below
`10 ^ -4` or at `10 ^ 16` and above, and a whole number ends in `.0`. -/
def positional (ds : List Char) (leading : Int) : List Char :=
  if leading < -4 ∨ 16 ≤ leading then
    pointAfterFirst ds ++ 'e' :: exponentDigits leading
  else if leading < 0 then
    '0' :: '.' :: (List.replicate (-leading - 1).toNat '0' ++ ds)
  else
    let whole := (leading + 1).toNat
    let fraction := ds.drop whole
    ds.take whole ++ List.replicate (whole - ds.length) '0'
      ++ '.' :: (if fraction.isEmpty then ['0'] else fraction)

/-- The shortest text that reads back as the same number. -/
def shortestText (x : Float) : List Char :=
  match parts x with
  | .nan => ['n', 'a', 'n']
  | .infinite negative => (if negative then ['-'] else []) ++ ['i', 'n', 'f']
  | .finite negative m q =>
    let (c, grid) := shortest m q
    let all := digits c
    let ds := (all.reverse.dropWhile (· == '0')).reverse
    let ds := if ds.isEmpty then ['0'] else ds
    let leading := if m = 0 then 0 else grid + all.length - 1
    (if negative then ['-'] else []) ++ positional ds leading

/-! ## Arithmetic -/

/-- The binary64 number nearest to the length of the vector `(x, y)`. -/
def hypot (x y : Float) : Float :=
  match parts x, parts y with
  | .infinite _, _ => Float.abs x
  | _, .infinite _ => Float.abs y
  | .finite _ m p, .finite _ n q =>
    let e := min p q
    let a := m * twoPow (p - e).toNat
    let b := n * twoPow (q - e).toNat
    let s := a * a + b * b
    -- Sixty-four more binary places than the root has; the last one is sticky.
    let root := Nat.sqrt (s * twoPow 128)
    let sticky := if root * root = s * twoPow 128 then 0 else 1
    let (c, d) := toQuotient (2 * root + sticky) (e - 65)
    ofQuotient false c d
  | _, _ => x + y

/-- The circumference ratio, and how many radians a degree has. -/
def radiansPerDegree : Float := Float.ofBits 0x400921FB54442D18 / ofInt 180

instance : Arith Float where
  decideLT := Float.decLt
  decideLE := Float.decLe
  ofInt := ofInt
  ofDecimal := ofDecimal
  abs := Float.abs
  isFinite := Float.isFinite
  sqrt := Float.sqrt
  hypot := hypot
  sinDegrees x := Float.sin (x * radiansPerDegree)
  cosDegrees x := Float.cos (x * radiansPerDegree)
  roundAt := roundAt
  integerPart := truncate
  general := generalText 6

end Binary64

end DiagramScript
