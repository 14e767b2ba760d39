import DiagramScript.Number.Rounding

/-!
# Exact decimal literals

A numeric literal is kept as it was written, as a whole number times a power of
ten, and turned into a machine number only when it is used.  So two literals can be
compared, and a literal can be read into any kind of number.

* `Decimal` — the value of a literal; `Decimal.toQuotient` gives it as a quotient.
* `Decimal.inRange` — whether the nearest binary64 number is finite.  It is decided
  from the digits, without ever raising ten to an exponent that was merely written
  down (`inRange_of_short` and `not_inRange_of_long` are the two quick answers).
-/

namespace DiagramScript

/-- The number `mantissa · 10 ^ exponent`. -/
structure Decimal where
  /-- The digits of the literal, read as one whole number. -/
  mantissa : Nat
  /-- The power of ten it is multiplied by. -/
  exponent : Int
  deriving DecidableEq, Repr, Inhabited

namespace Decimal

/-- A whole number as a decimal. -/
def ofNat (n : Nat) : Decimal := ⟨n, 0⟩

/-- The value as a quotient of naturals. -/
def toQuotient (x : Decimal) : Nat × Nat := timesPowerOfTen x.mantissa 1 x.exponent

/-- One more than the exponent of the leading digit: the value lies below `10 ^ magnitude`. -/
def magnitude (x : Decimal) : Int := (digits x.mantissa).length + x.exponent

/-- The least number that rounds to a binary64 infinity: half a unit above the largest finite
one. -/
def binary64Limit : Nat := twoPow 1024 - twoPow 970

/-- Whether the nearest binary64 number is finite. -/
def inRange (x : Decimal) : Bool :=
  if x.mantissa = 0 then true
  else if 310 < x.magnitude then false
  else if x.magnitude < 300 then true
  else
    let (n, d) := x.toQuotient
    n < binary64Limit * d

/-- Numbers below `10 ^ 300` are in range. -/
theorem inRange_of_short {x : Decimal} (h : x.magnitude < 300) : x.inRange = true := by
  have h' : ¬ 310 < x.magnitude := by omega
  simp [inRange, h, h']

/-- Numbers whose leading digit stands above `10 ^ 310` are not. -/
theorem not_inRange_of_long {x : Decimal} (h0 : x.mantissa ≠ 0) (h : 310 < x.magnitude) :
    x.inRange = false := by
  simp [inRange, h0, h]

/-! ## Reading literals -/

/-- The value of one hexadecimal digit. -/
def hexDigit (c : Char) : Nat :=
  if c.isDigit then c.toNat - '0'.toNat
  else if 'a' ≤ c ∧ c ≤ 'f' then c.toNat - 'a'.toNat + 10
  else c.toNat - 'A'.toNat + 10

/-- The number a digit string denotes in the given base. -/
def digitsValue (base : Nat) (cs : List Char) : Nat :=
  cs.foldl (fun n c => base * n + hexDigit c) 0

/-- The exponent part of a literal, after its `e`: an optional sign and digits. -/
def exponentValue : List Char → Int
  | '-' :: cs => -(digitsValue 10 cs : Int)
  | '+' :: cs => digitsValue 10 cs
  | cs => digitsValue 10 cs

/-- The value of a decimal literal such as `12`, `.5`, `1.` or `2.5e-3`. -/
def ofDecimalLiteral (cs : List Char) : Decimal :=
  let whole := cs.takeWhile Char.isDigit
  let afterWhole := cs.dropWhile Char.isDigit
  let (fraction, afterFraction) :=
    match afterWhole with
    | '.' :: rest => (rest.takeWhile Char.isDigit, rest.dropWhile Char.isDigit)
    | rest => ([], rest)
  let written := match afterFraction with
    | [] => 0
    | _ :: rest => exponentValue rest
  ⟨digitsValue 10 (whole ++ fraction), written - fraction.length⟩

/-- The value of a literal, which is hexadecimal when it starts with `0x`. -/
def ofLiteral : List Char → Decimal
  | '0' :: 'x' :: cs => ofNat (digitsValue 16 cs)
  | '0' :: 'X' :: cs => ofNat (digitsValue 16 cs)
  | cs => ofDecimalLiteral cs

end Decimal

end DiagramScript
