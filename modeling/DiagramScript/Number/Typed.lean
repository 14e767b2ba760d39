import DiagramScript.Number.Binary64
import DiagramScript.Text.Blank
import DiagramScript.Text.DecimalDigit
import DiagramScript.Text.Lowercase

/-!
# Numbers as people type them

A number may have blanks around it, a sign, digits of any script, and underscores
between its digits.  Infinities and undefined numbers have names.

* `Binary64.ofTyped?` — the number that a text spells.
* `isNegativeNumeral` — a minus sign, and digits with at most one point.
-/

namespace DiagramScript

namespace Binary64

/-! ## Preparation -/

/-- A digit of any script as an ASCII digit, and a blank that is no ASCII character as a space;
other characters stay. -/
def plainChar (c : Char) : Char :=
  match digitValue? c with
  | some n => Char.ofNat (48 + n)
  | none => if isBlank c && 127 < c.toNat then ' ' else c

/-- Whether a character may stand before and after a number: a space, or an ASCII control that
moves the cursor. -/
def isMargin (c : Char) : Bool := c = ' ' || ('\t' ≤ c && c ≤ '\r')

/-- A text without the blanks around it. -/
def trimmed (cs : List Char) : List Char :=
  ((cs.dropWhile isMargin).reverse.dropWhile isMargin).reverse

/-- A text without its underscores, all of which must stand between digits. -/
def withoutUnderscores? (previous : Char) : List Char → Option (List Char)
  | [] => if previous = '_' then none else some []
  | c :: cs =>
    if c = '_' then if previous.isDigit then withoutUnderscores? c cs else none
    else if previous = '_' ∧ !c.isDigit then none
    else (withoutUnderscores? c cs).map (c :: ·)

/-! ## Reading -/

/-- An exponent, if it is well-formed: an `e` of either case, a sign, and digits. -/
def isExponent : List Char → Bool
  | [] => true
  | c :: cs =>
    if c = 'e' ∨ c = 'E' then
      let ds := match cs with
        | '+' :: rest => rest
        | '-' :: rest => rest
        | rest => rest
      !ds.isEmpty && ds.all Char.isDigit
    else false

/-- Whether a text is a numeral without a sign: digits with at most one point, and an exponent. -/
def isNumeral (cs : List Char) : Bool :=
  let whole := cs.takeWhile Char.isDigit
  match cs.dropWhile Char.isDigit with
  | '.' :: rest =>
    !(whole.isEmpty && (rest.takeWhile Char.isDigit).isEmpty)
      && isExponent (rest.dropWhile Char.isDigit)
  | rest => !whole.isEmpty && isExponent rest

/-- The number that a text without a sign spells. -/
def magnitude? (cs : List Char) : Option Float :=
  let word := lowerChars cs
  if word = "inf".toList ∨ word = "infinity".toList then some (Float.ofBits 0x7FF0000000000000)
  else if word = "nan".toList then some (Float.ofBits 0x7FF8000000000000)
  else if isNumeral cs then some (ofDecimal (Decimal.ofDecimalLiteral cs))
  else none

/-- The number that a text spells. -/
def ofTyped? (s : String) : Option Float :=
  (withoutUnderscores? ' ' (trimmed (s.toList.map plainChar))).bind fun cs =>
    match cs with
    | '-' :: rest => (magnitude? rest).map (-·)
    | '+' :: rest => magnitude? rest
    | rest => magnitude? rest

end Binary64

/-- Whether a text is a minus sign and digits, with at most one point among or before them; a line
may end after it. -/
def isNegativeNumeral (s : String) : Bool :=
  match s.toList with
  | '-' :: cs =>
    let cs := if cs.getLast? = some '\n' then cs.dropLast else cs
    match cs.dropWhile isDecimalDigit with
    | [] => !cs.isEmpty
    | '.' :: fraction => !fraction.isEmpty && fraction.all isDecimalDigit
    | _ => false
  | _ => false

end DiagramScript
