import DiagramScript.Number.Arith

/-!
# Units of length

A literal may carry a unit, and lengths are kept in inches.

* `LengthUnit` — the six units; `LengthUnit.ofName?` reads one, and
  `LengthUnit.ofName?_name` says that it reads back every name.
* `LengthUnit.inches` — how many inches a unit is.
* `toInches` — the length of a literal with or without a unit.
-/

namespace DiagramScript

/-- A unit of length. -/
inductive LengthUnit where
  /-- The inch. -/
  | inch
  /-- The centimetre. -/
  | centimetre
  /-- The millimetre. -/
  | millimetre
  /-- The pixel, of which an inch has 96. -/
  | pixel
  /-- The point, of which an inch has 72. -/
  | point
  /-- The pica, of which an inch has 6. -/
  | pica
  deriving DecidableEq, Repr

namespace LengthUnit

/-- The units with their names. -/
def all : List LengthUnit := [inch, centimetre, millimetre, pixel, point, pica]

/-- The suffix that names a unit. -/
def name : LengthUnit → String
  | inch => "in"
  | centimetre => "cm"
  | millimetre => "mm"
  | pixel => "px"
  | point => "pt"
  | pica => "pc"

/-- The unit with the given name. -/
def ofName? (s : String) : Option LengthUnit := all.find? (·.name = s)

/-- Every unit is found under its name. -/
theorem ofName?_name (u : LengthUnit) : ofName? u.name = some u := by
  cases u <;> decide

/-- The length of a unit in inches. -/
def inches {K : Type} [Arith K] : LengthUnit → K
  | inch => Arith.num 1
  | centimetre => Arith.num 1 / Arith.dec 254 2
  | millimetre => Arith.num 1 / Arith.dec 254 1
  | pixel => Arith.num 1 / Arith.num 96
  | point => Arith.num 1 / Arith.num 72
  | pica => Arith.num 1 / Arith.num 6

/-- What is said of a word that is no unit. -/
def unknownMessage (s : String) : String := "unknown length unit: " ++ s

end LengthUnit

/-- A length in inches; without a unit it is in inches already. -/
def toInches {K : Type} [Arith K] (x : K) : Option LengthUnit → K
  | none => x
  | some u => x * u.inches

/-- A length whose unit is given by name, in inches. -/
def toInchesNamed {K : Type} [Arith K] (x : K) : Option String → Except String K
  | none => .ok x
  | some s =>
    match LengthUnit.ofName? s with
    | some u => .ok (toInches x (some u))
    | none => .error (LengthUnit.unknownMessage s)

end DiagramScript
