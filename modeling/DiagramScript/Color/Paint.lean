import DiagramScript.Color.Names
import DiagramScript.Number.Arith
import DiagramScript.Text.Lowercase

/-!
# Paints and colour tables

What a line or an area is painted with, how scripts write it as a number, and the
tables in which names of colours are looked up.

* `Paint` — nothing, or a colour with three channels; `Paint.toNumber` packs it into
  `0xRRGGBB`, with `-1` for no paint, and `Paint.ofNumber` unpacks the integer part
  of a number.
* `ColorTable` — which names are colours and what they resolve to.  A table may know
  a name that it cannot resolve.
* `Paint.ofInteger_mod` — only the low twenty-four bits of a number make its colour.
-/

namespace DiagramScript

/-! ## Paints -/

/-- A colour given by its channels. -/
structure Rgb where
  /-- The red channel. -/
  red : Nat
  /-- The green channel. -/
  green : Nat
  /-- The blue channel. -/
  blue : Nat
  deriving DecidableEq, Repr

/-- What an outline or an area is painted with; nothing paints nothing. -/
abbrev Paint := Option Rgb

namespace Paint

/-- The paint as a number: `0xRRGGBB`, or `-1` for no paint. -/
def toNumber : Paint → Int
  | none => -1
  | some c => ((c.red <<< 16 ||| c.green <<< 8 ||| c.blue : Nat) : Int)

/-- The paint an integer stands for: none when it is negative, and otherwise the colour
of its low twenty-four bits. -/
def ofInteger (i : Int) : Paint :=
  if i < 0 then none
  else
    let n := i.toNat % 0x1000000
    some ⟨n / 0x10000, n / 0x100 % 0x100, n % 0x100⟩

/-- The paint a number stands for, which is the paint of its integer part. -/
def ofNumber {K : Type} [Arith K] (x : K) : Except Fault Paint :=
  (Arith.truncate x).map ofInteger

/-- The paint as style sheets write it. -/
def css : Paint → String
  | none => "none"
  | some c => "rgb(" ++ toString c.red ++ "," ++ toString c.green ++ "," ++ toString c.blue ++ ")"

/-- A negative integer is no paint. -/
theorem ofInteger_of_neg {i : Int} (h : i < 0) : ofInteger i = none := by
  simp [ofInteger, h]

/-- Only the low twenty-four bits of an integer matter. -/
theorem ofInteger_mod (n : Nat) :
    ofInteger ((n % 0x1000000 : Nat) : Int) = ofInteger (n : Int) := by
  have h1 : ¬ ((n % 0x1000000 : Nat) : Int) < 0 := by omega
  have h2 : ¬ ((n : Nat) : Int) < 0 := by omega
  simp only [ofInteger, h1, h2, if_false, Int.toNat_natCast, Nat.mod_mod]

end Paint

/-! ## Colour tables -/

/-- The names that stand for no paint. -/
def noPaintNames : List String := ["none", "off"]

/-- A table of colours. -/
structure ColorTable where
  /-- Whether a word is the name of a colour. -/
  knows : String → Bool
  /-- The paint a name stands for, if it has one. -/
  resolve : String → Option Paint

namespace ColorTable

/-- The number a name stands for in an expression. -/
def value? (t : ColorTable) (name : String) : Option Int := (t.resolve name).map Paint.toNumber

/-- The table with the given entries, looked up in small letters.  An entry without a paint
is a name that is known but cannot be resolved. -/
def ofEntries (entries : List (String × Option Paint)) : ColorTable where
  knows name := (entries.lookup (lowercase name)).isSome
  resolve name := (entries.lookup (lowercase name)).join

/-- The table scripts use unless they are given another: the named colours and the names
for no paint. -/
def standard : ColorTable :=
  ofEntries (noPaintNames.map (fun n => (n, some none))
    ++ colorNames.map (fun e => (e.1, some (Paint.ofInteger e.2))))

/-- Whatever resolves is known. -/
theorem knows_of_resolve {entries : List (String × Option Paint)} {name : String} {p : Paint}
    (h : (ofEntries entries).resolve name = some p) : (ofEntries entries).knows name = true := by
  simp only [ofEntries] at h ⊢
  cases hl : entries.lookup (lowercase name) with
  | none => simp [hl] at h
  | some e => rfl

end ColorTable

end DiagramScript
