import DiagramScript.Json.Basic
import DiagramScript.Number.Marked

/-!
# Printing JSON documents

Documents are printed in plain ASCII, on one line or indented.

* `Json.escapeChar`, `Json.quote` — texts: what is no printable ASCII character is
  written by its UTF-16 units.
* `Json.numeral` — numbers, by the fewest digits that read back.
* `Json.compact`, `Json.pretty` — whole documents.
-/

namespace DiagramScript

namespace Json

/-! ## Texts -/

/-- A hexadecimal digit. -/
def hexDigit (n : Nat) : Char := if n < 10 then Char.ofNat (48 + n) else Char.ofNat (87 + n)

/-- A number below `2 ^ 16` in four hexadecimal digits. -/
def hex4 (n : Nat) : List Char :=
  [hexDigit (n / 4096 % 16), hexDigit (n / 256 % 16), hexDigit (n / 16 % 16), hexDigit (n % 16)]

/-- An escape sequence for a UTF-16 unit. -/
def escapeUnit (n : Nat) : List Char := '\\' :: 'u' :: hex4 n

/-- The escape sequences of a character by its code point: one unit, or a pair of them. -/
def escapeCode (n : Nat) : List Char :=
  if n < 0x10000 then escapeUnit n
  else
    let m := n - 0x10000
    escapeUnit (0xd800 + m / 1024) ++ escapeUnit (0xdc00 + m % 1024)

/-- A character inside quotes. -/
def escapeChar (c : Char) : List Char :=
  if c = '"' then ['\\', '"']
  else if c = '\\' then ['\\', '\\']
  else if ' ' ≤ c ∧ c ≤ '~' then [c]
  else if c = '\n' then ['\\', 'n']
  else if c = '\r' then ['\\', 'r']
  else if c = '\t' then ['\\', 't']
  else if c = '\x08' then ['\\', 'b']
  else if c = '\x0c' then ['\\', 'f']
  else escapeCode c.toNat

/-- A text in quotes. -/
def quote (s : String) : List Char := '"' :: (s.toList.flatMap escapeChar ++ ['"'])

/-! ## Numbers -/

/-- The numeral of a number; what is not finite is spelled out. -/
def numeral (x : MachineNumber) : List Char :=
  match Binary64.parts x.value with
  | .nan => "NaN".toList
  | .infinite negative => (if negative then ['-'] else []) ++ "Infinity".toList
  | .finite .. => Binary64.shortestText x.value

/-! ## Documents -/

/-- What stands between brackets or braces, and between the items there. -/
structure Spacing where
  /-- Before the first item, at a given depth. -/
  opening : Nat → List Char
  /-- Between two items. -/
  between : Nat → List Char
  /-- After the last item. -/
  closing : Nat → List Char

/-- Everything stands on one line. -/
def oneLine : Spacing where
  opening _ := []
  between _ := [',', ' ']
  closing _ := []

/-- A new line, indented by two blanks for every level. -/
def newLine (depth : Nat) : List Char := '\n' :: List.replicate (2 * depth) ' '

/-- Every item stands on a line of its own. -/
def indented : Spacing where
  opening depth := newLine (depth + 1)
  between depth := ',' :: newLine (depth + 1)
  closing depth := newLine depth

mutual

/-- A document at some depth of nesting. -/
def print (s : Spacing) (depth : Nat) : Json MachineNumber → List Char
  | null => "null".toList
  | bool true => "true".toList
  | bool false => "false".toList
  | int i => integerDigits i
  | number x => numeral x
  | str t => quote t
  | array [] => ['[', ']']
  | array (x :: xs) =>
    '[' :: (s.opening depth ++ print s (depth + 1) x ++ printItems s depth xs
      ++ s.closing depth ++ [']'])
  | object [] => ['\x7b', '\x7d']
  | object ((name, x) :: fields) =>
    '\x7b' :: (s.opening depth ++ quote name ++ [':', ' '] ++ print s (depth + 1) x
      ++ printFields s depth fields ++ s.closing depth ++ ['\x7d'])

/-- The items of a list but for the first, each after a separator. -/
def printItems (s : Spacing) (depth : Nat) : List (Json MachineNumber) → List Char
  | [] => []
  | x :: xs => s.between depth ++ print s (depth + 1) x ++ printItems s depth xs

/-- The fields of an object but for the first, each after a separator. -/
def printFields (s : Spacing) (depth : Nat) : List (String × Json MachineNumber) → List Char
  | [] => []
  | (name, x) :: fields =>
    s.between depth ++ quote name ++ [':', ' '] ++ print s (depth + 1) x
      ++ printFields s depth fields

end

/-- A document on one line. -/
def compact (j : Json MachineNumber) : String := String.ofList (print oneLine 0 j)

/-- A document with every item on a line of its own. -/
def pretty (j : Json MachineNumber) : String := String.ofList (print indented 0 j)

end Json

end DiagramScript
