/-!
# Small letters

Names of colours, anchors and fonts are looked up without regard to case.  The names
in the tables are ASCII, so only those capitals matter whose small form is written
with ASCII letters: the letters A to Z, the Kelvin sign, and the dotted capital I,
whose small form is an `i` followed by a combining dot.

* `lowercase` — the small form of a text; `lowerChar_of_not_upper` says which characters
  are their own small form.
-/

namespace DiagramScript

/-- The small form of one character. -/
def lowerChar (c : Char) : List Char :=
  if c = '\u212A' then ['k']
  else if c = '\u0130' then ['i', '\u0307']
  else [c.toLower]

/-- The small form of a text. -/
def lowerChars (cs : List Char) : List Char := cs.flatMap lowerChar

/-- The small form of a text. -/
def lowercase (s : String) : String := String.ofList (lowerChars s.toList)

/-- A character that is no capital is its own small form. -/
theorem lowerChar_of_not_upper {c : Char} (h : c.toLower = c) (hk : c ≠ '\u212A')
    (hi : c ≠ '\u0130') : lowerChar c = [c] := by
  simp [lowerChar, hk, hi, h]

end DiagramScript
