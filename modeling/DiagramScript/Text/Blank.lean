/-!
# Blank characters

The characters that count as white space in a text: the ASCII controls that move the
cursor or separate records, and the Unicode spaces and line separators.

* `isBlank` — the test; `isBlank_of_isWhitespace` says that it accepts whatever the
  ASCII notion of white space accepts.
* `isBlankText` — a text with nothing but blanks.
-/

namespace DiagramScript

/-- Whether a code point is a blank. -/
def isBlankCode (n : Nat) : Bool :=
  (0x09 ≤ n && n ≤ 0x0D) || (0x1C ≤ n && n ≤ 0x20) || n == 0x85 || n == 0xA0
    || n == 0x1680 || (0x2000 ≤ n && n ≤ 0x200A) || n == 0x2028 || n == 0x2029
    || n == 0x202F || n == 0x205F || n == 0x3000

/-- Whether a character is a blank. -/
def isBlank (c : Char) : Bool := isBlankCode c.toNat

/-- Whether a text is empty or made of blanks only. -/
def isBlankText (cs : List Char) : Bool := cs.all isBlank

/-- Every ASCII white space character is a blank. -/
theorem isBlank_of_isWhitespace {c : Char} (h : c.isWhitespace = true) : isBlank c = true := by
  simp only [Char.isWhitespace, Bool.or_eq_true, decide_eq_true_eq] at h
  rcases h with ((h | h) | h) | h <;> subst h <;> decide

end DiagramScript
