import DiagramScript.Text.Printable

/-!
# Quoted text in messages

A message that shows a piece of the script quotes it: in single quotes, or in double
quotes when the text has a single quote and no double one.  The quote itself, the
backslash and characters that are not printable are escaped.

* `quoted` — the quoted form of a text.
* `quotedChar_plain` — a printable character that is neither quote nor backslash
  is shown as it is.
-/

namespace DiagramScript

/-- The digits of a number in base sixteen, padded with zeros to the given width. -/
def hexDigits (width n : Nat) : List Char :=
  let ds := Nat.toDigits 16 n
  List.replicate (width - ds.length) '0' ++ ds

/-- How one character is shown between the given quotes. -/
def quotedChar (quote c : Char) : List Char :=
  if c = quote ∨ c = '\\' then ['\\', c]
  else if c = '\n' then ['\\', 'n']
  else if c = '\r' then ['\\', 'r']
  else if c = '\t' then ['\\', 't']
  else if isPrintable c then [c]
  else if c.toNat < 0x100 then '\\' :: 'x' :: hexDigits 2 c.toNat
  else if c.toNat < 0x10000 then '\\' :: 'u' :: hexDigits 4 c.toNat
  else '\\' :: 'U' :: hexDigits 8 c.toNat

/-- The quotes a text is shown in. -/
def quoteFor (cs : List Char) : Char :=
  if cs.contains '\'' && !cs.contains '"' then '"' else '\''

/-- A text as messages show it. -/
def quoted (s : String) : String :=
  let cs := s.toList
  let q := quoteFor cs
  String.ofList (q :: cs.flatMap (quotedChar q) ++ [q])

/-- A character that needs no escape is shown as it is. -/
theorem quotedChar_plain {q c : Char} (hq : c ≠ q) (hb : c ≠ '\\') (hn : c ≠ '\n')
    (hr : c ≠ '\r') (ht : c ≠ '\t') (hp : isPrintable c = true) : quotedChar q c = [c] := by
  simp [quotedChar, hq, hb, hn, hr, ht, hp]

end DiagramScript
