import DiagramScript.Object.Style
import DiagramScript.Text.Blank

/-!
# The extent of text

Without fonts at hand the width of a text is estimated: every character counts as a
fraction of the font size, and narrow and wide letters are told apart.

* `estimatedWidth` — the estimate; `estimatedWidth_append` says that it goes on where the
  estimate of the first part of a text stops.
* `Measurer` — how the width of a line is found; `standardMeasurer` is the estimate.
* `textBlockSize` — width and height of several lines below each other.
-/

namespace DiagramScript

variable {K : Type} [Arith K]

/-! ## One line -/

/-- The share of the font size that a character takes. -/
def charShare (c : Char) : K :=
  if isBlank c then Arith.dec 33 2
  else if c = 'i' ∨ c = 'l' then Arith.dec 3 1
  else if c = 'm' ∨ c = 'w' ∨ c = 'M' ∨ c = 'W' ∨ c = '@' ∨ c = '#' then Arith.dec 9 1
  else Arith.dec 6 1

/-- The estimated width of a text in a font of the given size; in a font of fixed width all
characters count alike. -/
def estimatedWidth (cs : List Char) (fontSize : K) (mono : Bool) : K :=
  if mono then Arith.num cs.length * fontSize * Arith.dec 6 1
  else cs.foldl (fun w c => w + fontSize * charShare c) (Arith.num 0)

/-- The estimated width of two texts in a row is that of the second, added to that of the
first character by character. -/
theorem estimatedWidth_append (cs ds : List Char) (fontSize : K) :
    estimatedWidth (cs ++ ds) fontSize false =
      ds.foldl (fun w c => w + fontSize * charShare c) (estimatedWidth cs fontSize false) := by
  simp [estimatedWidth, List.foldl_append]

/-- Pixels to the inch. -/
def pixelsPerInch : K := Arith.num 96

/-- How the width of a text at a size in inches is found; the last two arguments say whether it
is of fixed width and whether it is bold. -/
abbrev Measurer (K : Type) := String → K → Bool → Bool → Except Fault K

/-- The estimate.  Fonts come in whole pixels, so there must be a whole number near to the size
in pixels. -/
def standardMeasurer : Measurer K := fun text size mono _ => do
  let pixels := size * pixelsPerInch
  let _ ← Arith.nearest pixels
  .ok (estimatedWidth text.toList pixels mono / pixelsPerInch)

/-! ## Several lines -/

/-- Width and height of some lines of text below each other, added to those given. -/
def growBlock (measure : Measurer K) (size : K) (block : K × K) :
    List TextLine → Except Fault (K × K)
  | [] => .ok block
  | line :: rest => do
    let height := size * line.scale
    let width ← measure line.text height line.mono line.bold
    growBlock measure size (Arith.greatest block.1 width, block.2 + height) rest

/-- Width and height of some lines of text below each other. -/
def textBlockSize (measure : Measurer K) (lines : List TextLine) (charHeight fontScale : K) :
    Except Fault (K × K) :=
  growBlock measure (charHeight * fontScale) (Arith.num 0, Arith.num 0) lines

end DiagramScript
