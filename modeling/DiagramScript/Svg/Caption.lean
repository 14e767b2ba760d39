import DiagramScript.Svg.Canvas
import DiagramScript.Svg.Markup

/-!
# Captions

The lines of text of an object stand below each other: first those marked as above, then
those without a mark, which are centred on the object, and then those marked as below.

* `Svg.lineOffset` — how far a line is above the middle of its object, in lines.
* `Svg.caption` — one element for every line, in the order of the script.
-/

namespace DiagramScript

namespace Svg

variable {K : Type} [Arith K]

/-! ## Where lines stand -/

/-- Whether a line stands in the block around the middle of its object. -/
def isCentral (line : TextLine) : Bool := !line.above && !line.below

/-- How far a line is above the middle of its object, in lines; it has the given lines before
and after it. -/
def lineOffset (before after : List TextLine) (line : TextLine) : K :=
  let all := before ++ line :: after
  let central := all.countP isCentral
  let beyond := Arith.half (Arith.num central) + Arith.dec 5 1
  if line.below then -(beyond + Arith.num (before.countP (·.below)))
  else if line.above then beyond + Arith.num (after.countP (·.above))
  else Arith.half (Arith.ofInt (central - 1)) - Arith.num (before.countP isCentral)

/-- Each of some lines with its offset, when the given lines stand before them. -/
def offsetsFrom (before : List TextLine) : List TextLine → List (TextLine × K)
  | [] => []
  | line :: after => (line, lineOffset before after line) :: offsetsFrom (before ++ [line]) after

/-- Each line with its offset. -/
def lineOffsets (lines : List TextLine) : List (TextLine × K) := offsetsFrom [] lines

/-- No line is lost, and their order is kept. -/
theorem map_fst_offsetsFrom (before lines : List TextLine) :
    (offsetsFrom (K := K) before lines).map Prod.fst = lines := by
  induction lines generalizing before with
  | nil => rfl
  | cons line after ih => simp [offsetsFrom, ih]

/-! ## Elements -/

/-- The font of a line. -/
def fontFamily (line : TextLine) : String :=
  if line.mono then "Courier New, Courier, monospace" else "Helvetica, Arial, sans-serif"

/-- Which end of a line stands at its place. -/
def textAnchor : Justification → String
  | .left => "start"
  | .right => "end"
  | .center => "middle"

/-- What the text of an object is painted with. -/
def textPaint : Paint → String
  | none => "black"
  | some c => Paint.css (some c)

/-- The attributes that only some lines have. -/
def fontMarks (line : TextLine) : List (String × String) :=
  (if line.bold then [("font-weight", "bold")] else [])
    ++ (if line.italic then [("font-style", "italic")] else [])

/-- The element of a line. -/
def lineElement (c : Canvas K) (o : Object K) (line : TextLine) (offset : K) :
    Except Fault Markup := do
  let place := c.point ⟨o.center.x, o.center.y + offset * c.charHeight⟩
  let x ← numeral place.x
  let y ← numeral place.y
  let size ← c.lengthText (c.charHeight * line.scale)
  .ok (.text "text" ([("x", x), ("y", y), ("text-anchor", textAnchor line.justification),
    ("dominant-baseline", "central"), ("font-family", fontFamily line), ("font-size", size),
    ("fill", textPaint o.style.color)] ++ fontMarks line) line.text)

/-- The elements of all lines of an object. -/
def caption (c : Canvas K) (o : Object K) : Except Fault (List Markup) :=
  (lineOffsets o.text).mapM fun e => lineElement c o e.1 e.2

end Svg

end DiagramScript
