import DiagramScript.Svg.Caption
import DiagramScript.Svg.Shape

/-!
# Documents

* `Svg.elements` — the elements of an object: for a group one that holds those of its
  members, for any other object its shape, the heads of its path and its text.
* `Svg.document` — the document of a diagram.
* `Svg.render` — its text, at a scale and with a margin that are given or else are those
  of the script.
-/

namespace DiagramScript

namespace Svg

variable {K : Type} [Arith K]

/-! ## Objects -/

/-- The elements of an object that is no group.  Text is written even if the object is invisible. -/
def ownElements (c : Canvas K) (o : Object K) : Except Fault (List Markup) := do
  let drawn ←
    if o.style.invisible then .ok []
    else do
      let body ← shape c o
      let heads ← arrowheads c o
      .ok (body ++ heads)
  let lines ← caption c o
  .ok (drawn ++ lines)

/-- The elements of an object; groups that are nested more than `depth` deep are left out. -/
def elementsWithin (c : Canvas K) (r : Registry K) :
    (depth : Nat) → Object K → Except Fault (List Markup)
  | 0, _ => .ok []
  | depth + 1, o =>
    if o.cls = .container then
      if o.style.invisible then .ok []
      else do
        let inner ← (r.objects o.children).mapM (elementsWithin c r depth)
        .ok [.node "g" (nameAttribute o) inner.flatten]
    else ownElements c o

/-- The elements of an object. -/
def elements (c : Canvas K) (d : Diagram K) (o : Object K) : Except Fault (List Markup) :=
  elementsWithin c d.registry d.registry.arena.length o

/-! ## Diagrams -/

/-- The name of the language of documents. -/
def language : String := "http://www.w3.org/2000/svg"

/-- The document of a diagram. -/
def document (d : Diagram K) (scale margin : K) : Except Fault Markup := do
  let c := Canvas.ofDiagram d scale margin
  let width ← numeral c.width
  let height ← numeral c.height
  let inner ← d.objects.mapM (elements c d)
  .ok (.node "svg" [("xmlns", language), ("width", width), ("height", height),
    ("viewBox", "0 0 " ++ width ++ " " ++ height)] inner.flatten)

/-- The text of the document of a diagram; scale and margin are those of the script unless they
are given. -/
def render (d : Diagram K) (scale margin : Option K) : Except Fault String := do
  let scale := scale.getD (d.variableOr "scale" 1 0)
  let margin := margin.getD (d.variableOr "margin" 0 0)
  let m ← document d scale margin
  .ok m.print

end Svg

end DiagramScript
