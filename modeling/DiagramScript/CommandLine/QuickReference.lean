/-!
# The quick reference

* `quickReference` — a summary of the language of scripts.
-/

namespace DiagramScript

namespace CommandLine

/-- The lines of the quick reference. -/
def quickReferenceLines : List String := [
  "# picscript quick reference",
  "",
  "Units are inches unless suffixed (`in cm mm px pt pc`). The y axis points up.",
  "",
  "## Objects",
  "",
  "    box  circle  ellipse  oval  cylinder  file  diamond  dot  text",
  "    line  arrow  spline  arc  move  \"bare string\"  [ ... ]",
  "",
  "Objects stack along the current direction (`right` by default): each new",
  "object's entry edge touches the previous object's exit edge.",
  "",
  "    box \"A\"; arrow; box \"B\"          # A -> B left to right",
  "    down; circle; arrow; circle      # vertical flow",
  "",
  "## Labels and references",
  "",
  "    A: box                            # label (upper-case initial)",
  "    P: A.ne + (0.2, 0)                # place: a named point",
  "    arrow from A.e to B.w",
  "    2nd box   last circle   2nd last box   previous",
  "    G.A       3rd box in G            # objects inside container G",
  "",
  "## Attributes",
  "",
  "    width 1 | wid 150% | height .3 | ht | radius | rad | diameter",
  "    thickness .02 | thick | thin | color red | fill 0xffcc00",
  "    solid | dotted [len] | dashed [len] | invisible | invis",
  "    at POS | with .nw at POS | same [as OBJ] | fit",
  "    from POS | to POS | then | right/left/up/down [dist] | heading 45 [dist]",
  "    until even with POS | chop | close | cw | ccw | -> | <- | <->",
  "    \"text\" above below ljust rjust center bold italic mono big small",
  "",
  "## Positions",
  "",
  "    x, y          (A, B)  (x of A, y of B)    A.n   n of A   2nd vertex of L",
  "    POS + (dx, dy)        1 above A   .5 ne of A   1 heading 30 from A",
  "    between A and B       1/3 of the way between A and B   .25 <A, B>",
  "",
  "## Expressions and statements",
  "",
  "    boxwid = 1; $x += 0.5            # variables, = += -= *= /=",
  "    abs() cos() sin() sqrt() min() max() int() dist(A, B)",
  "    A.x  A.y  A.width  A.ht  A.rad",
  "    print \"width is\", A.width",
  "    assert(A.e.x == B.w.x)",
  "    define row \x7b box $1; arrow \x7d     # macros with $1..$9",
  "    row(\"one\"); row(\"two\")"]

/-- A summary of the language of scripts. -/
def quickReference : String := "".intercalate (quickReferenceLines.map (· ++ "\n"))

end CommandLine

end DiagramScript
