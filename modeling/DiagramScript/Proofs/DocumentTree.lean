import DiagramScript.Proofs.DeclaredTexts
import DiagramScript.Proofs.Extents
import DiagramScript.Proofs.TextOffsets
import DiagramScript.Proofs.VisitedObjects

/-!
# The tree of a document

With exact numbers every diagram has a document, and the elements of the document stand in it as the
objects stand in their groups.

* `Succeeds`, `Gives` — computations that do not fail.
* `Svg.shapeTag`, `Svg.headLegs` — what an object that is no group shows: at most one shape, and a
  head at each of some legs.
* `Svg.DrawsOwn`, `Svg.Mirrors` — the elements of one object, and of an object with all it contains.
* `Diagram.IsForest.elementsWithin_mirrors` — how the elements of an object are written.
* `Object.arc_invariant` — every arc has three points.
* `Diagram.Mirrored`, `Diagram.compile_mirrored` — the documents of all scripts.
-/

namespace DiagramScript

/-! ## Computations that do not fail -/

section Computations

variable {α β ε : Type} {E : ε → Prop}

/-- One step after another. -/
theorem Settles.mapM {f : α → Except ε β} {R : α → β → Prop} {xs : List α}
    (h : ∀ x ∈ xs, Settles E (R x) (f x)) : Settles E (List.Forall₂ R xs) (xs.mapM f) := by
  induction xs with
  | nil => exact .of_ok .nil
  | cons x xs ih =>
    rw [List.mapM_cons]
    refine (h x List.mem_cons_self).bind fun y hy => ?_
    refine (ih fun z hz => h z (List.mem_cons_of_mem _ hz)).bind fun ys hys => ?_
    exact .of_ok (.cons hy hys)

theorem Succeeds.mapM {f : α → Except ε β} {xs : List α} (h : ∀ x ∈ xs, Succeeds (f x)) :
    Succeeds (xs.mapM f) :=
  (Settles.mapM (R := fun _ _ => True) h).imp fun _ _ => trivial

end Computations

variable {K : Type} [ExactNumber K]

namespace Svg

/-! ## Numbers and attributes -/

/-- Every exact number has a numeral. -/
theorem numeral_succeeds (x : K) : Succeeds (numeral x) := by
  have nearest : Arith.nearest x = .ok (Arith.roundAt 0 x) := rfl
  unfold numeral Arith.compact
  rw [nearest, ok_bind]
  split_ifs <;> exact .of_ok trivial

variable (c : Canvas K) (o : Object K)

theorem pointsText_succeeds (ps : List (Point K)) : Succeeds (c.pointsText ps) := by
  refine (Succeeds.mapM fun p _ => ?_).bind fun texts _ => .of_ok trivial
  exact (numeral_succeeds _).bind fun _ _ => (numeral_succeeds _).bind fun _ _ => .of_ok trivial

theorem numberAttributes_succeeds (pairs : List (String × K)) :
    Succeeds (numberAttributes pairs) :=
  .mapM fun _ _ => (numeral_succeeds _).map fun _ _ => trivial

theorem pathText_succeeds (pieces : List (PathPiece K)) : Succeeds (pathText pieces) := by
  refine (Succeeds.mapM fun piece _ => ?_).bind fun texts _ => .of_ok trivial
  cases piece with
  | word s => exact .of_ok trivial
  | coordinate x => exact numeral_succeeds x

theorem dashAttributes_succeeds (s : Style K) : Succeeds (dashAttributes c s) := by
  unfold dashAttributes
  split
  · exact (numeral_succeeds _).bind fun _ _ => .of_ok trivial
  · exact (numeral_succeeds _).bind fun _ _ => (numeral_succeeds _).bind fun _ _ => .of_ok trivial
  · exact .of_ok trivial

theorem strokeAttributes_succeeds (filled : Bool) : Succeeds (strokeAttributes c o filled) :=
  (numeral_succeeds _).bind fun _ _ => (dashAttributes_succeeds c o.style).bind fun _ _ =>
    .of_ok trivial

/-! ## Shapes -/

/-- Whether an element is of some kind and holds no others. -/
def IsElement (tag : String) (m : Markup) : Prop := ∃ attributes, m = .node tag attributes []

/-- The kind of element that an object is drawn as; texts, moves and groups are not drawn. -/
def shapeTag (o : Object K) : Option String :=
  let line := if o.style.closed then "polygon" else "polyline"
  match o.cls with
  | .box | .oval => some "rect"
  | .circle | .dot => some "circle"
  | .ellipse => some "ellipse"
  | .diamond => some "polygon"
  | .cylinder | .file | .arc => some "path"
  | .line | .arrow => some line
  | .spline => some (if 3 ≤ o.points.length then "path" else line)
  | .text | .move | .container => none

theorem rectangle_gives : Gives (IsElement "rect") (rectangle c o) := by
  refine (strokeAttributes_succeeds c o true).bind fun stroke _ => ?_
  refine (numberAttributes_succeeds _).bind fun sides _ => .ite ?_ (.of_ok ⟨_, rfl⟩)
  exact (numberAttributes_succeeds _).bind fun corners _ => .of_ok ⟨_, rfl⟩

theorem ellipse_gives :
    Gives (IsElement (if o.cls = .ellipse then "ellipse" else "circle")) (ellipse c o) := by
  refine (strokeAttributes_succeeds c o true).bind fun stroke _ => ?_
  refine (numberAttributes_succeeds _).bind fun middle _ => ?_
  split_ifs
  · exact (numberAttributes_succeeds _).bind fun radii _ => .of_ok ⟨_, rfl⟩
  · exact (numberAttributes_succeeds _).bind fun radius _ => .of_ok ⟨_, rfl⟩

theorem diamond_gives : Gives (IsElement "polygon") (diamond c o) :=
  (strokeAttributes_succeeds c o true).bind fun _ _ => (pointsText_succeeds c _).bind fun _ _ =>
    .of_ok ⟨_, rfl⟩

theorem outlined_gives (filled : Bool) (pieces : List (PathPiece K)) :
    Gives (IsElement "path") (outlined c o filled pieces) :=
  (pathText_succeeds pieces).bind fun _ _ => (strokeAttributes_succeeds c o filled).bind fun _ _ =>
    .of_ok ⟨_, rfl⟩

theorem cylinder_gives : Gives (IsElement "path") (cylinder c o) :=
  (pathText_succeeds _).bind fun _ _ => outlined_gives c o _ _

theorem polyline_gives :
    Gives (IsElement (if o.style.closed then "polygon" else "polyline")) (polyline c o) :=
  (strokeAttributes_succeeds c o _).bind fun _ _ => (pointsText_succeeds c _).bind fun _ _ =>
    .of_ok ⟨_, rfl⟩

/-- A spline is a curve if it has at least three points, and a line otherwise. -/
theorem spline_gives : Gives (IsElement (if 3 ≤ o.points.length then "path"
    else if o.style.closed then "polygon" else "polyline")) (spline c o) := by
  unfold spline
  have same : o.points.length = (o.points.map c.point).length := List.length_map _ |>.symm
  rw [same]
  rcases o.points.map c.point with _ | ⟨start, _ | ⟨second, _ | ⟨third, rest⟩⟩⟩
  · exact polyline_gives c o
  · exact polyline_gives c o
  · exact polyline_gives c o
  · rw [if_pos (by simp)]
    exact outlined_gives c o _ _

theorem arc_gives : Gives (IsElement "path") (arc c o) :=
  (strokeAttributes_succeeds c o _).bind fun _ _ => (pathText_succeeds _).bind fun _ _ =>
    .of_ok ⟨_, rfl⟩

/-- An object is drawn as one element, unless its class has none. -/
theorem shape_gives :
    Gives (List.Forall₂ IsElement (shapeTag o).toList) (shape c o) := by
  have single : ∀ {tag} {r : Except Fault Markup}, Gives (IsElement tag) r →
      Gives (List.Forall₂ IsElement [tag]) (r.map ([·])) :=
    fun h => h.map fun _ hm => .cons hm .nil
  unfold shape shapeTag
  cases cls : o.cls with
  | box => exact single (rectangle_gives c o)
  | oval => exact single (rectangle_gives c o)
  | circle =>
    have := ellipse_gives c o
    rw [cls, if_neg (by decide)] at this
    exact single this
  | dot =>
    have := ellipse_gives c o
    rw [cls, if_neg (by decide)] at this
    exact single this
  | ellipse =>
    have := ellipse_gives c o
    rw [cls, if_pos rfl] at this
    exact single this
  | diamond => exact single (diamond_gives c o)
  | cylinder => exact single (cylinder_gives c o)
  | file => exact single (outlined_gives c o _ _)
  | line => exact single (polyline_gives c o)
  | arrow => exact single (polyline_gives c o)
  | spline => exact single (spline_gives c o)
  | arc => exact single (arc_gives c o)
  | text => exact .of_ok .nil
  | move => exact .of_ok .nil
  | container => exact .of_ok .nil

/-! ## Heads and texts -/

/-- The leg that leads to the first of some points. -/
def firstLeg : List (Point K) → List (Point K × Point K)
  | tip :: tail :: _ => [(tail, tip)]
  | _ => []

/-- Whether a leg has a length. -/
def isLong (leg : Point K × Point K) : Bool := !Arith.isZero (leg.1.distance leg.2)

/-- The legs of a path that get a head: the last, if it has a length and a head is asked for there,
and then the first. -/
def headLegs (o : Object K) : List (Point K × Point K) :=
  if o.cls.isLine && o.cls ≠ .move then
    (if o.style.arrowEnd then (firstLeg o.points.reverse).filter isLong else []) ++
      if o.style.arrowStart then (firstLeg o.points).filter isLong else []
  else []

/-- Whether an element is the head at the end of a leg. -/
def IsHead (leg : Point K × Point K) (m : Markup) : Prop :=
  ∃ corners points, headCorners c leg.1 leg.2 = some corners ∧ corners.head? = some leg.2 ∧
    c.pointsText corners = .ok points ∧ m = .node "polygon" [("points", points),
      ("fill", Paint.css o.style.color), ("stroke", Paint.css o.style.color)] []

/-- A leg with a length gets a head, and no other. -/
theorem arrowhead_gives (tail tip : Point K) : Gives
    (List.Forall₂ (IsHead c o) ([(tail, tip)].filter isLong)) (arrowhead c o tail tip) := by
  unfold arrowhead
  by_cases long : isLong (tail, tip) = true
  · have some : ∃ corners, headCorners c tail tip = some corners ∧ corners.head? = some tip := by
      unfold headCorners
      rw [if_neg (by simpa [isLong, Point.distance] using long)]
      exact ⟨_, rfl, rfl⟩
    obtain ⟨corners, made, first⟩ := some
    rw [made, List.filter_cons_of_pos long]
    obtain ⟨points, written, -⟩ := (pointsText_succeeds c corners).exists_eq_ok
    simp only [written, ok_bind]
    exact .of_ok (.cons ⟨corners, points, made, first, written, rfl⟩ .nil)
  · have none : headCorners c tail tip = none := by
      unfold headCorners
      rw [if_pos (by simpa [isLong, Point.distance] using long)]
    rw [none, List.filter_cons_of_neg long]
    exact .of_ok .nil

theorem headAt_gives (asked : Bool) (points : List (Point K)) : Gives
    (List.Forall₂ (IsHead c o) (if asked then (firstLeg points).filter isLong else []))
    (headAt c o asked points) := by
  rcases points with _ | ⟨tip, _ | ⟨tail, rest⟩⟩
  · cases asked <;> exact .of_ok .nil
  · cases asked <;> exact .of_ok .nil
  · cases asked
    · exact .of_ok .nil
    · exact arrowhead_gives c o tail tip

theorem arrowheads_gives : Gives (List.Forall₂ (IsHead c o) (headLegs o)) (arrowheads c o) := by
  unfold arrowheads headLegs
  by_cases headed : (o.cls.isLine && o.cls ≠ .move) = true
  · rw [if_pos headed, if_pos headed]
    refine (headAt_gives c o _ _).bind fun atEnd he => ?_
    refine (headAt_gives c o _ _).bind fun atStart hs => ?_
    exact .of_ok (List.rel_append he hs)
  · rw [if_neg headed, if_neg headed]
    exact .of_ok .nil

/-- The elements of the lines of an object: one for each, in their order, at the offset that is
looked up for it. -/
structure Captions (lines : List Markup) : Prop where
  /-- No line is lost, and none is added. -/
  count : lines.length = o.text.length
  /-- The offset of each line is found, and its element has the text of the line. -/
  each : ∀ i line, o.text[i]? = some line → ∃ offset attributes,
    (offsetTable o.text).lookup i = some offset ∧
    lineElement c o line offset = .ok (.text "text" attributes line.text) ∧
    lines[i]? = some (.text "text" attributes line.text)

/-- A line has one element. -/
theorem lineElement_succeeds (line : TextLine) (offset : K) :
    ∃ attributes, lineElement c o line offset = .ok (.text "text" attributes line.text) := by
  obtain ⟨m, hm, attributes, rfl⟩ : ∃ m, lineElement c o line offset = .ok m ∧
      ∃ attributes, m = .text "text" attributes line.text :=
    Settles.exists_eq_ok <| (numeral_succeeds _).bind fun _ _ =>
      (numeral_succeeds _).bind fun _ _ => (numeral_succeeds _).bind fun _ _ => .of_ok ⟨_, rfl⟩
  exact ⟨attributes, hm⟩

theorem caption_gives : Gives (Captions c o) (caption c o) := by
  have all : Gives (List.Forall₂ (fun e m => lineElement c o e.1 e.2 = .ok m)
      (lineOffsets o.text)) (caption c o) := by
    refine Settles.mapM fun e _ => ?_
    obtain ⟨attributes, written⟩ := lineElement_succeeds c o e.1 e.2
    rw [written]
    exact .of_ok rfl
  refine all.imp fun lines h => ?_
  have count : (lineOffsets (K := K) o.text).length = o.text.length := by
    rw [← List.length_map (f := Prod.fst), lineOffsets, map_fst_offsetsFrom]
  refine ⟨h.length_eq.symm.trans count, fun i line hi => ?_⟩
  obtain ⟨offset, found, listed⟩ := exists_offset (K := K) hi
  obtain ⟨hlt, he⟩ := List.getElem?_eq_some_iff.1 listed
  obtain ⟨attributes, written⟩ := lineElement_succeeds c o line offset
  have hm := h.get hlt (h.length_eq ▸ hlt)
  rw [List.get_eq_getElem, he, written] at hm
  refine ⟨_, attributes, found, written, ?_⟩
  exact List.getElem?_eq_some_iff.2 ⟨_, (Except.ok.inj hm).symm⟩

/-! ## Objects -/

/-- The elements of an object that is no group: its shape and its heads, unless it is invisible,
and then its text. -/
def DrawsOwn (ms : List Markup) : Prop :=
  ∃ body heads lines, ms = body ++ heads ++ lines ∧
    List.Forall₂ IsElement (if o.style.invisible then [] else (shapeTag o).toList) body ∧
    List.Forall₂ (IsHead c o) (if o.style.invisible then [] else headLegs o) heads ∧
    Captions c o lines

theorem ownElements_gives : Gives (DrawsOwn c o) (ownElements c o) := by
  unfold ownElements DrawsOwn
  by_cases hidden : o.style.invisible = true
  · simp only [hidden, if_true]
    exact (caption_gives c o).bind fun lines hl => .of_ok ⟨[], [], lines, rfl, .nil, .nil, hl⟩
  · simp only [hidden]
    refine (shape_gives c o).bind fun body hb => (arrowheads_gives c o).bind fun heads hh => ?_
    exact (caption_gives c o).bind fun lines hl => .of_ok ⟨body, heads, lines, rfl, hb, hh, hl⟩

/-- The elements of an object and of all that it contains.  Every member of a group is found. -/
inductive Mirrors (c : Canvas K) (r : Registry K) : Object K → List Markup → Prop where
  /-- A group that is invisible is left out with all that is in it. -/
  | hidden {o : Object K} (group : o.cls = .container) (invisible : o.style.invisible = true) :
    Mirrors c r o []
  /-- A visible group has one element, which holds those of its members in their order. -/
  | group {o : Object K} {members : List (Object K)} {parts : List (List Markup)}
    (group : o.cls = .container) (visible : o.style.invisible = false)
    (found : o.children.map (r.arena[·]?) = members.map some)
    (inside : List.Forall₂ (Mirrors c r) members parts) :
    Mirrors c r o [.node "g" (nameAttribute o) parts.flatten]
  /-- Any other object has elements of its own. -/
  | single {o : Object K} {ms : List Markup} (single : o.cls ≠ .container)
    (draws : DrawsOwn c o ms) : Mirrors c r o ms

end Svg

/-! ## Diagrams -/

omit [ExactNumber K] in
/-- Objects that are all found. -/
theorem Registry.objects_found {r : Registry K} {ids : List Nat}
    (h : ∀ i ∈ ids, i < r.arena.length) : ids.map (r.arena[·]?) = (r.objects ids).map some := by
  unfold objects
  induction ids with
  | nil => rfl
  | cons i ids ih =>
    have here := List.getElem?_eq_getElem (h i List.mem_cons_self)
    rw [List.map_cons, List.filterMap_cons_some here, List.map_cons, here,
      ih fun j hj => h j (List.mem_cons_of_mem _ hj)]

namespace Diagram

variable {d : Diagram K}

/-- The elements of the objects of a forest stand in each other as the objects do. -/
theorem IsForest.elementsWithin_mirrors (h : d.IsForest) (c : Svg.Canvas K) (depth : Nat)
    {o : Object K} (ho : o ∈ d.registry.arena) (deep : o.id < depth) :
    Gives (Svg.Mirrors c d.registry o) (Svg.elementsWithin c d.registry depth o) := by
  induction depth generalizing o with
  | zero => exact absurd deep (Nat.not_lt_zero _)
  | succ depth ih =>
    unfold Svg.elementsWithin
    by_cases group : o.cls = .container
    · rw [if_pos group]
      by_cases hidden : o.style.invisible = true
      · rw [if_pos hidden]
        exact .of_ok (.hidden group hidden)
      · rw [if_neg hidden]
        have smaller := h.smaller o ho
        have here := (List.getElem?_eq_some_iff.1 (h.getElem?_id ho)).1
        have found := Registry.objects_found fun i hi => (smaller i hi).trans here
        refine (Settles.mapM fun x hx => ?_).bind fun parts inside =>
          .of_ok (.group group (Bool.eq_false_iff.2 hidden) found inside)
        obtain ⟨id, hid, hx⟩ := Registry.mem_objects.1 hx
        refine ih (List.mem_of_getElem? hx) ?_
        rw [h.id_of_getElem? hx]
        exact (smaller id hid).trans_le (Nat.lt_succ_iff.1 deep)
    · rw [if_neg group]
      exact (Svg.ownElements_gives c o).imp fun ms draws => .single group draws

end Diagram

/-! ## Arcs -/

section Arcs

variable {K : Type} [Arith K]

theorem arcPoints_length (start : Point K) (finish : Option (Point K)) (direction : Direction)
    (radius : K) (clockwise : Bool) :
    (arcPoints start finish direction radius clockwise).length = 3 := by
  unfold arcPoints
  dsimp only
  split <;> rfl

namespace Draft

theorem along_length (d : Draft K) (points : List (Point K)) :
    (d.along points).object.points.length = points.length := by
  obtain ⟨_, _, _, moved, same, rfl | ⟨-, _, _, rfl⟩⟩ := d.exists_along_eq points
  · rw [same]
  · rw [same]
    exact List.length_map _

/-- An arc that has been placed has three points, also where its ends are cut off. -/
theorem place_arc {d : Draft K} (h : d.object.cls = .arc) (s : Setting K) :
    Ensures (fun p => p.1.object.points.length = 3) (d.place s) := by
  have line : d.object.cls.isLine = true := by
    rw [h]
    rfl
  rw [place, if_pos line, placePath_eq]
  split
  · exact .error _
  · refine .andThen fun start => .bind (P := (·.1.length = 3)) ?_ fun built hb => ?_
    · rw [pathPoints, if_pos h]
      exact .ok (arcPoints_length ..)
    · refine .ite (.bind (d.chopEnds_length _ built.1) fun points hp => .ok ?_) (.ok ?_)
      · exact (d.along_length points).trans (hp.trans hb)
      · exact (d.along_length built.1).trans hb

end Draft

/-- Every arc has three points. -/
theorem Object.arc_invariant (t : Resources K) :
    Object.Invariant t fun o : Object K => o.cls = .arc → o.points.length = 3 := by
  refine .of_place (C := fun cls => cls = .arc) nofun ?_ ?_ ?_ ?_
  · exact fun _ _ _ h => (List.length_mapIdx.trans (List.length_map _)).trans h
  · exact fun _ h => List.length_mapIdx.trans h
  · exact fun _ _ _ _ _ h => h
  · exact fun s arc => Draft.place_arc arc s

end Arcs

/-! ## Documents -/

namespace Diagram

variable {t : Resources K} {source : String} {d : Diagram K}

/-- What it means that a document of a diagram is a mirror of its tree of objects. -/
structure Mirrored (d : Diagram K) (ss : List Statement) (scale margin : Option K) (m : Markup) :
    Prop where
  /-- It is the document of the diagram. -/
  rendered : Svg.render d scale margin = .ok m.print
  /-- It holds the elements of the objects of the top level, one after the other, and all of these
  are found. -/
  whole : d.top.map d.object? = d.objects.map some ∧ ∃ attributes parts,
    m = .node "svg" attributes parts.flatten ∧
    List.Forall₂ (Svg.Mirrors (.ofDiagram d (scale.getD (d.variableOr "scale" 1 0))
      (margin.getD (d.variableOr "margin" 0 0))) d.registry) d.objects parts
  /-- The members of every object are objects of the diagram. -/
  known : ∀ o ∈ d.allObjects, ∀ i ∈ o.children, ∃ x ∈ d.allObjects, d.object? i = some x
  /-- Every path has a leg. -/
  paths : ∀ o ∈ d.allObjects, o.cls.isLine = true → 2 ≤ o.points.length
  /-- Every arc has a start, a control point and an end. -/
  arcs : ∀ o ∈ d.allObjects, o.cls = .arc → ∃ start control finish,
    o.points = [start, control, finish]
  /-- The lines of an object are those that its declaration gives it, in their order. -/
  texts : ∀ o ∈ d.allObjects, ∃ decl, (declarationsOf ss)[o.id]? = some decl ∧
    o.cls = decl.cls ∧ o.label = decl.label ∧ o.text = decl.lines

/-- The document of a forest holds the elements of the objects of the top level. -/
theorem IsForest.document_gives (h : d.IsForest) (scale margin : K) : Gives
    (fun m => ∃ attributes parts, m = .node "svg" attributes parts.flatten ∧
      List.Forall₂ (Svg.Mirrors (.ofDiagram d scale margin) d.registry) d.objects parts)
    (Svg.document d scale margin) := by
  refine (Svg.numeral_succeeds _).bind fun width _ => ?_
  refine (Svg.numeral_succeeds _).bind fun height _ => ?_
  refine (Settles.mapM fun o ho => ?_).bind fun parts mirrors => .of_ok ⟨_, parts, rfl, mirrors⟩
  obtain ⟨id, -, hid⟩ := Registry.mem_objects.1 ho
  have listed := List.mem_of_getElem? hid
  exact h.elementsWithin_mirrors _ _ listed (List.getElem?_eq_some_iff.1 (h.getElem?_id listed)).1

/-- Every diagram has a document, whatever its scale and its margin, and this mirrors the tree of
objects. -/
theorem compile_mirrored (h : compile t source = .ok d) (scale margin : Option K) :
    ∃ ss m, Program.ofSource t.colors source = .ok ss ∧ d.Mirrored ss scale margin m := by
  obtain ⟨ss, statements, -, texts⟩ := compile_objects (Registry.hasLines_settles t) h
  have paths := compile_invariant (Object.spansPath_invariant t) h
  have arcs := compile_invariant (Object.arc_invariant t) h
  obtain ⟨_, e, -, hr, rfl⟩ := compile_eq_ok.1 h
  have forest := isForest_of_run hr
  have reached := Drawing.Reachable.of_run hr
  have listed : ∀ {o}, o ∈ (ofDrawing e).allObjects → o ∈ e.registry.arena :=
    fun ho => forest.each.mem_iff.1 ho
  have top : ∀ i ∈ (ofDrawing e).top, i < e.registry.arena.length := fun i hi => by
    obtain ⟨o, ho, -⟩ := (reached.counted.lookups 0).finished i hi
    exact (List.getElem?_eq_some_iff.1 ho).1
  obtain ⟨m, written, attributes, parts, rfl, mirrors⟩ := (forest.document_gives
    (scale.getD ((ofDrawing e).variableOr "scale" 1 0))
    (margin.getD ((ofDrawing e).variableOr "margin" 0 0))).exists_eq_ok
  refine ⟨ss, _, statements, ?_, ⟨Registry.objects_found top, attributes, parts, rfl, mirrors⟩,
    fun o ho i hi => ?_, fun o ho line => ?_, fun o ho arc => ?_, fun o ho => ?_⟩
  · unfold Svg.render
    simp only [written, ok_bind]
  · have here := (List.getElem?_eq_some_iff.1 (forest.getElem?_id (listed ho))).1
    have hx := List.getElem?_eq_getElem ((forest.smaller o (listed ho) i hi).trans here)
    exact ⟨_, forest.each.mem_iff.2 (List.mem_of_getElem? hx), hx⟩
  · exact (paths o ho line).two
  · exact List.length_eq_three.1 (arcs o ho arc)
  · obtain ⟨decl, hdecl, cls, label, here, _, found, text⟩ := texts o ho
    cases here.symm.trans found
    exact ⟨decl, hdecl, cls, label, text⟩

/-- A box with two lines of text, a group of an arrow and of an invisible group with a text, and an
arc. -/
theorem compile_mirrored_nested : ∃ (d : Diagram ℚ) (ss : List Statement) (m : Markup),
    compile Resources.standard
      "box \"a\" \"b\"; [arrow <->; [text \"t\"] invisible]; arc" = .ok d ∧
    (d.allObjects.map fun o => (o.id, o.cls, o.points.length, o.text.map (·.text))) =
      [(0, .box, 0, ["a", "b"]), (4, .container, 0, []), (1, .arrow, 2, []),
        (3, .container, 0, []), (2, .text, 0, ["t"]), (5, .arc, 3, [])] ∧
    Program.ofSource .standard
      "box \"a\" \"b\"; [arrow <->; [text \"t\"] invisible]; arc" = .ok ss ∧
    d.Mirrored ss (some 2) none m := by
  let ss : List Statement := [
    .object ⟨1, 1⟩ .box none
      [⟨⟨1, 5⟩, .text { text := "a" }⟩, ⟨⟨1, 9⟩, .text { text := "b" }⟩],
    .group ⟨1, 14⟩ [.object ⟨1, 15⟩ .arrow none [⟨⟨1, 21⟩, .arrow .both⟩],
      .group ⟨1, 26⟩ [.object ⟨1, 27⟩ .text none [⟨⟨1, 32⟩, .text { text := "t" }⟩]] none
        [⟨⟨1, 37⟩, .flag .invisible⟩]] none [],
    .object ⟨1, 49⟩ .arc none []]
  have statements : Program.ofSource .standard
      "box \"a\" \"b\"; [arrow <->; [text \"t\"] invisible]; arc" = .ok ss := by
    cbv
  have drawn : ((ofStatements (Resources.standard : Resources ℚ) ss).toOption.map fun d =>
      d.allObjects.map fun o => (o.id, o.cls, o.points.length, o.text.map (·.text))) =
        some [(0, .box, 0, ["a", "b"]), (4, .container, 0, []), (1, .arrow, 2, []),
          (3, .container, 0, []), (2, .text, 0, ["t"]), (5, .arc, 3, [])] := by
    decide +kernel
  obtain ⟨d, compiled, listed⟩ :=
    exists_compile_eq_ok (t := Resources.standard) statements drawn
  obtain ⟨ss', m, same, mirrored⟩ := compile_mirrored compiled (some 2) none
  exact ⟨d, ss', m, compiled, listed, same, mirrored⟩

end Diagram

end DiagramScript
