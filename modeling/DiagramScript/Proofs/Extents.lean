import DiagramScript.Proofs.MovedFigures
import DiagramScript.Proofs.Declarations
import DiagramScript.Proofs.DraftClauses
import DiagramScript.Proofs.PathPoints

/-!
# Extents

Center, width and height of a path or of a group are written down once, when the object gets its
place.  They stay right, however often the object is moved by the groups around it, because whatever
they are taken from is moved as well.

* `Object.Spans` — center, width and height are those of a box.
* `Object.spansPath_invariant` — every finished path has the extent of its points.
* `Registry.surrounds_settles` — every group is centered on its visible members, and where no clause
  gives it a width or a height, it has theirs.
* `Diagram.compile_extentsAgree` — so do all paths and groups of every diagram.
-/

namespace DiagramScript

variable {K : Type}

/-- Whether a declaration gives its object a width or a height, or copies them. -/
def Declaration.resizes (decl : Declaration) : Bool := decl.attributes.any (·.clause.resizes)

/-- Whether a declaration gives a group its extent along an axis, or copies it. -/
def Declaration.resizesAlong (decl : Declaration) (axis : Axis) : Bool :=
  decl.attributes.any (·.clause.resizesAlong axis)

theorem Declaration.resizesAlong_eq_false {decl : Declaration} (h : decl.resizes = false)
    (axis : Axis) : decl.resizesAlong axis = false := by
  rw [resizes, List.any_eq_false] at h
  rw [resizesAlong, List.any_eq_false]
  intro a ha
  exact Bool.not_eq_true _ ▸ Clause.resizesAlong_eq_false (Bool.not_eq_true _ ▸ h a ha) axis

section Definitions

variable [Arith K]

/-- Whether the center, the width and the height of an object are those of a box.  Without a box the
object has no extent. -/
def Object.Spans (o : Object K) : Option (Box K) → Prop
  | none => o.width = Arith.num 0 ∧ o.height = Arith.num 0
  | some b => o.center = b.center ∧ o.width = b.width ∧ o.height = b.height

/-- How far a box extends along an axis: its width, or its height. -/
def Box.extent (b : Box K) : Axis → K
  | .x => b.width
  | .y => b.height

/-- How far a box extends along an axis that may be missing, and then extends nowhere. -/
def Box.extentOf (b : Option (Box K)) (axis : Axis) : K :=
  (b.map (·.extent axis)).getD (Arith.num 0)

/-- Whether an object is centered on a box, and as large as this along all axes along which it is
not given an extent. -/
structure Object.Surrounds (o : Object K) (given : Axis → Bool) (b : Option (Box K)) : Prop where
  /-- The centers agree, if there is a box. -/
  center : ∀ c, b = some c → o.center = c.center
  /-- So do the extents that are not given. -/
  extent : ∀ axis, given axis = false → o.extent axis = Box.extentOf b axis

/-- An object that is given no extent has that of the box that it surrounds. -/
theorem Object.Surrounds.spans {o : Object K} {given : Axis → Bool} {b : Option (Box K)}
    (h : o.Surrounds given b) (free : ∀ axis, given axis = false) : o.Spans b := by
  have width := h.extent .x (free .x)
  have height := h.extent .y (free .y)
  cases b with
  | none => exact ⟨width, height⟩
  | some b => exact ⟨h.center b rfl, width, height⟩

/-- Whether a path has at least two points, and the extent of these. -/
structure Object.SpansPath (o : Object K) : Prop where
  /-- There are at least two points. -/
  two : 2 ≤ o.points.length
  /-- Center, width and height are those of their bounding box. -/
  spans : ∃ b, Box.ofPoints o.points = some b ∧ o.Spans (some b)

/-- The bounding box of those of some objects that are not invisible. -/
def Registry.visibleBox (r : Registry K) (ids : List Nat) : Option (Box K) :=
  Box.mergeAll none (((r.objects ids).filter (!·.style.invisible)).map (·.box))

theorem scopeBox_eq (r : Registry K) (s : Nat) :
    Drawing.scopeBox r s = r.visibleBox (r.scope s).members := rfl

theorem Registry.visibleBox_congr {r r' : Registry K} {ids : List Nat}
    (h : ∀ c ∈ ids, r'.arena[c]? = r.arena[c]?) : r'.visibleBox ids = r.visibleBox ids := by
  have same : r'.objects ids = r.objects ids := List.filterMap_congr h
  rw [visibleBox, visibleBox, same]

/-- A box stays a box, whatever it is put together with. -/
theorem Box.exists_mergeAll (boxes : List (Box K)) (b : Box K) :
    ∃ b', mergeAll (some b) boxes = some b' := by
  induction boxes generalizing b with
  | nil => exact ⟨b, rfl⟩
  | cons c boxes ih => exact ih (b.union c)

/-- Points have a bounding box. -/
theorem Box.exists_ofPoints {ps : List (Point K)} (h : ps ≠ []) :
    ∃ b, Box.ofPoints ps = some b := by
  cases ps with
  | nil => exact absurd rfl h
  | cons p ps => exact exists_mergeAll _ _

end Definitions

/-! ## Placing -/

section Placing

variable [Arith K]

/-- A path that has been placed goes along at least two points. -/
theorem Draft.place_along (d : Draft K) (s : Setting K) (h : d.object.cls.isLine = true) :
    Ensures (fun p => ∃ points : List (Point K), 2 ≤ points.length ∧ p.1 = d.along points)
      (d.place s) := by
  rw [place, if_pos h, placePath_eq]
  split
  · exact .error _
  · rename_i path _
    refine .andThen fun start => .bind (d.pathPoints_starts path start s.serial) fun built hb => ?_
    refine .ite (.bind (d.chopEnds_length _ built.1) fun points hp => .ok ?_) ?_
    · exact ⟨points, hp ▸ hb.two, rfl⟩
    · exact .bind (P := (2 ≤ ·.length)) (.ok hb.two) fun points hp => .ok ⟨points, hp, rfl⟩

/-- Whether a draft is that of a group without any extent. -/
structure Draft.IsEmptyGroup (d : Draft K) : Prop where
  /-- It is a group. -/
  cls : d.object.cls = .container
  /-- It has no extent. -/
  spans : d.object.Spans none
  /-- It has no text. -/
  text : d.object.text = []

namespace Draft

/-- A group starts without any extent. -/
theorem begin_empty (v : View K) (id : Nat) (direction : Direction) :
    Ensures IsEmptyGroup (Draft.begin v id .container direction) := by
  intro plain h
  obtain ⟨radius, -, h⟩ := exists_of_bind_eq_ok h
  obtain ⟨width, hw, h⟩ := exists_of_bind_eq_ok h
  obtain ⟨height, hh, h⟩ := exists_of_bind_eq_ok h
  obtain ⟨style, -, h⟩ := exists_of_bind_eq_ok h
  cases hw
  cases hh
  cases h
  exact ⟨rfl, ⟨rfl, rfl⟩, rfl⟩

/-- Placing a frame moves it and nothing else. -/
theorem placeFramed_extent (d : Draft K) (s : Setting K) :
    Ensures (fun placed => placed.object.extent = d.object.extent) (d.placeFramed s) := by
  unfold placeFramed
  split
  · exact .ok rfl
  · exact .andThen fun _ => .ok rfl

end Draft

/-- What an object surrounds depends on its center and on the extents that it is not given. -/
theorem Object.Surrounds.of_frame {o o' : Object K} {free given : Axis → Bool} {b : Option (Box K)}
    (h : o.Surrounds free b) (center : o'.center = o.center)
    (extent : ∀ axis, given axis = false → free axis = false ∧ o'.extent axis = o.extent axis) :
    o'.Surrounds given b where
  center c hc := center.trans (h.center c hc)
  extent axis ha := (extent axis ha).2.trans (h.extent axis (extent axis ha).1)

namespace Drawing

variable {t : Resources K} {d : Drawing K}

/-- A draft without any extent that is put around a box surrounds the box. -/
theorem enclose_surrounds {draft : Draft K} (h : draft.object.Spans none) (origin : Point K)
    (b : Option (Box K)) : (enclose draft origin b).object.Surrounds (fun _ => false) b := by
  cases b with
  | none =>
    refine ⟨fun c hc => absurd hc (Option.some_ne_none c).symm, fun axis _ => ?_⟩
    cases axis with
    | x => exact h.1
    | y => exact h.2
  | some b =>
    refine ⟨?_, fun axis _ => ?_⟩
    · rintro c ⟨⟩
      rfl
    · cases axis <;> rfl

/-- Before a group goes to its place, it surrounds the visible members of its scope. -/
theorem groupDraft_around {id inner : Nat} {origin : Point K} {attributes : List Attribute} :
    Ensures (fun p => p.1.object.Surrounds (fun axis => attributes.any (·.clause.resizesAlong axis))
      (scopeBox d.registry inner) ∧ p.2.object.extent = p.1.object.extent)
      (d.groupDraft t id inner origin attributes) := by
  refine .bind (Draft.begin_empty _ id d.cursor.direction) fun plain hb => ?_
  let box := scopeBox d.registry inner
  have around := enclose_surrounds hb.spans origin box
  have group : (enclose plain origin box).object.cls = .container := by
    cases box <;> exact hb.cls
  refine .bind ((enclose plain origin box).applyAll_spares (d.view t) attributes) fun full hf => ?_
  refine .bind (full.placeFramed_extent _) fun placed hp => .ok ⟨?_, hp⟩
  exact around.of_frame hf.center fun axis free => ⟨rfl, hf.frame axis free group⟩

/-- A group without members has no extent unless a clause gives it one. -/
theorem draft_surrounds_none {id : Nat} {attributes : List Attribute} :
    Ensures (fun p => p.1.object.Surrounds
      (fun axis => attributes.any (·.clause.resizesAlong axis)) none)
      (d.draft t id .container attributes) := by
  refine .bind (Draft.begin_empty _ id d.cursor.direction) fun plain hb => ?_
  refine .bind (plain.applyAll_spares (d.view t) attributes) fun full hf => ?_
  have cls : full.object.cls = .container := hf.cls.trans hb.cls
  have text : full.object.text = [] := (hf.text hb.cls).trans hb.text
  have sized : full.sizeToText (d.setting t) = .ok full := by
    rw [Draft.sizeToText, if_pos (.inl (text ▸ rfl))]
  have filled : full.fillDot = full := by
    rw [Draft.fillDot, if_neg fun h => absurd (cls.symm.trans h.1) (by decide)]
  rw [Draft.place, if_neg (by rw [cls]; decide), sized, ok_bind, filled]
  refine .bind (full.placeFramed_extent _) fun placed hp =>
    .ok ⟨fun c hc => absurd hc (Option.some_ne_none c).symm, fun axis free => ?_⟩
  have plainly : plain.object.extent axis = Arith.num 0 := by
    cases axis with
    | x => exact hb.spans.1
    | y => exact hb.spans.2
  rw [hp, hf.frame axis free hb.cls, plainly]
  rfl

/-- What is in a group has moved. -/
theorem Wraps.objects {after d' : Drawing K} {first : Nat} {group : Object K} {dx dy : K}
    {serial : Nat} (h : after.Wraps d' first group dx dy serial) {ids : List Nat}
    (bounds : ∀ c ∈ ids, first ≤ c ∧ c < after.registry.arena.length) :
    d'.registry.objects ids = (after.registry.objects ids).map
      (Object.enclosed dx dy serial after.registry.arena.length group.children) :=
  Registry.objects_map fun c hc => h.moved c (bounds c hc).1 (bounds c hc).2

end Drawing

end Placing

variable [ExactNumber K]

/-! ## Paths -/

namespace Object

theorem Spans.translate {o : Object K} {b : Option (Box K)} (h : o.Spans b) (dx dy : K) :
    (o.translate dx dy).Spans (b.map (·.shift dx dy)) := by
  cases b with
  | none => exact h
  | some b =>
    obtain ⟨center, width, height⟩ := h
    refine ⟨?_, width.trans (b.width_shift dx dy).symm, height.trans (b.height_shift dx dy).symm⟩
    rw [b.center_shift dx dy, ← center]
    rfl

theorem Surrounds.translate {o : Object K} {given : Axis → Bool} {b : Option (Box K)}
    (h : o.Surrounds given b) (dx dy : K) :
    (o.translate dx dy).Surrounds given (b.map (·.shift dx dy)) where
  center c hc := by
    obtain ⟨c, before, rfl⟩ := Option.map_eq_some_iff.1 hc
    rw [c.center_shift dx dy, ← h.center c before]
    rfl
  extent axis free := by
    have same : Box.extentOf (b.map (·.shift dx dy)) axis = Box.extentOf b axis := by
      rw [Box.extentOf, Option.map_map]
      cases axis
      · exact congrArg (Option.getD · _) (Option.map_congr fun c _ => c.width_shift dx dy)
      · exact congrArg (Option.getD · _) (Option.map_congr fun c _ => c.height_shift dx dy)
    rw [same, ← h.extent axis free]
    cases axis <;> rfl

theorem SpansPath.translate {o : Object K} (h : o.SpansPath) (dx dy : K) :
    (o.translate dx dy).SpansPath := by
  obtain ⟨two, b, box, spans⟩ := h
  refine ⟨two.trans_eq (List.length_map _).symm, b.shift dx dy, ?_, spans.translate dx dy⟩
  rw [Object.translate, Box.ofPoints_shift, box]
  rfl

end Object

/-- A path with its points has their extent. -/
theorem Object.fitPath_spansPath {o : Object K} (h : 2 ≤ o.points.length) :
    o.fitPath.SpansPath := by
  obtain ⟨b, hb⟩ := Box.exists_ofPoints (List.length_pos_iff.1 (Nat.zero_lt_of_lt h))
  have fitted : o.fitPath =
      { o with center := b.center, width := b.width, height := b.height } := by
    rw [fitPath, hb]
  rw [fitted]
  exact ⟨h, b, hb, rfl, rfl, rfl⟩

namespace Draft

variable (d : Draft K)

theorem along_spansPath {points : List (Point K)} (h : 2 ≤ points.length) :
    (d.along points).object.SpansPath := by
  have fitted := Object.fitPath_spansPath (o := { d.object with points := points }) h
  unfold along
  split
  · exact fitted
  · exact fitted.translate _ _

/-- A path that has been placed has the extent of its points. -/
theorem place_spansPath (s : Setting K) (h : d.object.cls.isLine = true) :
    Ensures (fun p => p.1.object.SpansPath) (d.place s) := by
  intro p hp
  obtain ⟨points, two, same⟩ := d.place_along s h p hp
  exact same ▸ d.along_spansPath two

end Draft

/-- Every path has the extent of its points when it gets its place, and keeps it. -/
theorem Object.spansPath_invariant (t : Resources K) :
    Object.Invariant t fun o : Object K => o.cls.isLine = true → o.SpansPath := by
  refine .of_place (C := fun cls => cls.isLine = true) nofun ?_ ?_ ?_ ?_
  · intro o dx dy serial h
    rw [stamp_eq]
    exact h.translate dx dy
  · intro o serial h
    rw [stamp_eq]
    exact h
  · exact fun _ _ _ _ _ h => ⟨h.two, h.spans⟩
  · exact fun {draft} s line => draft.place_spansPath s line

/-! ## Groups -/

namespace Drawing

variable {t : Resources K}

/-- The members of a group, wherever it takes them, have their box there. -/
theorem Wraps.visibleBox {after d' : Drawing K} {first : Nat} {group : Object K} {dx dy : K}
    {serial : Nat} (h : after.Wraps d' first group dx dy serial) {ids : List Nat}
    (bounds : ∀ c ∈ ids, first ≤ c ∧ c < after.registry.arena.length) :
    d'.registry.visibleBox ids = (after.registry.visibleBox ids).map (·.shift dx dy) := by
  let follow := Object.enclosed dx dy serial after.registry.arena.length group.children
  have visible : ((fun o : Object K => !o.style.invisible) ∘ follow) =
      fun o => !o.style.invisible :=
    funext fun o => congrArg (fun s : Style K => !s.invisible) (o.enclosed_style ..)
  have boxes : ∀ o : Object K, (follow o).box = o.box.shift dx dy := fun o => by
    rw [show follow o = _ from Object.carry_eq dx dy serial _, Object.box_translate]
    rfl
  rw [Registry.visibleBox, Registry.visibleBox, h.objects bounds, List.filter_map, visible,
    List.map_map, ← Box.mergeAll_shift, List.map_map]
  exact congrArg _ (List.map_congr_left fun o _ => boxes o)

/-- A group surrounds the visible members of its scope, at the place where it takes them. -/
theorem groupDraft_surrounds {d : Drawing K} {id inner : Nat} {origin : Point K}
    {attributes : List Attribute} :
    Ensures (fun p => p.2.object.Surrounds (fun axis => attributes.any (·.clause.resizesAlong axis))
      ((scopeBox d.registry inner).map (·.shift (p.2.object.center.x - p.1.object.center.x)
        (p.2.object.center.y - p.1.object.center.y))))
      (d.groupDraft t id inner origin attributes) := by
  rintro ⟨full, placed⟩ hp
  obtain ⟨around, extent⟩ := groupDraft_around _ hp
  -- the group goes to its place, and the box with it
  have moved := around.translate (placed.object.center.x - full.object.center.x)
    (placed.object.center.y - full.object.center.y)
  refine moved.of_frame ?_ fun axis free => ⟨free, ?_⟩
  · rw [Object.translate, Point.shift, add_sub_cancel, add_sub_cancel]
  · rw [show placed.object.extent = full.object.extent from extent]
    cases axis <;> rfl

end Drawing

/-- Whether an object, if it is declared as a group, surrounds its visible members, which are older
than it. -/
def Registry.Surrounds (r : Registry K) (i : Nat) (decl : Declaration) : Prop :=
  ∃ o, r.arena[i]? = some o ∧ (∀ c ∈ o.children, c < i) ∧
    (decl.cls = .container → o.Surrounds decl.resizesAlong (r.visibleBox o.children))

/-- A group is drawn around its members, and stays around them. -/
theorem Registry.surrounds_settles (t : Resources K) :
    Declaration.Settles t (Registry.Surrounds (K := K)) where
  declared {d r draft exit n cls label attributes} _ drafted _ found := by
    have none : draft.object.children = [] :=
      congrArg Standing.children (Drawing.draft_standing _ _ _ _ drafted)
    refine ⟨_, found, fun c hc => ?_, fun group => ?_⟩
    · exact absurd (none ▸ hc : c ∈ []) List.not_mem_nil
    · obtain rfl : cls = .container := group
      rw [show r.visibleBox (draft.object.stamp d.serial).children = r.visibleBox [] from
        congrArg r.visibleBox none, Object.stamp_eq]
      have surrounds := Drawing.draft_surrounds_none _ drafted
      exact ⟨surrounds.center, surrounds.extent⟩
  grouped {after d' inner first n origin full placed label attributes} drafted wraps := by
    refine ⟨_, wraps.found, fun c hc => (wraps.members c hc).2, fun _ => ?_⟩
    have surrounds := Drawing.groupDraft_surrounds _ drafted
    let members := (after.registry.scope inner).members
    have same : (after.create .container).2.registry.visibleBox members =
        after.registry.visibleBox members :=
      visibleBox_congr fun c hc => List.getElem?_append_left (wraps.members c hc).2
    rw [scopeBox_eq, show ((after.create .container).2.registry.scope inner).members = members from
      rfl, same, ← wraps.visibleBox wraps.members] at surrounds
    rw [Object.stamp_eq]
    exact ⟨surrounds.center, surrounds.extent⟩
  wrapped {after d' first group dx dy serial i decl} wraps hi hlt := by
    rintro ⟨o, ho, below, surrounds⟩
    have bounds : ∀ c ∈ o.children, first ≤ c ∧ c < after.registry.arena.length := fun c hc => by
      have := wraps.inside i o hi ho c hc
      omega
    refine ⟨_, (wraps.moved i hi hlt).trans (congrArg _ ho), ?_, fun cls => ?_⟩
    · rw [Object.enclosed_children]
      exact below
    · rw [Object.enclosed_children, wraps.visibleBox bounds]
      have moved := (surrounds cls).translate dx dy
      rw [Object.enclosed, Object.carry_eq]
      exact ⟨moved.center, moved.extent⟩
  later {r r' i decl} same := by
    rintro ⟨o, ho, below, surrounds⟩
    refine ⟨o, (same i (Nat.le_refl i)).trans ho, below, fun cls => ?_⟩
    rw [visibleBox_congr fun c hc => same c (Nat.le_of_lt (below c hc))]
    exact surrounds cls

/-! ## Diagrams -/

namespace Diagram

variable {t : Resources K} {source : String} {d : Diagram K}

/-- Whether the objects of a diagram are those that some statements declare, and paths and groups
have the extent of what they summarise. -/
structure ExtentsAgree (d : Diagram K) (ss : List Statement) : Prop where
  /-- There is one object for every declaration. -/
  count : d.allObjects.length = (declarationsOf ss).length
  /-- A path has the extent of its points, of which it has at least two. -/
  path : ∀ o ∈ d.allObjects, o.cls.isLine = true → o.SpansPath
  /-- A group whose declaration gives it no size has the extent of its visible members. -/
  group : ∀ o ∈ d.allObjects, ∃ decl, (declarationsOf ss)[o.id]? = some decl ∧
    o.cls = decl.cls ∧ o.label = decl.label ∧
    (o.cls = .container → decl.resizes = false → o.Spans (d.registry.visibleBox o.children))

/-- In every diagram paths and groups have the extent of what they summarise. -/
theorem compile_extentsAgree (h : compile t source = .ok d) :
    ∃ ss, Program.ofSource t.colors source = .ok ss ∧ d.ExtentsAgree ss := by
  obtain ⟨ss, statements, count, declared⟩ := compile_objects (Registry.surrounds_settles t) h
  have paths := compile_invariant (Object.spansPath_invariant t) h
  refine ⟨ss, statements, count, paths, fun o ho => ?_⟩
  obtain ⟨decl, hdecl, cls, label, here, _, found, -, group⟩ := declared o ho
  cases here.symm.trans found
  refine ⟨decl, hdecl, cls, label, fun container unsized => ?_⟩
  exact (group (cls.symm.trans container)).spans (Declaration.resizesAlong_eq_false unsized)

/-- A group of a box and of a group with an arrow in it, which lies where it is said to lie.  The
arrow is moved twice. -/
theorem compile_extentsAgree_nested : ∃ (d : Diagram ℚ) (ss : List Statement),
    compile Resources.standard "[box; [arrow] at (2, 1)]" = .ok d ∧
    (d.allObjects.map fun o => (o.id, o.center, o.width, o.height)) =
      [(3, ⟨9 / 8, 0⟩, 9 / 4, 5 / 4), (0, ⟨3 / 8, -3 / 8⟩, 3 / 4, 1 / 2),
        (2, ⟨2, 5 / 8⟩, 1 / 2, 0), (1, ⟨2, 5 / 8⟩, 1 / 2, 0)] ∧
    Program.ofSource .standard "[box; [arrow] at (2, 1)]" = .ok ss ∧ d.ExtentsAgree ss := by
  let place : Position :=
    .pair ⟨1, 19⟩ (.number ⟨1, 19⟩ ⟨2, 0⟩ none) (.number ⟨1, 22⟩ ⟨1, 0⟩ none)
  let ss : List Statement := [.group ⟨1, 1⟩ [.object ⟨1, 2⟩ .box none [],
    .group ⟨1, 7⟩ [.object ⟨1, 8⟩ .arrow none []] none [⟨⟨1, 15⟩, .located place⟩]] none []]
  have statements : Program.ofSource .standard "[box; [arrow] at (2, 1)]" = .ok ss := by
    cbv
  have drawn : ((ofStatements (Resources.standard : Resources ℚ) ss).toOption.map fun d =>
      d.allObjects.map fun o => (o.id, o.center, o.width, o.height)) =
        some [(3, ⟨9 / 8, 0⟩, 9 / 4, 5 / 4), (0, ⟨3 / 8, -3 / 8⟩, 3 / 4, 1 / 2),
          (2, ⟨2, 5 / 8⟩, 1 / 2, 0), (1, ⟨2, 5 / 8⟩, 1 / 2, 0)] := by
    decide +kernel
  obtain ⟨d, compiled, listed⟩ :=
    exists_compile_eq_ok (t := Resources.standard) statements drawn
  obtain ⟨ss', same, agree⟩ := compile_extentsAgree compiled
  exact ⟨d, ss', compiled, listed, same, agree⟩

end Diagram

end DiagramScript
