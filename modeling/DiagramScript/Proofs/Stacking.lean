import DiagramScript.Proofs.Extents
import DiagramScript.Proofs.FailedStatements

/-!
# Stacking

An object that is not said to lie anywhere is attached to the one before it: to the end of a path,
or to the side of a frame by which the direction of travel leaves it.  Two frames keep a gap between
them, and nothing else does.

* `Object.Follows` — whether an object touches the one before it where it should.
* `stackingStart_attaches` — the point where the next object is attached.
* `Object.start_of_center` — a frame that lies half its extent ahead of a point is entered there.
* `Draft.Stacked` — drafts that have been attached, and `Drawing.draft_stacked`,
  `Drawing.groupDraft_stacked`, which say that those without a place are.
* `Drawing.Reachable.exists_stacks` — declarations, wherever a run has come to.
-/

namespace DiagramScript

variable {K : Type}

/-! ## Declarations and the objects before them -/

/-- What a statement declares, apart from what is in it. -/
def Statement.declaration? : Statement → Option Declaration
  | .object _ cls label attributes => some ⟨cls, label, attributes⟩
  | .group _ _ label attributes => some ⟨.container, label, attributes⟩
  | _ => none

/-- Whether a declaration says where its object lies. -/
def Declaration.locates (decl : Declaration) : Bool := decl.attributes.any (·.clause.locates)

/-- Whether a declaration says where the path of its object starts. -/
def Declaration.starts (decl : Declaration) : Bool := decl.attributes.any (·.clause.starts)

section Definitions

variable [Arith K]

/-- Whether a new object touches the one before it, when the direction of travel and the gap are as
given.  A path that is said to start somewhere else need not. -/
structure Object.Follows (flow : Object K) (dir : Direction) (gap : Option K) (starts : Bool)
    (new : Object K) : Prop where
  /-- A frame keeps the gap to a frame. -/
  frame : flow.cls.isLine = false → new.cls.isLine = false → ∃ g, gap = some g ∧
    new.start = (flow.anchorPoint (.compass dir.exitSide)).plus (dir.vector.scale g)
  /-- A path starts right at a frame. -/
  path : flow.cls.isLine = false → new.cls.isLine = true → starts = false →
    new.points.head? = some (flow.anchorPoint (.compass dir.exitSide))
  /-- After a path a frame is entered at the last point. -/
  frameAfterPath : flow.cls.isLine = true → new.cls.isLine = false →
    flow.points.getLast? = some new.start
  /-- A path goes on there. -/
  pathAfterPath : flow.cls.isLine = true → new.cls.isLine = true → starts = false →
    ∃ last, flow.points.getLast? = some last ∧ new.points.head? = some last

/-- Whether a point is where frames, or else paths, are attached to an object. -/
structure Setting.Attaches (s : Setting K) (flow : Object K) (framed : Bool) (p : Point K) :
    Prop where
  /-- To a path at its end. -/
  line : flow.cls.isLine = true → p = flow.finish
  /-- Frames to a frame, with the gap in between. -/
  gap : flow.cls.isLine = false → framed = true →
    ∃ g, s.view.registry.lookupVariable s.view.scope "gap" = some g ∧
      p = (flow.anchorPoint (.compass s.cursor.direction.exitSide)).plus
        (s.cursor.direction.vector.scale g)
  /-- Paths to a frame at its side. -/
  side : flow.cls.isLine = false → framed = false →
    p = flow.anchorPoint (.compass s.cursor.direction.exitSide)

/-- Whether a draft has been attached to what is before it.  Its path may be said to start somewhere
else. -/
structure Draft.Stacked (s : Setting K) (starts : Bool) (d : Draft K) : Prop where
  /-- It has no place of its own. -/
  located : d.located = none
  /-- A frame is entered where it is attached. -/
  frame : d.object.cls.isLine = false → stackingStart s true = .ok d.object.start
  /-- A path starts there. -/
  path : d.object.cls.isLine = true → starts = false →
    ∃ start, stackingStart s false = .ok start ∧ d.object.points.head? = some start

end Definitions

/-! ## Where objects are attached -/

theorem Object.getLast?_eq_finish [Arith K] {o : Object K} (line : o.cls.isLine = true)
    (h : o.points ≠ []) : o.points.getLast? = some o.finish := by
  rw [Object.finish, line, List.getLast?_eq_some_getLast h]

variable [ExactNumber K]

/-- The next object is attached where it should be. -/
theorem stackingStart_attaches {s : Setting K} {id : Nat} {flow : Object K}
    (hs : s.cursor.flow = some id) (hf : s.view.registry.arena[id]? = some flow) (framed : Bool) :
    Ensures (s.Attaches flow framed) (stackingStart s framed) := by
  have found : s.view.registry.object id = .ok flow := by
    rw [Registry.object, hf]
  intro p hp
  rw [stackingStart, hs] at hp
  dsimp only at hp
  rw [found, ok_bind] at hp
  split_ifs at hp with line
  · cases hp
    exact ⟨fun _ => rfl, fun h => absurd line (h ▸ Bool.false_ne_true),
      fun h => absurd line (h ▸ Bool.false_ne_true)⟩
  · obtain ⟨g, hg, hp⟩ := exists_of_bind_eq_ok hp
    have value : s.view.registry.lookupVariable s.view.scope "gap" = some g := by
      unfold View.builtin at hg
      split at hg
      · rename_i x hx
        cases hg
        exact hx
      · cases hg
    refine ⟨fun h => absurd h line, fun _ hframed => ⟨g, value, ?_⟩, fun _ hframed => ?_⟩
    · subst hframed
      rw [Bool.true_and] at hp
      split_ifs at hp with zero
      · cases hp
        rfl
      · -- without a gap nothing is added
        cases hp
        have none : g = 0 := Arith.isZero_iff.1 (by simpa using zero)
        rw [Point.plus, Point.scale, none, mul_zero, mul_zero, Point.shift_zero]
    · subst hframed
      rw [Bool.false_and, if_neg Bool.false_ne_true] at hp
      cases hp
      rfl

namespace Object

/-- The middles of the sides of a frame are the same for all shapes. -/
theorem spotPoint_side (o : Object K) (dir : Direction) :
    o.spotPoint (.compass dir.exitSide) =
      rectAnchor o.center o.width o.height (.compass dir.exitSide) := by
  have side : ¬(Spot.compass dir.exitSide).isCorner = true := by cases dir <;> decide
  have round : roundAnchor o.center o.width o.height (.compass dir.exitSide) = _ := if_neg side
  have diamond : diamondAnchor o.center o.width o.height (.compass dir.exitSide) = _ := if_neg side
  rw [spotPoint, round, diamond, ite_self, ite_self]

/-- A frame that lies half its extent ahead of a point is entered at that point. -/
theorem start_of_center {o : Object K} (frame : o.cls.isLine = false) {p : Point K}
    (h : o.center = p.plus (o.direction.vector.scale
      (Arith.half (if o.direction.horizontal then o.width else o.height)))) : o.start = p := by
  rw [start, frame]
  show o.spotPoint (.compass o.direction.opposite.exitSide) = p
  rw [spotPoint_side, rectAnchor, h]
  cases o.direction <;>
    simp [Direction.opposite, Direction.exitSide, Spot.signs, Compass.signs, Direction.horizontal,
      Direction.vector, Point.plus, Point.scale, Point.shift, Arith.half_eq, Arith.num_eq,
      Arith.ofInt_eq, Point.ext_iff] <;>
    ring

end Object

/-! ## Drafts -/

namespace Draft

variable (s : Setting K)

/-- A frame without a place of its own is entered where it is attached. -/
theorem placeFramed_stacked {d : Draft K} (located : d.located = none)
    (direction : d.object.direction = s.cursor.direction) (frame : d.object.cls.isLine = false)
    (starts : Bool) : Ensures (Stacked s starts) (d.placeFramed s) := by
  intro placed hp
  have redrawn := d.placeFramed_redraws s _ hp
  refine ⟨redrawn.located.trans located, fun _ => ?_, fun line => ?_⟩
  · rw [placeFramed, located] at hp
    obtain ⟨start, hs, hp⟩ := exists_of_bind_eq_ok hp
    cases hp
    rw [hs]
    refine congrArg Except.ok (Eq.symm ?_)
    apply Object.start_of_center
    · exact frame
    · dsimp only
      rw [direction]
  · rw [redrawn.cls, frame] at line
    cases line

omit [ExactNumber K] in
/-- A path with its points still has them after its extent has been written down. -/
theorem along_points [Arith K] {d : Draft K} (located : d.located = none)
    (points : List (Point K)) : (d.along points).object.points = points := by
  obtain ⟨_, _, _, moved, same, rests | ⟨moves, -⟩⟩ := d.exists_along_eq points
  · rw [same, rests]
  · exact absurd located moves

/-- A path that is not said to start anywhere starts where it is attached. -/
theorem placePath_start {d : Draft K} (located : d.located = none) (free : d.fromObject = none)
    (origin : ∀ path, d.path = some path → path.origin = none) :
    Ensures (fun p => ∃ start, stackingStart s false = .ok start ∧
      p.1.object.points.head? = some start) (d.placePath s) := by
  rw [placePath_eq]
  split
  · exact .error _
  · rename_i path hp
    refine .bind (P := fun start => stackingStart s false = .ok start) (fun _ h => h)
      fun start hs => .bind (d.pathPoints_starts path start s.serial) fun built hb => ?_
    rw [origin path hp, Option.getD_none, Point.stamp_eq] at hb
    have starts : ∀ points : List (Point K), points.head? = some start →
        Ensures (fun p => ∃ start, stackingStart s false = .ok start ∧
          p.1.object.points.head? = some start)
          (.ok (d.along points, built.2) : Except Failure (Draft K × Option Direction)) :=
      fun points head => .ok ⟨start, hs, (along_points located points).symm ▸ head⟩
    refine .ite (.bind (chopEnds_head? free _ hb.two) fun points head => ?_) ?_
    · exact starts points (head.trans hb.head)
    · exact .bind (P := fun points => points.head? = some start) (.ok hb.head) starts

/-- What a draft has to do with the cursor before any clause has been applied. -/
structure IsFresh (direction : Direction) (cls : ObjectClass) (d : Draft K) : Prop where
  /-- It is of the class that was asked for. -/
  cls : d.object.cls = cls
  /-- It points in the direction of travel. -/
  direction : d.object.direction = direction
  /-- It has no place of its own. -/
  located : d.located = none
  /-- It starts at no object. -/
  free : d.fromObject = none
  /-- It starts at no point. -/
  origin : ∀ path, d.path = some path → path.origin = none

theorem begin_isFresh (v : View K) (id : Nat) (cls : ObjectClass) (direction : Direction) :
    Ensures (IsFresh direction cls) (Draft.begin v id cls direction) := by
  refine .andThen fun _ => .andThen fun _ => .andThen fun _ => .andThen fun _ => ?_
  refine .ite (.andThen fun _ => .ok ⟨rfl, rfl, rfl, rfl, ?_⟩) (.ok ⟨rfl, rfl, rfl, rfl, ?_⟩)
  · rintro path ⟨⟩
    rfl
  · exact fun path h => nomatch h

/-- A draft is attached to what is before it unless a clause says otherwise. -/
theorem place_stacked {plain full : Draft K} {cls : ObjectClass} {resizes : Axis → Bool}
    {starts : Bool} (hp : plain.IsFresh s.cursor.direction cls)
    (hf : Spares false resizes starts plain full) :
    Ensures (fun p => p.1.Stacked s starts) (full.place s) := by
  have located : full.located = none := (hf.located rfl).trans hp.located
  intro placed h
  by_cases line : full.object.cls.isLine = true
  · have redrawn := full.place_redraws s _ h
    rw [place, if_pos line] at h
    refine ⟨redrawn.located.trans located, fun frame => ?_, fun _ unsaid => ?_⟩
    · rw [redrawn.cls, line] at frame
      cases frame
    · subst unsaid
      obtain ⟨free, origin⟩ := hf.origin rfl
      refine full.placePath_start s located (free.trans hp.free) (fun path hpath => ?_) _ h
      rw [hpath, Option.map_some] at origin
      obtain ⟨first, hfirst, same⟩ := Option.map_eq_some_iff.1 origin.symm
      exact same.symm.trans (hp.origin first hfirst)
  · rw [place, if_neg line] at h
    obtain ⟨sized, hs, h⟩ := exists_of_bind_eq_ok h
    obtain ⟨placed, hq, h⟩ := exists_of_bind_eq_ok h
    cases h
    have painted : full.Redraws sized.fillDot :=
      (full.sizeToText_redraws s sized hs).trans sized.fillDot_redraws
    have frame : sized.fillDot.object.cls.isLine = false := by
      rw [painted.cls]
      exact Bool.eq_false_iff.2 line
    refine placeFramed_stacked s (painted.located.trans located) ?_ frame starts _ hq
    rw [painted.direction, hf.direction, hp.direction]

/-- What has been attached to an object touches it. -/
theorem Stacked.follows {d : Draft K} {starts : Bool} (h : d.Stacked s starts) {id : Nat}
    {flow : Object K} (hs : s.cursor.flow = some id) (hf : s.view.registry.arena[id]? = some flow)
    (drawn : flow.cls.isLine = true → flow.points ≠ []) :
    flow.Follows s.cursor.direction (s.view.registry.lookupVariable s.view.scope "gap") starts
      d.object where
  frame hl hn := (stackingStart_attaches hs hf true _ (h.frame hn)).gap hl rfl
  path hl hn unsaid := by
    obtain ⟨start, attached, head⟩ := h.path hn unsaid
    rw [head, (stackingStart_attaches hs hf false _ attached).side hl rfl]
  frameAfterPath hl hn := by
    rw [(stackingStart_attaches hs hf true _ (h.frame hn)).line hl]
    exact Object.getLast?_eq_finish hl (drawn hl)
  pathAfterPath hl hn unsaid := by
    obtain ⟨start, attached, head⟩ := h.path hn unsaid
    rw [(stackingStart_attaches hs hf false _ attached).line hl] at head
    exact ⟨flow.finish, Object.getLast?_eq_finish hl (drawn hl), head⟩

end Draft

omit [ExactNumber K] in
/-- What a registry knows of an object does not matter. -/
theorem Object.Follows.known [Arith K] {flow new : Object K} {dir : Direction} {gap : Option K}
    {starts : Bool} (h : flow.Follows dir gap starts new) (ordinal : Nat) (label : Option String)
    (children : List Nat) (finalized : Bool) : flow.Follows dir gap starts { new with
      ordinal := ordinal, label := label, children := children, finalized := finalized } :=
  ⟨h.frame, h.path, h.frameAfterPath, h.pathAfterPath⟩

/-! ## Drawings -/

namespace Drawing

variable {t : Resources K} {d d' : Drawing K}

/-- The object of a declaration without a place is attached to the one before it. -/
theorem draft_stacked {id : Nat} {cls : ObjectClass} {attributes : List Attribute}
    (unlocated : attributes.any (·.clause.locates) = false) :
    Ensures (fun p => p.1.Stacked (d.setting t) (attributes.any (·.clause.starts)))
      (d.draft t id cls attributes) := by
  refine .bind (Draft.begin_isFresh _ id cls d.cursor.direction) fun plain hp => ?_
  refine .bind (plain.applyAll_spares (d.view t) attributes) fun full hf => ?_
  rw [unlocated] at hf
  exact Draft.place_stacked (d.setting t) hp hf

/-- So is a group. -/
theorem groupDraft_stacked {id inner : Nat} {origin : Point K} {attributes : List Attribute}
    (unlocated : attributes.any (·.clause.locates) = false) :
    Ensures (fun p => p.2.Stacked (d.setting t) (attributes.any (·.clause.starts)))
      (d.groupDraft t id inner origin attributes) := by
  refine .bind (Draft.begin_isFresh _ id .container d.cursor.direction) fun plain hp => ?_
  have around : (enclose plain origin (scopeBox d.registry inner)).IsFresh d.cursor.direction
      .container := by
    cases scopeBox d.registry inner <;> exact ⟨hp.cls, hp.direction, hp.located, hp.free, hp.origin⟩
  refine .bind ((enclose plain origin _).applyAll_spares (d.view t) attributes) fun full hf => ?_
  rw [unlocated] at hf
  have group : full.object.cls = .container := hf.cls.trans around.cls
  refine .bind (full.placeFramed_stacked (d.setting t) ((hf.located rfl).trans around.located)
    (hf.direction.trans around.direction) (by rw [group]; rfl) _) fun placed h => .ok h

/-- Whether a declaration has added an object that touches the one before it, and that the next one
is going to be attached to. -/
structure Stacks (d d' : Drawing K) (decl : Declaration) (flow new : Object K) : Prop where
  /-- The object before it stays as it is. -/
  before : ∃ id, d.cursor.flow = some id ∧ d.registry.arena[id]? = some flow ∧
    d'.registry.arena[id]? = some flow
  /-- The new object is the latest. -/
  latest : d'.registry.arena.getLast? = some new
  /-- It has not been there before. -/
  added : d.registry.arena.length ≤ new.id
  /-- It is what was declared. -/
  declared : new.cls = decl.cls ∧ new.label = decl.label
  /-- It touches the object before it. -/
  follows : flow.Follows d.cursor.direction (d.registry.lookupVariable d.scope "gap") decl.starts
    new
  /-- The next object is attached to it. -/
  next : d'.cursor.flow = some new.id

/-- An object that has been attached and written down is what the next one is attached to. -/
theorem stacks_of_stacked {decl : Declaration} {draft : Draft K} {exit : Option Direction}
    {id serial n : Nat} {children : List Nat} {flow : Object K}
    (stacked : draft.Stacked ((d.create decl.cls).2.setting t) decl.starts)
    (standing : draft.object.standing = { id := d.registry.arena.length, cls := decl.cls })
    (drawn : flow.cls.isLine = true → flow.points ≠ [])
    (hid : d.cursor.flow = some id) (hf : d.registry.arena[id]? = some flow)
    (kept : d'.registry.arena[id]? = some flow)
    (count : d'.registry.arena.length = d.registry.arena.length + 1)
    (next : d'.cursor = d.cursor.advance draft exit)
    (found : d'.registry.arena[d.registry.arena.length]? = some { draft.object.stamp serial with
      children := children, ordinal := n, finalized := true, label := decl.label }) :
    ∃ new, d.Stacks d' decl flow new := by
  rw [Object.stamp_eq] at found
  have there : (d.create decl.cls).2.registry.arena[id]? = some flow :=
    (List.getElem?_append_left (List.getElem?_eq_some_iff.1 hf).1).trans hf
  have follows := stacked.follows _ hid there drawn
  refine ⟨_, ⟨id, hid, hf, kept⟩, ?_, ?_, ?_, follows.known n decl.label children true, ?_⟩
  · rw [List.getLast?_eq_getElem?, count]
    exact found
  · exact (congrArg Standing.id standing).ge
  · exact ⟨congrArg Standing.cls standing, rfl⟩
  · rw [next, Cursor.advance, stacked.located]

/-- What has been drawn in the body of a group does not matter to the group. -/
theorem Stacks.of_body (hd : d.Reachable t) {origin : Point K} {body : List Statement}
    {inside : Drawing K} (hr : run t (d.enter origin) body = (.ok (), inside)) {decl : Declaration}
    {flow new : Object K}
    (flows : ∃ id, d.cursor.flow = some id ∧ d.registry.arena[id]? = some flow)
    (h : (inside.leave d).Stacks d' decl flow new) : d.Stacks d' decl flow new := by
  obtain ⟨id, hid, hf⟩ := flows
  obtain ⟨_, hid', -, kept⟩ := h.before
  cases hid.symm.trans hid'
  have frame := (run_evolves (t := t) (d := d.enter origin) body
    (d.registry.lt_openScope d.scope)).registry.frame
  rw [hr] at frame
  have scope := scope_of_body t origin body hd.scope_lt
  rw [hr] at scope
  refine { h with before := ⟨id, hid, hf, kept⟩, added := frame.count.trans h.added, follows := ?_ }
  have follows := h.follows
  rwa [Registry.lookupVariable, show (inside.leave d).registry.scope (inside.leave d).scope = _ from
    scope] at follows

namespace Reachable

/-- The object that the next one is attached to is there, with its points if it is a path. -/
theorem exists_flow (h : d.Reachable t) {id : Nat} (hid : d.cursor.flow = some id) :
    ∃ flow, d.registry.arena[id]? = some flow ∧ (flow.cls.isLine = true → flow.points ≠ []) := by
  obtain ⟨flow, hf, finished⟩ := h.flow_finished id hid
  refine ⟨flow, hf, fun line => List.length_pos_iff.1 ?_⟩
  have path := h.invariant (Object.spansPath_invariant t) flow (List.mem_of_getElem? hf) finished
  exact Nat.zero_lt_of_lt (path line).two

/-- Wherever a run has come to, an object that is not said to lie anywhere is attached to the one
before it, and the next object to it. -/
theorem exists_stacks (h : d.Reachable t) {id : Nat} (hid : d.cursor.flow = some id)
    {s : Statement} {decl : Declaration} (hs : s.declaration? = some decl)
    (unlocated : decl.locates = false) (he : DiagramScript.execute t d s = (.ok (), d')) :
    ∃ flow new, d.Stacks d' decl flow new := by
  obtain ⟨flow, hf, drawn⟩ := h.exists_flow hid
  have there : id < d.registry.arena.length := (List.getElem?_eq_some_iff.1 hf).1
  refine ⟨flow, ?_⟩
  cases s with
  | object p cls label attributes =>
    cases hs
    rw [DiagramScript.execute] at he
    have he := Outcome.of_locate he
    obtain ⟨draft, exit, n, drafted, cursor, older, found⟩ := exists_of_declare_eq_ok he
    have standing := draft_standing _ _ _ _ drafted
    have none : draft.object.children = [] := congrArg Standing.children standing
    have written : d'.registry.arena[d.registry.arena.length]? = some
        { draft.object.stamp d.serial with
          children := [], ordinal := n, finalized := true, label := label } := by
      rw [found, ← none]
      rfl
    exact stacks_of_stacked (draft_stacked unlocated _ drafted) standing drawn hid hf
      ((older id there).trans hf) (declare_counts _ _ he).1 cursor written
  | group p body label attributes =>
    cases hs
    obtain ⟨origin, inside, ho, hr, hg⟩ := exists_of_execute_group_eq_ok he
    obtain ⟨full, placed, n, drafted, cursor, wraps⟩ := exists_wraps h.isOrdered hr hg
    have frame := (run_evolves (t := t) (d := d.enter origin) body
      (d.registry.lt_openScope d.scope)).registry.frame
    rw [hr] at frame
    have inner : (inside.leave d).registry.arena[id]? = some flow :=
      (frame.objects id there).trans hf
    obtain ⟨new, attached⟩ := stacks_of_stacked (groupDraft_stacked unlocated _ drafted)
      (groupDraft_standing _ _ _ _ _ drafted) drawn hid inner ((wraps.older id there).trans inner)
      wraps.count cursor wraps.found
    exact ⟨new, attached.of_body h hr ⟨id, hid, hf⟩⟩
  | _ => cases hs

/-- Going down from a circle, with a gap: a group of a box, which is entered below the gap. -/
theorem exists_stacks_group :
    let half : Scalar := .number ⟨2, 7⟩ ⟨5, -1⟩ none
    let s : Statement := .group ⟨4, 1⟩ [.object ⟨4, 3⟩ .box none []] (some "G") []
    let d : Drawing ℚ := (DiagramScript.run .standard Drawing.initial
      [.object ⟨1, 1⟩ .circle none [], .assign ⟨2, 1⟩ "gap" .set half, .direction ⟨3, 1⟩ .down]).2
    let d' := (DiagramScript.execute .standard d s).2
    d.Reachable .standard ∧ DiagramScript.execute .standard d s = (.ok (), d') ∧
    (d'.registry.arena.map fun o => (o.id, o.center, o.start, o.finish)) =
      [(0, ⟨1 / 4, 0⟩, ⟨0, 0⟩, ⟨1 / 2, 0⟩), (1, ⟨1 / 4, -1⟩, ⟨1 / 4, -3 / 4⟩, ⟨1 / 4, -5 / 4⟩),
        (2, ⟨1 / 4, -1⟩, ⟨1 / 4, -3 / 4⟩, ⟨1 / 4, -5 / 4⟩)] ∧
    ∃ flow new, d.Stacks d' ⟨.container, some "G", []⟩ flow new := by
  intro half s d d'
  have reached : d.Reachable .standard := Drawing.Reachable.initial.run _
  have succeeds : (DiagramScript.execute .standard d s).1.toOption = some () := by decide +kernel
  have he : DiagramScript.execute .standard d s = (.ok (), d') :=
    Prod.ext (eq_ok_of_toOption succeeds) rfl
  have hid : d.cursor.flow = some 0 := by decide +kernel
  exact ⟨reached, he, by decide +kernel, reached.exists_stacks hid rfl rfl he⟩

end Reachable

end Drawing

end DiagramScript
