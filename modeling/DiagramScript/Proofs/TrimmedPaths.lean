import DiagramScript.Proofs.BoundaryPoints
import DiagramScript.Proofs.LaterViews
import DiagramScript.Proofs.MirroredDrafts
import DiagramScript.Proofs.Routes
import DiagramScript.Proofs.Stacking

/-!
# Paths with their ends cut off

A path whose ends are cut off is the same path with another first and another last point.  The first
changes if the path starts at an object, and then it is where the path leaves the outline of that.
The last is cut off at the object that was named last, although the path may have gone on from
there.

* `Draft.cutOff`, `Draft.applyAll_cutOff` — the clause that asks for it changes nothing else.
* `Draft.exists_chopEnds_eq_ok` — which points are replaced, and by what.
* `Draft.pathPoints_last` — where a path ends that is last said to run to a point.
* `Draft.TrimsEnds`, `Drawing.exists_trimmed` — a declaration with and without the clause.
-/

namespace DiagramScript

variable {K : Type}

/-! ## Clauses -/

namespace Draft

/-- The draft of a path whose ends are to be cut off. -/
def cutOff (d : Draft K) : Draft K := { d with chop := true }

variable [Arith K] (d : Draft K) (v : View K)

omit [Arith K] in
theorem onPath_cutOff (f : Path K → Except Failure (Path K)) :
    Alike cutOff (d.onPath f) (d.cutOff.onPath f) := by
  unfold onPath
  rw [show d.cutOff.path = d.path from rfl]
  cases d.path with
  | none => exact .error _ _
  | some p => exact .bind (.refl (f p)) fun p' _ => .of_eq_ok rfl

theorem setDimension_cutOff (what : Dimension) (value : Scalar) :
    Alike cutOff (d.setDimension v what value) (d.cutOff.setDimension v what value) := by
  rw [setDimension_eq, setDimension_eq]
  have usual : d.cutOff.usual v what = d.usual v what := by cases what <;> rfl
  have resized : ∀ x, d.cutOff.resize what x = (d.resize what x).cutOff := fun x => by
    cases aspect : d.object.cls.keepsAspect <;> cases what <;>
      simp [resize, setWidth, setHeight, setRadius, setDiameter, cutOff, aspect]
  rw [usual]
  exact .bind (.refl _) fun _ _ => .bind (.refl _) fun x _ => .of_eq_ok (resized x)

/-- Every clause does the same, whether or not the ends are to be cut off. -/
theorem applyClause_cutOff (c : Clause) :
    Alike cutOff (d.applyClause v c) (d.cutOff.applyClause v c) := by
  cases c with
  | size what value => exact d.setDimension_cutOff v what value
  | flag what => cases what <;> exact .of_eq_ok rfl
  | text | arrow => exact .of_eq_ok rfl
  | thickness => exact .bind (.refl _) fun _ _ => .bind (.refl _) fun _ _ => .of_eq_ok rfl
  | dotted | dashed | located | anchored => exact .bind (.refl _) fun _ _ => .of_eq_ok rfl
  | fill | color => exact .bind (.refl _) fun _ _ => .bind (.refl _) fun _ _ => .of_eq_ok rfl
  | same ref => exact .bind (.refl _) fun _ _ => .of_eq_ok rfl
  | start q =>
    exact .bind (.refl _) fun p _ => .bind (d.onPath_cutOff _) fun _ _ =>
      .bind (.refl _) fun _ _ => .of_eq_ok rfl
  | target q =>
    refine .bind (.refl _) fun p _ => .ite Iff.rfl (fun _ => ?_) fun _ => ?_
    · have ended : Alike cutOff (.ok { d with arcEnd := some p } : Except Failure (Draft K))
          (.ok { d.cutOff with arcEnd := some p }) := .of_eq_ok rfl
      exact .bind ended fun _ _ => .bind (.refl _) fun _ _ => .of_eq_ok rfl
    · exact .bind (d.onPath_cutOff _) fun _ _ => .bind (.refl _) fun _ _ => .of_eq_ok rfl
  | direction dir length => cases length <;> exact d.onPath_cutOff _
  | heading angle length => cases length <;> exact d.onPath_cutOff _
  | next | directionUntil | untilEven | distance => exact d.onPath_cutOff _

theorem apply_cutOff (a : Attribute) : Alike cutOff (d.apply v a) (d.cutOff.apply v a) :=
  .locating (.ite Iff.rfl (fun _ => d.applyClause_cutOff v a.clause) fun _ => .error _ _) a.pos

theorem applyAll_cutOff (as : List Attribute) :
    Alike cutOff (Draft.applyAll v d as) (Draft.applyAll v d.cutOff as) := by
  induction as generalizing d with
  | nil => exact .of_eq_ok rfl
  | cons a as ih =>
    rw [applyAll, applyAll, List.foldlM_cons, List.foldlM_cons]
    exact .bind (d.apply_cutOff v a) fun next _ => ih next

/-- Wherever the clause is added, the draft is the same, but for its ends being cut off. -/
theorem applyAll_insert {full : Draft K} {before after : List Attribute}
    (h : Draft.applyAll v d (before ++ after) = .ok full)
    (takes : d.object.cls.accepts (.flag .chop) = true) (p : SourcePos) :
    Draft.applyAll v d (before ++ ⟨p, .flag .chop⟩ :: after) = .ok full.cutOff := by
  rw [applyAll, List.foldlM_append] at h ⊢
  obtain ⟨mid, hm, h⟩ := exists_of_bind_eq_ok h
  have cls : mid.object.cls = d.object.cls := (d.applyAll_spares v before mid hm).cls
  have added : mid.apply v ⟨p, .flag .chop⟩ = .ok mid.cutOff := by
    rw [apply, cls, takes]
    rfl
  rw [hm, ok_bind, List.foldlM_cons, added, ok_bind]
  exact (mid.applyAll_cutOff v after).eq_ok h

end Draft

/-! ## Points -/

namespace Draft

section Points

variable [Arith K]

/-- Whether an end of a path is where cutting it off leaves it: it stays if it is at no object, and
else it is where a line from the object to the next point leaves the outline. -/
def CutsOff (r : Registry K) (id : Option Nat) (toward old new : Point K) : Prop :=
  (id = none ∧ new = old) ∨ ∃ i, id = some i ∧ boundary r i toward = .ok new

variable {r : Registry K}

omit [Arith K] in
/-- Two points or more are a first one, a last one, and some in between. -/
theorem exists_ends_of_two {points : List (Point K)} (h : 2 ≤ points.length) :
    ∃ first inner last, points = first :: (inner ++ [last]) := by
  match points, h with
  | first :: second :: rest, _ =>
    refine ⟨first, (second :: rest).dropLast, (second :: rest).getLast (List.cons_ne_nil _ _), ?_⟩
    rw [List.dropLast_concat_getLast]

/-- Cutting off the start replaces it, and nothing else. -/
theorem exists_chopStart_eq_ok {id : Option Nat}
    (cut : ∀ i, id = some i → ∀ toward, ∃ p, boundary r i toward = .ok p) (first second : Point K)
    (rest : List (Point K)) : ∃ new, CutsOff r id second first new ∧
      chopStart r id (first :: second :: rest) = .ok (new :: second :: rest) := by
  cases id with
  | none => exact ⟨first, .inl ⟨rfl, rfl⟩, rfl⟩
  | some i =>
    obtain ⟨p, hp⟩ := cut i rfl second
    refine ⟨p, .inr ⟨i, rfl, hp⟩, ?_⟩
    rw [chopStart, hp]
    rfl

/-- Cutting off both ends replaces them, and nothing else. -/
theorem exists_chopEnds_eq_ok {d : Draft K}
    (cutStart : ∀ i, d.fromObject = some i → ∀ toward, ∃ p, boundary r i toward = .ok p)
    (cutEnd : ∀ i, d.toObject = some i → ∀ toward, ∃ p, boundary r i toward = .ok p)
    (first last : Point K) (inner : List (Point K)) : ∃ first' last',
      CutsOff r d.fromObject (inner.headD last) first first' ∧
      CutsOff r d.toObject (inner.getLastD first') last last' ∧
      d.chopEnds r (first :: (inner ++ [last])) = .ok (first' :: (inner ++ [last'])) := by
  have front : ∃ first', CutsOff r d.fromObject (inner.headD last) first first' ∧
      chopStart r d.fromObject (first :: (inner ++ [last])) =
        .ok (first' :: (inner ++ [last])) := by
    cases inner with
    | nil => exact exists_chopStart_eq_ok cutStart first last []
    | cons p ps => exact exists_chopStart_eq_ok cutStart first p (ps ++ [last])
  obtain ⟨first', cutFirst, front⟩ := front
  -- Seen from the end, the last point comes first.
  have back : ∃ last', CutsOff r d.toObject (inner.getLastD first') last last' ∧
      chopStart r d.toObject (last :: (inner.reverse ++ [first'])) =
        .ok (last' :: (inner.reverse ++ [first'])) := by
    rw [List.getLastD_eq_getLast?, ← List.head?_reverse]
    cases inner.reverse with
    | nil => exact exists_chopStart_eq_ok cutEnd last first' []
    | cons p ps => exact exists_chopStart_eq_ok cutEnd last p (ps ++ [first'])
  obtain ⟨last', cutLast, back⟩ := back
  refine ⟨first', last', cutFirst, cutLast, ?_⟩
  rw [chopEnds, front, ok_bind, List.reverse_cons, List.reverse_append, List.reverse_singleton]
  rw [List.singleton_append, List.cons_append, back, ok_bind]
  simp

end Points

variable [EuclideanNumber K]

/-- With exact numbers, a line toward an object can be cut off in every case. -/
theorem exists_boundary_eq_ok {r : Registry K} {id : Nat} (known : ∃ o, r.Finished id o)
    (toward : Point K) : ∃ p, boundary r id toward = .ok p := by
  obtain ⟨o, ho, -⟩ := known
  rw [boundary, Registry.object_eq_ok.2 ho, ok_bind, outlinePoint]
  split
  · rw [ellipseBoundary]
    split_ifs with guarded
    · exact ⟨_, rfl⟩
    · rw [not_or, not_or, not_le, not_le, Arith.num_eq, Nat.cast_zero, Bool.not_eq_true,
        noDirection_eq_false_iff] at guarded
      obtain ⟨wide, high, aims⟩ := guarded
      have apart : ∀ {d : K}, rayTolerance ≤ |d| → d ≠ 0 := fun far =>
        abs_pos.1 (rayTolerance_pos.trans_le far)
      have away : Arith.hypot ((toward.x - o.center.x) / Arith.half o.width)
          ((toward.y - o.center.y) / Arith.half o.height) ≠ 0 := by
        rw [ne_eq, Arith.hypot_eq_zero_iff, div_eq_zero_iff, div_eq_zero_iff,
          or_iff_left wide.ne', or_iff_left high.ne']
        rintro ⟨x, y⟩
        exact aims.elim (fun far => apart far x) fun far => apart far y
      rw [Arith.square_eq, Arith.square_eq, ok_bind, ok_bind, ← Arith.hypot_eq,
        Arith.reciprocal_eq away]
      exact ⟨_, rfl⟩
  · exact ⟨_, rfl⟩

/-- A path that is last said to run to a position ends there, unless it returns to its start. -/
theorem pathPoints_last {v : View K} {as : List Attribute} {d : Draft K} (routed : Routed v as d)
    {path : Path K} (has : d.path = some path) {q : Position}
    (lead : lastLead as = some (.target q)) (start : Point K) (serial : Nat) :
    Ensures (fun r => ∃ p, v.position q = .ok p ∧ (r.1.getLast? = some p ∨
        as.any (·.clause.closes) = true ∧ r.1.getLast? = r.1.head?))
      (d.pathPoints path start serial) := by
  have reads := routed.lead
  rw [lead] at reads
  generalize reached : d.last? = last at reads
  cases reads with
  | stretch stretches => cases stretches
  | @target _ p place =>
    unfold pathPoints
    dsimp only
    split_ifs with arc copied
    · rw [last?, if_pos arc] at reached
      obtain ⟨x, known, same⟩ := Option.map_eq_some_iff.1 reached
      cases same
      rw [known, arcPoints]
      refine .ok ⟨p, place, .inl ?_⟩
      dsimp only
      split <;> rfl
    · rw [last?_of_path arc has, Path.isBare_iff_last?.1 (Bool.and_eq_true_iff.1 copied).2]
        at reached
      cases reached
    · rw [last?_of_path arc has] at reached
      refine .mapError (fun r hr => ⟨p, place, ?_⟩) _
      rw [← routed.closed path has]
      exact (path.setOrigin _).build_last _ reached r hr

/-- Whether some points are those of a path, and others those of the path with its ends cut off, if
some clauses say where it leads. -/
structure TrimsEnds (v : View K) (as : List Attribute) (first : Point K) (inner : List (Point K))
    (last first' last' : Point K) : Prop where
  /-- The start moves only if the path is last said to start at an object, and then it does.  It
  moves to the outline. -/
  start : first' ≠ first → ∃ q id, lastStart as = some q ∧ v.wholeObject q = .ok (some id) ∧
    v.position q = .ok first ∧ boundary v.registry id (inner.headD last) = .ok first'
  /-- The end moves only if the path is last said to run to an object.  It moves to the outline,
  even if the path goes on from there or returns to its start; otherwise it is there that it
  ends. -/
  finish : last' ≠ last → ∃ q id, lastTarget as = some q ∧ v.wholeObject q = .ok (some id) ∧
    boundary v.registry id (inner.getLastD first') = .ok last' ∧
    (lastLead as = some (.target q) → as.any (·.clause.closes) = false → v.position q = .ok last)

/-- Which ends of a path move when they are cut off. -/
theorem Routed.trimsEnds {v : View K} {as : List Attribute} {d : Draft K} (routed : Routed v as d)
    {path : Path K} (has : d.path = some path) {start first last first' last' : Point K}
    {inner : List (Point K)} (head : path.origin.getD start = first)
    (ends : ∀ q, lastLead as = some (.target q) → ∃ p, v.position q = .ok p ∧
      (last = p ∨ as.any (·.clause.closes) = true ∧ last = first))
    (cutFirst : CutsOff v.registry d.fromObject (inner.headD last) first first')
    (cutLast : CutsOff v.registry d.toObject (inner.getLastD first') last last') :
    TrimsEnds v as first inner last first' last' where
  start moved := by
    obtain ⟨-, stays⟩ | ⟨id, joined, cut⟩ := cutFirst
    · exact absurd stays moved
    obtain ⟨q, hq, whole⟩ := v.exists_of_wholeAt (routed.start.trans (congrArg _ joined))
    have place := routed.origin path has
    rw [hq] at place
    obtain ⟨p, hp, origin⟩ := exists_of_bind_eq_ok place
    rw [← Except.ok.inj origin] at head
    exact ⟨q, id, hq, whole, head ▸ hp, cut⟩
  finish moved := by
    obtain ⟨-, stays⟩ | ⟨id, joined, cut⟩ := cutLast
    · exact absurd stays moved
    obtain ⟨q, hq, whole⟩ := v.exists_of_wholeAt (routed.finish.trans (congrArg _ joined))
    refine ⟨q, id, hq, whole, cut, fun lead stays => ?_⟩
    obtain ⟨p, place, rfl | ⟨closes, -⟩⟩ := ends q lead
    · exact place
    · rw [stays] at closes
      cases closes

/-- A path that is placed without a place of its own can be placed with its ends cut off. -/
theorem placePath_trimmed {s : Setting K} {as : List Attribute} {d : Draft K}
    (routed : Routed s.view as d) (sketched : d.Sketched s.view as) (located : d.located = none)
    (whole : d.chop = false) :
    Ensures (fun p => ∃ first inner last first' last' placed,
        d.cutOff.placePath s = .ok (placed, p.2) ∧ p.1.object.points = first :: (inner ++ [last]) ∧
        placed.object.points = first' :: (inner ++ [last']) ∧
        TrimsEnds s.view as first inner last first' last')
      (d.placePath s) := by
  rintro ⟨p, exit⟩ hp
  rw [placePath_eq] at hp
  rw [placePath_eq, show d.cutOff.path = d.path from rfl]
  split at hp
  · cases hp
  rename_i path has
  obtain ⟨start, hs, hp⟩ := exists_of_bind_eq_ok hp
  obtain ⟨⟨points, exit⟩, hb, hp⟩ := exists_of_bind_eq_ok hp
  rw [whole] at hp
  cases hp
  have starts := d.pathPoints_starts path start s.serial _ hb
  have ends := fun q lead => pathPoints_last (q := q) routed has lead start s.serial _ hb
  obtain ⟨first, inner, last, rfl⟩ := exists_ends_of_two starts.two
  obtain ⟨first', last', cutFirst, cutLast, chopped⟩ := exists_chopEnds_eq_ok (d := d.cutOff)
    (fun i hi => exists_boundary_eq_ok (sketched.starts i hi))
    (fun i hi => exists_boundary_eq_ok (sketched.ends i hi)) first last inner
  refine ⟨first, inner, last, first', last', d.cutOff.along (first' :: (inner ++ [last'])),
    ?_, along_points located _, along_points (d := d.cutOff) located _, ?_⟩
  · dsimp only
    rw [hs, ok_bind, show d.cutOff.pathPoints path start s.serial = .ok _ from hb, ok_bind,
      show d.cutOff.chop = true from rfl, if_pos rfl, chopped]
    rfl
  · have head := starts.head
    rw [Point.stamp_eq] at head
    have tail : (first :: (inner ++ [last])).getLast? = some last := by
      rw [← List.cons_append]
      exact List.getLast?_concat
    refine routed.trimsEnds has (Option.some.inj head).symm (fun q lead => ?_) cutFirst cutLast
    obtain ⟨p, place, reached⟩ := ends q lead
    refine ⟨p, place, ?_⟩
    rw [tail, List.head?_cons, Option.some.injEq, Option.some.injEq] at reached
    exact reached

end Draft

/-! ## Declarations -/

namespace Drawing

variable [Arith K] {t : Resources K} {d : Drawing K}

/-- An object can be finished just if its label is free. -/
theorem exists_finish_eq_ok_iff {draft : Draft K} {o : Object K}
    (h : d.registry.arena[draft.object.id]? = some o) (exit : Option Direction)
    (label : Option String) : (∃ d', d.finish draft exit label = (.ok (), d')) ↔
      ∀ name ∈ label, (d.registry.scope d.scope).isTaken name = false := by
  constructor
  · rintro ⟨d', finished⟩
    obtain ⟨l, free, given, -, -⟩ := finish_concludes h exit label
    rw [finished] at given
    exact given rfl ▸ free
  · intro free
    unfold finish
    rw [Registry.finalize_eq h]
    cases label with
    | none => exact ⟨_, rfl⟩
    | some name =>
      dsimp only
      rw [Registry.bindLabel_of_free (free name rfl) h]
      exact ⟨_, rfl⟩

/-- A declaration whose object can be drafted succeeds just if its label is free. -/
theorem exists_declare_eq_ok_iff {cls : ObjectClass} {attributes : List Attribute} {draft : Draft K}
    {exit : Option Direction}
    (drafted : (d.create cls).2.draft t (d.create cls).1 cls attributes = .ok (draft, exit))
    (label : Option String) : (∃ d', d.declare t cls label attributes = (.ok (), d')) ↔
      ∀ name ∈ label, (d.registry.scope d.scope).isTaken name = false := by
  have number : draft.object.id = d.registry.arena.length :=
    congrArg Standing.id (draft_standing _ _ _ _ drafted)
  have finishes := exists_finish_eq_ok_iff (getElem?_store_create number cls) exit label
  rw [store_create d cls number] at finishes
  unfold declare
  dsimp only
  rw [drafted]
  exact finishes

end Drawing

namespace Drawing

variable [EuclideanNumber K] {t : Resources K} {d : Drawing K}

/-- The classes of objects whose ends can be cut off. -/
theorem takes_chop {cls : ObjectClass} (h : cls ∈ [.line, .arrow, .spline, .arc]) :
    cls.isLine = true ∧ cls.accepts (.flag .chop) = true := by
  revert cls
  decide

/-- A path that can be drafted can be drafted with its ends cut off. -/
theorem draft_trimmed (sound : d.registry.IsSound) {id : Nat} {cls : ObjectClass}
    (path : cls ∈ [.line, .arrow, .spline, .arc]) {before after : List Attribute}
    (unlocated : (before ++ after).any (·.clause.locates) = false)
    (whole : (before ++ after).any (·.clause.cutsOff) = false) (p : SourcePos) :
    Ensures (fun drafted => ∃ first inner last first' last' placed,
        d.draft t id cls (before ++ ⟨p, .flag .chop⟩ :: after) = .ok (placed, drafted.2) ∧
        drafted.1.object.points = first :: (inner ++ [last]) ∧
        placed.object.points = first' :: (inner ++ [last']) ∧
        Draft.TrimsEnds (d.view t) (before ++ after) first inner last first' last')
      (d.draft t id cls (before ++ after)) := by
  obtain ⟨line, takes⟩ := takes_chop path
  rintro drafted hd
  obtain ⟨plain, begun, hd⟩ := exists_of_bind_eq_ok hd
  obtain ⟨full, applied, hd⟩ := exists_of_bind_eq_ok hd
  have fresh := Draft.begin_isFresh _ id cls d.cursor.direction plain begun
  have spares := plain.applyAll_spares _ (before ++ after) full applied
  have routed := Draft.applyAll_routed (Draft.begin_routed id cls d.cursor.direction plain begun)
    (before ++ after) full applied
  have sketched := Draft.applyAll_sketched sound
    (Draft.begin_sketched _ id cls d.cursor.direction plain begun) (before ++ after) full applied
  have located : full.located = none := (spares.located unlocated).trans fresh.located
  have uncut : full.chop = false := Bool.eq_false_iff.2 fun cut => by
    rw [sketched.chop cut] at whole
    cases whole
  have isPath : full.object.cls.isLine = true := by
    rw [spares.cls, fresh.cls, line]
  rw [Draft.place, if_pos isPath] at hd
  obtain ⟨first, inner, last, first', last', placed, hp, points, points', trims⟩ :=
    Draft.placePath_trimmed (s := d.setting t) routed sketched located uncut drafted hd
  refine ⟨first, inner, last, first', last', placed, ?_, points, points', trims⟩
  rw [draft, begun, ok_bind, plain.applyAll_insert _ applied (fresh.cls.symm ▸ takes) p, ok_bind,
    Draft.place, if_pos (show full.cutOff.object.cls.isLine = true from isPath)]
  exact hp

/-- An object that is being drafted is not among those that positions mean. -/
theorem Reachable.create_wholeObject (h : d.Reachable t) (cls : ObjectClass) (q : Position) :
    ((d.create cls).2.view t).wholeObject q = (d.view t).wholeObject q := by
  have same : ∀ ref, ((d.create cls).2.view t).objectId ref = (d.view t).objectId ref := fun ref =>
    congrArg (locating ref.pos)
      (Registry.Frame.follow_eq (.append d.registry.scopes.length _ _) h.isSound h.scope_lt ref)
  unfold View.wholeObject
  split
  · rw [(h.create_seesAlike cls).placeOf?, same]
  · rfl

/-- Nor is it in the way of lines toward them. -/
theorem Reachable.create_boundary (h : d.Reachable t) (cls : ObjectClass) {q : Position} {id : Nat}
    (whole : (d.view t).wholeObject q = .ok (some id)) (toward : Point K) :
    Draft.boundary (d.create cls).2.registry id toward = Draft.boundary d.registry id toward := by
  obtain ⟨o, ho, -⟩ := View.wholeObject_finished (v := d.view t) h.isSound q _ whole id rfl
  have hlt : id < d.registry.arena.length := (List.getElem?_eq_some_iff.1 ho).1
  have found : (d.create cls).2.registry.object id = d.registry.object id := by
    rw [create, Registry.create, Registry.object, Registry.object, List.getElem?_append_left hlt]
  rw [Draft.boundary, Draft.boundary, found]

/-- A line, arrow, spline or arc that can be declared without a place of its own can be declared
with its ends cut off.  It has the same points but for the first and the last, and these stay unless
the last `from` and the last `to` mean whole objects. -/
theorem exists_trimmed (h : d.Reachable t) {pos : SourcePos} {cls : ObjectClass}
    (path : cls ∈ [.line, .arrow, .spline, .arc]) {label : Option String}
    {before after : List Attribute}
    (unlocated : (before ++ after).any (·.clause.locates) = false)
    (whole : (before ++ after).any (·.clause.cutsOff) = false) {d' : Drawing K}
    (he : execute t d (.object pos cls label (before ++ after)) = (.ok (), d')) (p : SourcePos) :
    ∃ d'' o o' first inner last first' last',
      execute t d (.object pos cls label (before ++ ⟨p, .flag .chop⟩ :: after)) = (.ok (), d'') ∧
      d'.registry.arena[d.registry.arena.length]? = some o ∧
      o.points = first :: (inner ++ [last]) ∧
      d''.registry.arena[d.registry.arena.length]? = some o' ∧
      o'.points = first' :: (inner ++ [last']) ∧
      Draft.TrimsEnds (d.view t) (before ++ after) first inner last first' last' := by
  rw [execute] at he
  have declared := Outcome.of_locate he
  obtain ⟨draft, exit, n, drafted, -, -, found⟩ := exists_of_declare_eq_ok declared
  obtain ⟨first, inner, last, first', last', placed, drafted', points, points', trims⟩ :=
    draft_trimmed (t := t) (h.create_isSound cls) path unlocated whole p _ drafted
  have free := (exists_declare_eq_ok_iff drafted label).1 ⟨d', declared⟩
  obtain ⟨d'', declared'⟩ := (exists_declare_eq_ok_iff drafted' label).2 free
  obtain ⟨_, _, n', again, -, -, found'⟩ := exists_of_declare_eq_ok declared'
  cases drafted'.symm.trans again
  refine ⟨d'', _, _, first, inner, last, first', last', ?_, found, ?_, found', ?_, ?_⟩
  · rw [execute, declared']
    rfl
  · rw [Object.stamp_eq]
    exact points
  · rw [Object.stamp_eq]
    exact points'
  · have position := (h.create_seesAlike cls).position
    have wholeObject := h.create_wholeObject cls
    refine ⟨fun moved => ?_, fun moved => ?_⟩
    · obtain ⟨q, id, hq, known, place, cut⟩ := trims.start moved
      rw [wholeObject] at known
      rw [position] at place
      exact ⟨q, id, hq, known, place, (h.create_boundary cls known _).symm.trans cut⟩
    · obtain ⟨q, id, hq, known, cut, reached⟩ := trims.finish moved
      rw [wholeObject] at known
      rw [position] at reached
      exact ⟨q, id, hq, known, (h.create_boundary cls known _).symm.trans cut, reached⟩

/-- An arrow from a box to a point. -/
theorem exists_trimmed_arrow :
    let t : Resources ℝ := .standard
    let d := (execute t Drawing.initial (.object ⟨1, 1⟩ .box none [])).2
    let box : Position := .object ⟨2, 12⟩ (.select ⟨2, 12⟩ (.ordinal .box 1 true)) none
    let point : Position :=
      .pair ⟨2, 24⟩ (.number ⟨2, 25⟩ ⟨3, 0⟩ none) (.number ⟨2, 28⟩ ⟨1, 0⟩ none)
    let clauses : List Attribute := [⟨⟨2, 7⟩, .start box⟩, ⟨⟨2, 21⟩, .target point⟩]
    d.Reachable t ∧ ∃ d' d'' o o' first inner last first' last',
      execute t d (.object ⟨2, 1⟩ .arrow none clauses) = (.ok (), d') ∧
      execute t d (.object ⟨2, 1⟩ .arrow none (clauses ++ [⟨⟨2, 31⟩, .flag .chop⟩])) =
        (.ok (), d'') ∧
      d'.registry.arena[1]? = some o ∧ o.points = first :: (inner ++ [last]) ∧
      d''.registry.arena[1]? = some o' ∧ o'.points = first' :: (inner ++ [last']) ∧
      Draft.TrimsEnds (d.view t) clauses first inner last first' last' := by
  intro t d box point clauses
  have reached : d.Reachable t := Reachable.initial.execute _
  obtain ⟨d', he⟩ : ∃ d', execute t d (.object ⟨2, 1⟩ .arrow none (clauses ++ [])) = (.ok (), d') :=
    ⟨_, rfl⟩
  obtain ⟨d'', o, o', first, inner, last, first', last', chopped, found, points, trimmed⟩ :=
    exists_trimmed reached (by decide) rfl rfl he ⟨2, 31⟩
  exact ⟨reached, d', d'', o, o', first, inner, last, first', last', he, chopped, found, points,
    trimmed⟩

/-- A line from one box to another goes on to the right, and returns there if its ends are cut off.
A closed line that passes by a box ends at the box then, and no longer at its start. -/
theorem trimmed_goes_on :
    let t : Resources ℚ := .standard
    let number (n : Nat) : Scalar := .number ⟨3, 1⟩ ⟨n, 0⟩ none
    let pair (x y : Nat) : Position := .pair ⟨3, 1⟩ (number x) (number y)
    let box (name : String) : Position := .object ⟨3, 1⟩ (.select ⟨3, 1⟩ (.label name)) none
    let d := (run t Drawing.initial [.object ⟨1, 1⟩ .box (some "A") [],
      .object ⟨2, 1⟩ .box (some "B") [⟨⟨2, 8⟩, .located (pair 3 0)⟩]]).2
    let onward : List Attribute := [⟨⟨3, 6⟩, .start (box "A")⟩, ⟨⟨3, 13⟩, .target (box "B")⟩,
      ⟨⟨3, 18⟩, .next⟩, ⟨⟨3, 23⟩, .direction .right (some (number 1))⟩]
    let around : List Attribute := [⟨⟨3, 6⟩, .start (pair 0 2)⟩, ⟨⟨3, 17⟩, .target (pair 3 2)⟩,
      ⟨⟨3, 26⟩, .target (box "B")⟩, ⟨⟨3, 31⟩, .flag .close⟩]
    let chop : Attribute := ⟨⟨3, 40⟩, .flag .chop⟩
    let points (as : List Attribute) : Except Failure Unit × Option (List (Point ℚ)) :=
      let r := execute t d (.object ⟨3, 1⟩ .line none as)
      (r.1, (r.2.registry.arena[2]?).map (·.points))
    d.Reachable t ∧ (d.view t).position (box "B") = .ok ⟨3, 0⟩ ∧
    points onward = (.ok (), some [⟨3 / 8, 0⟩, ⟨3, 0⟩, ⟨4, 0⟩]) ∧
    points (onward ++ [chop]) = (.ok (), some [⟨3 / 4, 0⟩, ⟨3, 0⟩, ⟨3, 0⟩]) ∧
    points around = (.ok (), some [⟨0, 2⟩, ⟨3, 2⟩, ⟨3, 0⟩, ⟨0, 2⟩]) ∧
    points (around ++ [chop]) = (.ok (), some [⟨0, 2⟩, ⟨3, 2⟩, ⟨3, 0⟩, ⟨3, 0⟩]) := by
  intro t number pair box d onward around chop points
  refine ⟨Reachable.initial.run _, ?_, ?_, ?_, ?_, ?_⟩
  · exact eq_ok_of_toOption (by decide +kernel)
  all_goals exact Prod.ext (eq_ok_of_toOption (by decide +kernel)) (by decide +kernel)

end Drawing

end DiagramScript
