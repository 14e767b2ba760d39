import DiagramScript.Diagram
import DiagramScript.Number.Marked
import DiagramScript.Proofs.BracketedText
import DiagramScript.Proofs.Enclosing
import DiagramScript.Proofs.NestedRuns
import DiagramScript.Proofs.RelocatedRuns

/-!
# What a script in brackets draws

Brackets around a script only move its drawing: there is a group around it, and everything in the
group is moved by one vector.

* `Drawing.groupDraft_eq_ok` — a group without attributes never fails at the start of a script.
* `run_brackets` — what the statements of the script do in the group.
* `Diagram.Encloses` — a diagram that is another one in a group, moved by a vector.
* `Diagram.compile_brackets` — the diagram of the script in brackets is such a diagram.
-/

namespace DiagramScript

variable {K : Type} [Arith K]

/-! ## Objects that are moved -/

/-- The coordinates of a point, without marks. -/
def Point.values (p : Point MachineNumber) : Float × Float := (p.x.value, p.y.value)

/-- The point moved by a vector, or left alone if the vector is zero. -/
def Point.carry (dx dy : K) (p : Point K) : Point K :=
  if Arith.isZero dx && Arith.isZero dy then p else p.shift dx dy

/-- Whether two objects differ only in where they stand, which is a vector apart, and in the groups
they belong to. -/
structure Object.IsMoved (dx dy : MachineNumber) (o moved : Object MachineNumber) : Prop where
  id : moved.id = o.id
  cls : moved.cls = o.cls
  ordinal : moved.ordinal = o.ordinal
  label : moved.label = o.label
  direction : moved.direction = o.direction
  width : moved.width = o.width
  height : moved.height = o.height
  radius : moved.radius = o.radius
  style : moved.style = o.style
  text : moved.text = o.text
  children : moved.children = o.children
  center : moved.center.values = (o.center.carry dx dy).values
  points : moved.points.map Point.values = o.points.map fun p => (p.carry dx dy).values

theorem Point.values_stamp (m : Mark) (p : Point MachineNumber) : (p.stamp m).values = p.values :=
  Prod.ext (Marked.value_stamp m p.x) (Marked.value_stamp m p.y)

theorem Object.isMoved_enclosed (dx dy : MachineNumber) (serial group : Nat) (roots : List Nat)
    (o : Object MachineNumber) : IsMoved dx dy o (o.enclosed dx dy serial group roots) := by
  unfold enclosed carry
  by_cases hz : (Arith.isZero dx && Arith.isZero dy) = true
  · rw [if_pos hz]
    constructor
    case center => rw [Point.carry, if_pos hz]
    case points => simp only [Point.carry, if_pos hz]
    all_goals rfl
  · rw [if_neg hz]
    constructor
    case center =>
      rw [Point.carry, if_neg hz]
      exact Point.values_stamp _ _
    case points =>
      simp only [Point.carry, if_neg hz]
      refine List.ext_getElem (by simp [stamp, translate]) fun i hi _ => ?_
      simp [stamp, translate, Point.values_stamp]
    all_goals rfl

theorem Object.parent_enclosed (dx dy : K) (serial group : Nat) (roots : List Nat) (o : Object K) :
    (o.enclosed dx dy serial group roots).parent =
      if o.id ∈ roots then some group else o.parent := by
  unfold enclosed carry
  split_ifs <;> rfl

/-! ## A group that is not placed -/

theorem Paint.ofNumber_of_isFinite {x : K} (h : Arith.isFinite x = true) :
    Paint.ofNumber x = .ok (Paint.ofInteger (Arith.integerPart x)) := by
  rw [Paint.ofNumber, Arith.truncate, Arith.finite, if_pos h]
  rfl

/-- The variables a script starts with are enough for a group. -/
theorem Draft.begin_container {v : View MachineNumber}
    (h : (v.registry.scope v.scope).bindings = Variables.initial) (id : Nat)
    (direction : Direction) : ∃ d, Draft.begin v id .container direction = .ok d ∧
      d.object.cls = .container ∧ d.object.parent = none ∧ d.located = none := by
  have builtin : ∀ name x, (Variables.initial : Variables MachineNumber).get? name = some x →
      v.builtin name = .ok x := by
    intro name x hx
    rw [View.builtin, Registry.lookupVariable, h, hx]
  have style : ∃ s, Draft.defaultStyle v .container = .ok s := by
    have black : Arith.isFinite (Arith.dec 0 0 : MachineNumber) = true := by decide +kernel
    have nothing : Arith.isFinite (-Arith.dec 1 0 : MachineNumber) = true := by decide +kernel
    rw [Draft.defaultStyle, builtin "color" (Arith.dec 0 0) rfl,
      builtin "fill" (-Arith.dec 1 0) rfl, builtin "thickness" (Arith.dec 15 3) rfl]
    rw [ok_bind, ok_bind, ok_bind, Paint.ofNumber_of_isFinite black,
      Paint.ofNumber_of_isFinite nothing]
    exact ⟨_, rfl⟩
  obtain ⟨s, hs⟩ := style
  rw [Draft.begin, hs]
  exact ⟨_, rfl, rfl, rfl, rfl⟩

/-- A draft without a place of its own is placed at the point of attachment. -/
theorem Draft.placeFramed_eq_ok {d : Draft K} {s : Setting K} {start : Point K}
    (hd : d.located = none) (hs : stackingStart s true = .ok start) :
    ∃ placed, d.placeFramed s = .ok placed ∧ placed.object.cls = d.object.cls ∧
      placed.object.parent = d.object.parent := by
  unfold placeFramed
  rw [hd]
  dsimp only
  rw [hs]
  exact ⟨_, rfl, rfl, rfl⟩

namespace Drawing

/-- A group without attributes that is made at the start of a script. -/
theorem groupDraft_eq_ok {d : Drawing MachineNumber} {t : Resources MachineNumber}
    (hv : (d.registry.scope d.scope).bindings = Variables.initial) (hf : d.cursor.flow = none)
    (id inner : Nat) (origin : Point MachineNumber) :
    ∃ full placed, d.groupDraft t id inner origin [] = .ok (full, placed) ∧
      placed.object.cls = .container ∧ placed.object.parent = none := by
  obtain ⟨plain, hb, hc, hp, hl⟩ := Draft.begin_container (v := d.view t) hv id d.cursor.direction
  let full := enclose plain origin (scopeBox d.registry inner)
  have kept : full.object.cls = plain.object.cls ∧ full.object.parent = plain.object.parent ∧
      full.located = plain.located := by
    unfold full enclose
    split <;> exact ⟨rfl, rfl, rfl⟩
  have start : stackingStart (d.setting t) true = .ok d.cursor.position := by
    rw [stackingStart, show (d.setting t).cursor.flow = none from hf]
    rfl
  obtain ⟨placed, hf, cls, parent⟩ := Draft.placeFramed_eq_ok (kept.2.2.trans hl) start
  refine ⟨full, placed, ?_, cls.trans (kept.1.trans hc), parent.trans (kept.2.1.trans hp)⟩
  rw [groupDraft, hb, ok_bind]
  change full.placeFramed (d.setting t) >>= _ = _
  rw [hf]
  rfl

end Drawing

/-! ## Runs -/

/-- A script that is one group runs the statements of the group with a scope around them. -/
theorem run_brackets {t : Resources K} {ss : List Statement} {e : Drawing K}
    (h : run t Drawing.initial ss = (.ok (), e)) (f : SourcePos → SourcePos) (p : SourcePos) :
    run t Drawing.initial [.group p (ss.map (Statement.mapPos f)) none []] =
      Outcome.andThen (((e.nested.leave Drawing.initial).group t 1 Point.origin none []).locate p)
        fun d => (.ok (), d) := by
  have inside : run t (Drawing.initial.enter Point.origin) (ss.map (Statement.mapPos f)) =
      (.ok (), e.nested) := by
    rw [show Drawing.initial.enter Point.origin = (Drawing.initial : Drawing K).nested from rfl,
      run_mapPos, run_nested, h]
    rfl
  rw [run, execute, show stackingStart ((Drawing.initial : Drawing K).setting t) true =
    .ok Point.origin from rfl]
  dsimp only
  rw [inside]
  rfl

/-! ## Diagrams -/

omit [Arith K] in
theorem Registry.objects_map {r r' : Registry K} {ids : List Nat} {f : Object K → Object K}
    (h : ∀ i ∈ ids, r'.arena[i]? = (r.arena[i]?).map f) :
    r'.objects ids = (r.objects ids).map f := by
  rw [objects, objects, List.map_filterMap]
  exact List.filterMap_congr h

namespace Diagram

theorem compile_eq_ok {t : Resources K} {source : String} {d : Diagram K} :
    compile t source = .ok d ↔ ∃ ss e, Program.ofSource t.colors source = .ok ss ∧
      run t Drawing.initial ss = (.ok (), e) ∧ d = ofDrawing e := by
  constructor
  · intro h
    obtain ⟨ss, hs, h⟩ := exists_of_bind_eq_ok h
    refine ⟨ss, ?_⟩
    rw [ofStatements] at h
    rcases hr : run t Drawing.initial ss with ⟨_ | _, e⟩
    · rw [hr] at h
      cases h
    · rw [hr] at h
      cases h
      exact ⟨e, hs, rfl, rfl⟩
  · rintro ⟨ss, e, hs, hr, rfl⟩
    rw [compile, hs, ok_bind, ofStatements, hr]

/-- Something about the diagram of some statements. -/
theorem exists_ofStatements_eq_ok {α : Type} {t : Resources K} {ss : List Statement}
    {f : Diagram K → α} {a : α} (h : (ofStatements t ss).toOption.map f = some a) :
    ∃ d, ofStatements t ss = .ok d ∧ f d = a := by
  obtain ⟨d, hd, hf⟩ := Option.map_eq_some_iff.1 h
  exact ⟨d, eq_ok_of_toOption hd, hf⟩

/-- Something about the diagram of a script, from its statements. -/
theorem exists_compile_eq_ok {α : Type} {t : Resources K} {source : String} {ss : List Statement}
    {f : Diagram K → α} {a : α} (hs : Program.ofSource t.colors source = .ok ss)
    (h : (ofStatements t ss).toOption.map f = some a) :
    ∃ d, compile t source = .ok d ∧ f d = a := by
  obtain ⟨d, hd, hf⟩ := exists_ofStatements_eq_ok h
  refine ⟨d, ?_, hf⟩
  rw [compile, hs, ok_bind, hd]

/-- Whether a diagram is another one in a group: the group is its only object at the top level,
everything else is moved by one vector, and what was at the top level has the group as parent. -/
def Encloses (d' d : Diagram MachineNumber) : Prop :=
  ∃ container members dx dy, d'.messages = d.messages ∧ d'.allObjects = container :: members ∧
    container.cls = .container ∧ container.parent = none ∧
    List.Forall₂ (fun o moved => o.IsMoved dx dy moved ∧
      moved.parent = if o.id ∈ d.top then some container.id else o.parent) d.allObjects members

/-- Brackets around a script only move its drawing. -/
theorem compile_brackets (t : Resources MachineNumber) {source : String} {d : Diagram MachineNumber}
    (h : compile t source = .ok d) :
    ∃ d', compile t ("[\n" ++ source ++ "\n]") = .ok d' ∧ d'.Encloses d := by
  obtain ⟨ss, e, hs, hr, rfl⟩ := compile_eq_ok.1 h
  obtain ⟨added, roots, grown⟩ := run_grows hr Nat.one_pos
  have planted : Planted 0 e.registry.shape roots := by
    rw [grown.shape]
    exact grown.planted
  have top : (e.registry.scope 0).members = roots := grown.here
  let after := e.nested.leave Drawing.initial
  obtain ⟨full, placed, hd, hc, hp⟩ := Drawing.groupDraft_eq_ok (d := (after.create .container).2)
    (t := t) rfl rfl (after.create .container).1 1 Point.origin
  obtain ⟨d', container, dx, dy, serial, hg, around⟩ := Drawing.group_all hd hc hp planted
    ((e.registry.nested_members 0).trans top) rfl (Nat.succ_pos _)
  have wrapped : run t Drawing.initial
      [.group .first (ss.map (Statement.mapPos (.down 1))) none []] = (.ok (), d') := by
    rw [run_brackets hr, hg]
    rfl
  have before : (ofDrawing e).allObjects = e.registry.objects (e.registry.shape.trees roots) := by
    rw [← Registry.trees_eq planted, ← top]
    rfl
  have whole : (ofDrawing d').allObjects =
      d'.registry.objects (after.registry.arena.length :: e.registry.shape.trees roots) := by
    rw [← Registry.descendants_group planted around.shape e.registry.length_shape.symm, allObjects,
      show (ofDrawing d').top = [after.registry.arena.length] from around.members,
      List.flatMap_singleton]
    rfl
  refine ⟨ofDrawing d', compile_eq_ok.2 ⟨_, _, Program.ofSource_brackets hs, wrapped, rfl⟩,
    container,
    (ofDrawing e).allObjects.map (Object.enclosed dx dy serial after.registry.arena.length roots),
    dx, dy, around.messages, ?_, around.cls, around.parent, ?_⟩
  · rw [whole, before, Registry.objects, List.filterMap_cons_some around.found]
    congr 1
    refine Registry.objects_map fun i hi => around.moved i ?_
    have inside := List.mem_range.1 (planted.perm_range.mem_iff.1 hi)
    rwa [Registry.length_shape] at inside
  · rw [List.forall₂_map_right_iff, List.forall₂_same]
    intro o _
    refine ⟨o.isMoved_enclosed .., ?_⟩
    rw [o.parent_enclosed, around.number, show (ofDrawing e).top = roots from top]

/-- A box, and a circle in a group of its own. -/
theorem compile_box_group : ∃ d d', compile Resources.standard "box; [circle]" = .ok d ∧
    d.allObjects.map (·.cls) = [.box, .container, .circle] ∧
    compile Resources.standard ("[\n" ++ "box; [circle]" ++ "\n]") = .ok d' ∧ d'.Encloses d := by
  let ss : List Statement :=
    [.object ⟨1, 1⟩ .box none [], .group ⟨1, 6⟩ [.object ⟨1, 7⟩ .circle none []] none []]
  have statements : Program.ofSource .standard "box; [circle]" = .ok ss := by
    cbv
  have drawn : ((ofStatements (Resources.standard : Resources MachineNumber) ss).toOption.map
      fun d => d.allObjects.map (·.cls)) = some [.box, .container, .circle] := by
    decide +kernel
  obtain ⟨d, compiled, classes⟩ :=
    exists_compile_eq_ok (t := Resources.standard) statements drawn
  obtain ⟨d', wrapped, enclosed⟩ := compile_brackets Resources.standard compiled
  exact ⟨d, d', compiled, classes, wrapped, enclosed⟩

end Diagram

end DiagramScript
