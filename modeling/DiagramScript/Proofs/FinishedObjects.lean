import DiagramScript.Proofs.RunCounts

/-!
# What is true of every finished object

An object is drafted once.  After that it is given a number, a label, a group and members, and it is
moved with the groups around it; nothing else happens to it.  So whatever is true of every draft,
and survives this, is true of every finished object.

* `Object.Invariant` — such a property of objects.
* `Object.Invariant.of_place` — what placing gives the objects of a class is one.
* `Drawing.containsSteps_hold` — statements keep it, whether they succeed or fail.
* `Drawing.Reachable.invariant` — the finished objects of every drawing that a run can come to have
  it.
* `Drawing.Reachable.flow_finished` — the next object is attached to a finished one.
-/

namespace DiagramScript

variable {K : Type} [Arith K]

/-! ## Properties that stay -/

/-- Whether the finished objects of a registry have a property, and so has the one that is being
written down, if there is one. -/
def Registry.Hold (P : Object K → Prop) (latest : Option Nat) (r : Registry K) : Prop :=
  ∀ i o, r.arena[i]? = some o → o.finalized = true ∨ latest = some i → P o

/-- A property that every draft has, and that no object loses. -/
structure Object.Invariant (t : Resources K) (P : Object K → Prop) : Prop where
  /-- Moving an object keeps it. -/
  moved : ∀ {o : Object K} (dx dy : K) (serial : Nat), P o → P ((o.translate dx dy).stamp serial)
  /-- So does writing it down. -/
  stamped : ∀ {o : Object K} (serial : Nat), P o → P (o.stamp serial)
  /-- It does not depend on what a registry knows of the object. -/
  known : ∀ {o : Object K} (label : Option String) (ordinal : Nat) (parent : Option Nat)
    (children : List Nat) (finalized : Bool), P o → P { o with
      label := label, ordinal := ordinal, parent := parent, children := children
      finalized := finalized }
  /-- The object of every declaration has it, if those before it have it. -/
  declared : ∀ {d : Drawing K}, d.registry.Hold P none → ∀ id cls attributes,
    Ensures (fun p => P p.1.object) (d.draft t id cls attributes)
  /-- So has every group. -/
  grouped : ∀ {d : Drawing K}, d.registry.Hold P none → ∀ id inner origin attributes,
    Ensures (fun p => P p.2.object) (d.groupDraft t id inner origin attributes)

/-- What placing gives the objects of some classes, none of which is that of groups, is true of
every one of them once it stays. -/
theorem Object.Invariant.of_place {t : Resources K} {C : ObjectClass → Prop} {P : Object K → Prop}
    (apart : ¬C .container)
    (moved : ∀ {o : Object K} (dx dy : K) (serial : Nat),
      P o → P ((o.translate dx dy).stamp serial))
    (stamped : ∀ {o : Object K} (serial : Nat), P o → P (o.stamp serial))
    (known : ∀ {o : Object K} (label : Option String) (ordinal : Nat) (parent : Option Nat)
      (children : List Nat) (finalized : Bool), P o → P { o with
        label := label, ordinal := ordinal, parent := parent, children := children
        finalized := finalized })
    (placed : ∀ {draft : Draft K} (s : Setting K), C draft.object.cls →
      Ensures (fun p => P p.1.object) (draft.place s)) :
    Object.Invariant t fun o => C o.cls → P o where
  moved dx dy serial h c := moved dx dy serial (h c)
  stamped serial h c := stamped serial (h c)
  known label ordinal parent children finalized h c :=
    known label ordinal parent children finalized (h c)
  declared _ id cls attributes := by
    refine .andThen fun plain => .andThen fun full p hp c => ?_
    exact placed _ ((full.place_redraws _ p hp).cls ▸ c) p hp
  grouped _ id inner origin attributes p hp c := by
    have container : p.2.object.cls = .container :=
      congrArg Standing.cls (Drawing.groupDraft_standing _ _ _ _ _ hp)
    exact absurd (container ▸ c) apart

namespace Registry.Hold

variable {P : Object K → Prop} {latest : Option Nat} {r : Registry K}

theorem initial : (Registry.initial : Registry K).Hold P none := fun _ _ h => nomatch h

omit [Arith K] in
/-- Changes that keep a property of every object. -/
theorem modifyObject (h : r.Hold P latest) {f : Object K → Object K} (hf : ∀ {o}, P o → P (f o))
    (same : ∀ o, (f o).finalized = o.finalized) (id : Nat) :
    (r.modifyObject id f).Hold P latest := by
  intro i o ho known
  rw [Registry.modifyObject, List.getElem?_modify] at ho
  obtain ⟨old, hold, rfl⟩ := Option.map_eq_some_iff.1 ho
  by_cases hi : id = i
  · simp only [hi, if_true] at known ⊢
    exact hf (h i old hold (known.imp_left (same old).symm.trans))
  · simp only [hi, if_false] at known ⊢
    exact h i old hold known

omit [Arith K] in
theorem foldl (h : r.Hold P latest) {f : Object K → Object K} (hf : ∀ {o}, P o → P (f o))
    (same : ∀ o, (f o).finalized = o.finalized) (ids : List Nat) :
    (ids.foldl (fun r c => r.modifyObject c f) r).Hold P latest := by
  induction ids generalizing r with
  | nil => exact h
  | cons c ids ih => exact ih (h.modifyObject hf same c)

omit [Arith K] in
/-- A new object that is not finished yet. -/
theorem append (h : r.Hold P none) {o : Object K} (ho : P o) :
    (r.append o).Hold P (some r.arena.length) := by
  intro i x hx known
  rcases Nat.lt_trichotomy i r.arena.length with hi | rfl | hi
  · rw [Registry.append, List.getElem?_append_left hi] at hx
    refine h i x hx (.inl (known.resolve_right fun e => ?_))
    exact absurd (Option.some.inj e) (Nat.ne_of_gt hi)
  · rw [Registry.append, List.getElem?_concat_length] at hx
    exact Option.some.inj hx ▸ ho
  · rw [Registry.append, List.getElem?_eq_none (by simp; omega)] at hx
    cases hx

/-- A placeholder need not have the property. -/
theorem create (h : r.Hold P none) (cls : ObjectClass) (direction : Direction) :
    (r.create cls direction).2.Hold P none := by
  intro i x hx known
  rcases Nat.lt_trichotomy i r.arena.length with hi | rfl | hi
  · exact h i x ((List.getElem?_append_left hi).symm.trans hx) known
  · cases (List.getElem?_concat_length (l := r.arena)).symm.trans hx
    rcases known with known | known <;> cases known
  · have beyond := (List.getElem?_eq_some_iff.1 hx).1
    rw [Registry.create, List.length_append, List.length_singleton] at beyond
    omega

variable {t : Resources K} (hP : Object.Invariant t P)

include hP in
theorem attachScope (h : r.Hold P latest) (id s : Nat) : (r.attachScope id s).Hold P latest := by
  unfold Registry.attachScope Registry.adopt
  split_ifs
  · refine foldl
      (modifyObject (r := { r with attached := (id, s) :: r.attached }) h ?_ ?_ _) ?_ ?_ _
    · exact fun {o} ho => hP.known o.label o.ordinal o.parent _ o.finalized ho
    · exact fun _ => rfl
    · exact fun {o} ho => hP.known o.label o.ordinal _ o.children o.finalized ho
    · exact fun _ => rfl
  · exact h

include hP in
/-- The object that has been written down is finished. -/
theorem conclude {id : Nat} (h : r.Hold P (some id)) (s : Nat) (cls : ObjectClass)
    (label : Option String) : (r.conclude s id cls label).Hold P none := by
  intro i o ho known
  have known : o.finalized = true := known.resolve_right nofun
  rw [Registry.conclude, modifyScope, Registry.modifyObject, List.getElem?_modify] at ho
  obtain ⟨old, hold, rfl⟩ := Option.map_eq_some_iff.1 ho
  by_cases hi : id = i
  · simp only [hi, if_true]
    exact hP.known _ _ old.parent old.children _ (h i old hold (.inr (hi ▸ rfl)))
  · simp only [hi, if_false] at known ⊢
    exact h i old hold (.inl known)

end Registry.Hold

/-! ## Statements -/

namespace Drawing

variable {P : Object K → Prop} {t : Resources K} (hP : Object.Invariant t P) {d : Drawing K}

include hP in
theorem hold_finish {draft : Draft K} (h : d.registry.Hold P (some draft.object.id))
    (hid : draft.object.id < d.registry.arena.length) (exit : Option Direction)
    (label : Option String) : (d.finish draft exit label).2.registry.Hold P none := by
  obtain ⟨l, -, -, -, registry⟩ :=
    finish_concludes (List.getElem?_eq_getElem hid) exit label
  rw [registry]
  exact h.conclude hP _ _ _

include hP in
theorem hold_moveMembers {latest : Option Nat} (h : d.registry.Hold P latest) (id : Nat)
    (dx dy : K) : (d.moveMembers id dx dy).registry.Hold P latest := by
  unfold moveMembers
  split_ifs
  · exact h
  · exact h.foldl (hP.moved dx dy d.serial) (fun _ => rfl) _

include hP in
theorem hold_store (h : d.registry.Hold P none) (cls : ObjectClass) {draft : Draft K}
    (ho : P draft.object) (hid : draft.object.id = d.registry.arena.length) :
    ((d.create cls).2.store draft).registry.Hold P (some draft.object.id) := by
  rw [store_create d cls hid, hid]
  exact h.append (hP.stamped d.serial ho)

include hP in
theorem hold_declare (h : d.registry.Hold P none) (cls : ObjectClass) (label : Option String)
    (attributes : List Attribute) : (d.declare t cls label attributes).2.registry.Hold P none := by
  unfold declare
  dsimp only
  cases hd : (d.create cls).2.draft t (d.create cls).1 cls attributes with
  | error e => exact h.create cls d.cursor.direction
  | ok p =>
    obtain ⟨draft, exit⟩ := p
    have number : draft.object.id = d.registry.arena.length :=
      congrArg Standing.id (draft_standing _ _ _ _ hd)
    have property : P draft.object :=
      hP.declared (d := (d.create cls).2) (h.create cls d.cursor.direction) _ _ _ _ hd
    refine hold_finish hP (hold_store hP h cls property number) ?_ exit label
    rw [store_create_length, number]
    exact Nat.lt_succ_self _

include hP in
theorem hold_group (h : d.registry.Hold P none) (inner : Nat) (origin : Point K)
    (label : Option String) (attributes : List Attribute) :
    (d.group t inner origin label attributes).2.registry.Hold P none := by
  unfold group
  dsimp only
  cases hd : (d.create .container).2.groupDraft t (d.create .container).1 inner origin
      attributes with
  | error e => exact h.create .container d.cursor.direction
  | ok p =>
    obtain ⟨full, placed⟩ := p
    have number : placed.object.id = d.registry.arena.length :=
      congrArg Standing.id (groupDraft_standing _ _ _ _ _ hd)
    have property : P placed.object :=
      hP.grouped (d := (d.create .container).2) (h.create .container d.cursor.direction)
        _ _ _ _ _ hd
    have stored :=
      (hold_store hP h .container property number).attachScope hP d.registry.arena.length inner
    have assembled := d.assemble_counts inner full placed
    refine hold_finish (d := d.assemble inner full placed) hP ?_ ?_ none label
    · exact hold_moveMembers hP stored _ _ _
    · rw [assembled.1, number]
      exact Nat.lt_succ_self _

end Drawing

open Drawing

/-- Statements that draw nothing touch neither objects nor the one that the next is attached to. -/
theorem Drawing.Notes.aside {t : Resources K} {d e : Drawing K} {s : Statement}
    (h : d.Notes t s e) :
    e.registry.arena = d.registry.arena ∧ e.cursor.flow = d.cursor.flow := by
  cases h <;> exact ⟨rfl, rfl⟩

variable {P : Object K → Prop} {t : Resources K}

/-- Every step of a run keeps every invariant, whether it succeeds or fails. -/
theorem Drawing.containsSteps_hold (hP : Object.Invariant t P) :
    ContainsSteps t fun d e : Drawing K => d.registry.Hold P none → e.registry.Hold P none where
  refl _ h := h
  trans h h' hold := h' (h hold)
  notes h hold i o ho := hold i o (h.aside.1 ▸ ho)
  declare _ cls label attributes hold := hold_declare hP hold cls label attributes
  body within := within
  group {d inside _ _} _ within label attributes hold :=
    hold_group (d := inside.leave d) hP (within hold) _ _ label attributes

/-! ## Drawings that can be reached -/

namespace Drawing.Reachable

variable {d : Drawing K}

/-- Whatever is true of drafts and survives what happens to objects is true of every finished object
of every drawing that a run can come to. -/
theorem invariant (hP : Object.Invariant t P) (h : d.Reachable t) :
    ∀ o ∈ d.registry.arena, o.finalized = true → P o := by
  have hold : d.registry.Hold P none := by
    induction h with
    | initial => exact .initial
    | execute _ s ih => exact (containsSteps_hold hP).execute _ s ih
    | enter _ _ ih => exact ih
  intro o ho finished
  obtain ⟨i, hi⟩ := List.mem_iff_getElem?.1 ho
  exact hold i o hi (.inl finished)

end Drawing.Reachable

/-! ## What the next object is attached to -/

namespace Drawing

/-- Whether the object that the next one is attached to is finished. -/
def FlowFinished (d : Drawing K) : Prop :=
  ∀ id, d.cursor.flow = some id → ∃ o, d.registry.arena[id]? = some o ∧ o.finalized = true

omit [Arith K] in
/-- An object stays finished as long as it is not touched. -/
theorem FlowFinished.of_older {d e : Drawing K} (h : d.FlowFinished)
    (flow : e.cursor.flow = d.cursor.flow)
    (older : ∀ i < d.registry.arena.length, e.registry.arena[i]? = d.registry.arena[i]?) :
    e.FlowFinished := by
  intro id hid
  obtain ⟨o, ho, finished⟩ := h id (flow.symm.trans hid)
  exact ⟨o, (older id (List.getElem?_eq_some_iff.1 ho).1).trans ho, finished⟩

/-- Finishing an object leaves the cursor alone, or attaches the next object to it. -/
theorem finish_flow {e : Drawing K} {draft : Draft K}
    (hid : draft.object.id < e.registry.arena.length) (exit : Option Direction)
    (label : Option String) :
    (e.finish draft exit label).2.cursor.flow = e.cursor.flow ∨
      (e.finish draft exit label).2.cursor.flow = some draft.object.id ∧
        ∃ o, (e.finish draft exit label).2.registry.arena[draft.object.id]? = some o ∧
          o.finalized = true := by
  have here : e.registry.arena[draft.object.id]? = some _ := List.getElem?_eq_getElem hid
  obtain ⟨l, -, -, -, registry⟩ := finish_concludes here exit label
  have finished : ∃ o, (e.finish draft exit label).2.registry.arena[draft.object.id]? = some o ∧
      o.finalized = true := by
    rw [registry, Registry.conclude, Registry.modifyScope, Registry.modifyObject,
      List.getElem?_modify_eq, List.getElem?_eq_getElem hid]
    exact ⟨_, rfl, rfl⟩
  have flow : (e.finish draft exit label).2.cursor.flow = e.cursor.flow ∨
      (e.finish draft exit label).2.cursor.flow = some draft.object.id := by
    have advanced : (e.cursor.advance draft exit).flow = e.cursor.flow ∨
        (e.cursor.advance draft exit).flow = some draft.object.id := by
      unfold Cursor.advance
      split
      · exact .inl rfl
      · exact .inr rfl
    unfold finish
    split
    · exact .inl rfl
    · split
      · exact advanced
      · split
        · exact .inl rfl
        · exact advanced
  exact flow.imp_right fun h => ⟨h, finished⟩

variable {t : Resources K} {d : Drawing K}

theorem group_flow (d : Drawing K) (inner : Nat) (origin : Point K) (label : Option String)
    (attributes : List Attribute) :
    (d.group t inner origin label attributes).2.cursor.flow = d.cursor.flow ∨
      ∃ id o, (d.group t inner origin label attributes).2.cursor.flow = some id ∧
        (d.group t inner origin label attributes).2.registry.arena[id]? = some o ∧
          o.finalized = true := by
  unfold group
  dsimp only
  cases hd : (d.create .container).2.groupDraft t (d.create .container).1 inner origin
      attributes with
  | error e => exact .inl rfl
  | ok q =>
    obtain ⟨full, placed⟩ := q
    have number : placed.object.id = d.registry.arena.length :=
      congrArg Standing.id (groupDraft_standing _ _ _ _ _ hd)
    have assembled := d.assemble_counts inner full placed
    have flow : (d.assemble inner full placed).cursor.flow = d.cursor.flow :=
      congrArg Cursor.flow (moveMembers_cursor _ _ _)
    have last : placed.object.id < (d.assemble inner full placed).registry.arena.length := by
      rw [assembled.1, number]
      exact Nat.lt_succ_self _
    refine (finish_flow last none label).imp (·.trans flow) ?_
    rintro ⟨flow, o, ho, finished⟩
    exact ⟨_, o, flow, ho, finished⟩

/-- A statement leaves the cursor alone, or attaches the next object to one that it has finished. -/
theorem execute_flow (d : Drawing K) (s : Statement) :
    (DiagramScript.execute t d s).2.cursor.flow = d.cursor.flow ∨
      ∃ id o, (DiagramScript.execute t d s).2.cursor.flow = some id ∧
        (DiagramScript.execute t d s).2.registry.arena[id]? = some o ∧ o.finalized = true := by
  cases s with
  | object p cls label attributes =>
    rw [DiagramScript.execute, Outcome.locate]
    dsimp only
    unfold declare
    dsimp only
    cases hd : (d.create cls).2.draft t (d.create cls).1 cls attributes with
    | error e => exact .inl rfl
    | ok q =>
      have number : q.1.object.id = d.registry.arena.length :=
        congrArg Standing.id (draft_standing _ _ _ _ hd)
      refine (finish_flow ?_ _ label).imp_right fun ⟨flow, o, ho, finished⟩ =>
        ⟨_, o, flow, ho, finished⟩
      rw [store_create_length, number]
      exact Nat.lt_succ_self _
  | group p body label attributes =>
    cases ho : stackingStart (d.setting t) true with
    | error e =>
      rw [DiagramScript.execute, ho]
      exact .inl rfl
    | ok origin =>
      rw [execute_group ho]
      rcases hr : DiagramScript.run t (d.enter origin) body with ⟨_ | _, inside⟩
      · exact .inl rfl
      · change ((inside.leave d).group t d.registry.scopes.length origin label
            attributes).2.cursor.flow = (inside.leave d).cursor.flow ∨ _
        exact group_flow (inside.leave d) _ _ _ _
  | _ => exact .inl (execute_notes t d rfl).aside.2

/-- The next object is attached to a finished one, wherever a run comes to. -/
theorem Reachable.flow_finished (h : d.Reachable t) : d.FlowFinished := by
  induction h with
  | initial => exact fun _ hid => nomatch hid
  | @execute d h s ih =>
    rcases d.execute_flow (t := t) s with flow | ⟨id, o, flow, ho, finished⟩
    · exact ih.of_older flow (execute_evolves s h.scope_lt).registry.frame.objects
    · intro i hi
      cases flow.symm.trans hi
      exact ⟨o, ho, finished⟩
  | enter => exact fun _ hid => nomatch hid

end Drawing

end DiagramScript
