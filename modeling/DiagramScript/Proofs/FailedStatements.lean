import DiagramScript.Number.Marked
import DiagramScript.Proofs.RunEvolution

/-!
# What a statement that fails leaves behind

A statement that fails has used up numbers of objects and scopes.  Apart from that the drawing is as
it was, with one exception: an object whose label is taken has been finished by then, and stays in
its scope without a label.

* `Drawing.finish_error`, `Drawing.declare_error`, `Drawing.group_error` — how finishing an object,
  a declaration and a group fail.
* `Drawing.Withstands` — what stays in any case.
* `Drawing.StaysUnlabelled` — what is left of an object whose label is taken.
* `Drawing.Reachable.failed_statement` — a statement that fails at any point of a run leaves all
  that its scope knows as it was, or an object without its label.
-/

namespace DiagramScript

variable {K : Type} [Arith K] {t : Resources K} {d : Drawing K}

/-! ## Finishing objects -/

omit [Arith K] in
/-- An object that is finished without a label. -/
theorem Registry.conclude_unlabelled {r : Registry K} {s id : Nat} {o : Object K}
    (h : r.arena[id]? = some o) (hl : o.label = none) (hs : s < r.scopes.length) :
    (∃ x, (r.conclude s id o.cls none).arena[id]? = some x ∧ x.cls = o.cls ∧
      x.finalized = true ∧ x.label = none) ∧
      (r.conclude s id o.cls none).scope s = (r.scope s).addMember id o.cls := by
  constructor
  · rw [conclude, modifyScope, modifyObject, List.getElem?_modify_eq, h]
    exact ⟨_, rfl, rfl, rfl, hl⟩
  · rw [conclude, scope_modifyScope, if_pos ⟨rfl, hs⟩, Scope.enroll_none]
    rfl

namespace Drawing

open Registry

/-- Finishing an object fails only if its label is taken.  Then it stays without one. -/
theorem finish_error {e : Drawing K} {draft : Draft K} {o : Object K}
    (h : e.registry.arena[draft.object.id]? = some o) {exit : Option Direction}
    {label : Option String} {f : Failure} (hf : (e.finish draft exit label).1 = .error f) :
    ∃ name, label = some name ∧ (e.registry.scope e.scope).isTaken name = true ∧
      f = .reference (.duplicateLabel name) ∧ (e.finish draft exit label).2 =
        { e with registry := e.registry.conclude e.scope draft.object.id o.cls none } := by
  unfold finish at hf ⊢
  rw [finalize_eq h] at hf ⊢
  dsimp only at hf ⊢
  cases label with
  | none => cases hf
  | some name =>
    cases taken : (e.registry.scope e.scope).isTaken name with
    | true =>
      dsimp only at hf ⊢
      rw [bindLabel_of_taken taken] at hf ⊢
      cases hf
      exact ⟨name, rfl, taken, rfl, rfl⟩
    | false =>
      dsimp only at hf
      rw [bindLabel_of_free taken h] at hf
      cases hf

/-- Whether a drawing is another one with one more object of a class in its scope, which has no
label. -/
structure StaysUnlabelled (d d' : Drawing K) (cls : ObjectClass) (id : Nat) : Prop where
  /-- The object is new. -/
  new : d.registry.arena.length ≤ id
  /-- It is finished, and has no label. -/
  found : ∃ o, d'.registry.arena[id]? = some o ∧ o.cls = cls ∧ o.finalized = true ∧ o.label = none
  /-- The scope has it as a member, as the last of its class. -/
  scope : d'.registry.scope d.scope = (d.registry.scope d.scope).addMember id cls

/-! ## Declarations and groups -/

/-- How declaring an object fails: before the scope knows the object, or because its label is
taken. -/
inductive FailsToDeclare (d d' : Drawing K) (cls : ObjectClass) (label : Option String) :
    Failure → Prop where
  /-- The scope knows what it knew. -/
  | before (f : Failure) (cursor : d'.cursor = d.cursor)
    (scope : d'.registry.scope d.scope = d.registry.scope d.scope) :
    FailsToDeclare d d' cls label f
  /-- The object is finished, and its label is that of another object or of a place. -/
  | taken {name : String} {id : Nat} (asked : label = some name) (cursor : d'.cursor = d.cursor)
    (taken : (d.registry.scope d.scope).isTaken name = true)
    (left : d.StaysUnlabelled d' cls id) :
    FailsToDeclare d d' cls label (.reference (.duplicateLabel name))

/-- Where all that is done before an object is finished leaves the cursor and the scope alone, the
declaration fails in one of the two ways. -/
theorem failsToDeclare_of_finish {e : Drawing K} {draft : Draft K} {o : Object K}
    (here : e.scope = d.scope) (cursor : e.cursor = d.cursor)
    (scope : e.registry.scope d.scope = d.registry.scope d.scope)
    (hs : d.scope < e.registry.scopes.length) (new : d.registry.arena.length ≤ draft.object.id)
    (h : e.registry.arena[draft.object.id]? = some o) {cls : ObjectClass} (hc : o.cls = cls)
    (hl : o.label = none) {exit : Option Direction} {label : Option String} {f : Failure}
    (hf : (e.finish draft exit label).1 = .error f) :
    d.FailsToDeclare (e.finish draft exit label).2 cls label f := by
  subst hc
  obtain ⟨name, asked, taken, rfl, left⟩ := finish_error h hf
  rw [here, scope] at taken
  rw [left, here]
  obtain ⟨found, member⟩ := conclude_unlabelled h hl hs
  exact .taken asked cursor taken ⟨new, found, member.trans (by rw [scope])⟩

theorem declare_error (hlt : d.scope < d.registry.scopes.length) {cls : ObjectClass}
    {label : Option String} {attributes : List Attribute} {f : Failure}
    (hf : (d.declare t cls label attributes).1 = .error f) :
    d.FailsToDeclare (d.declare t cls label attributes).2 cls label f := by
  unfold declare at hf ⊢
  dsimp only at hf ⊢
  cases hd : (d.create cls).2.draft t (d.create cls).1 cls attributes with
  | error e => exact .before f rfl rfl
  | ok p =>
    rw [hd] at hf
    obtain ⟨draft, exit⟩ := p
    have standing : (draft.object.stamp d.serial).standing =
        { id := d.registry.arena.length, cls := cls } := draft_standing _ _ _ _ hd
    have number : draft.object.id = d.registry.arena.length := congrArg Standing.id standing
    have written := store_create d cls number
    have latest := getElem?_store_create number cls
    refine failsToDeclare_of_finish (d := d) (e := (d.create cls).2.store draft) rfl rfl ?_ ?_
      (le_of_eq number.symm) latest (congrArg Standing.cls standing)
      (congrArg Standing.label standing) hf
    all_goals rw [written]
    · rfl
    · exact hlt

/-- What is done in the body of a group leaves the scope around it alone. -/
theorem scope_of_body (t : Resources K) (origin : Point K) (body : List Statement)
    (hlt : d.scope < d.registry.scopes.length) :
    (run t (d.enter origin) body).2.registry.scope d.scope = d.registry.scope d.scope := by
  have inside := run_evolves (t := t) (d := d.enter origin) body (d.registry.lt_openScope d.scope)
  have frame := inside.registry.frame.openScope d.registry.scopes.length
  exact frame.elsewhere d.scope hlt (Nat.ne_of_lt hlt)

theorem group_error (hlt : d.scope < d.registry.scopes.length) {origin : Point K}
    {body : List Statement} {inside : Drawing K}
    (hr : run t (d.enter origin) body = (.ok (), inside)) {label : Option String}
    {attributes : List Attribute} {f : Failure}
    (hf : ((inside.leave d).group t d.registry.scopes.length origin label attributes).1 =
      .error f) :
    d.FailsToDeclare
      ((inside.leave d).group t d.registry.scopes.length origin label attributes).2 .container label
      f := by
  have around : inside.registry.scope d.scope = d.registry.scope d.scope := by
    have unseen := scope_of_body t origin body hlt
    rwa [hr] at unseen
  have grown := run_evolves (t := t) (d := d.enter origin) body (d.registry.lt_openScope d.scope)
  rw [hr] at grown
  have frame := grown.registry.frame.openScope d.scope
  cases hd : ((inside.leave d).create .container).2.groupDraft t
      ((inside.leave d).create .container).1 d.registry.scopes.length origin attributes with
  | error e =>
    unfold group
    dsimp only
    rw [hd]
    exact .before f rfl around
  | ok p =>
    obtain ⟨full, placed⟩ := p
    have standing : (placed.object.stamp inside.serial).standing =
        { id := inside.registry.arena.length, cls := .container } :=
      groupDraft_standing _ _ _ _ _ hd
    have number : placed.object.id = inside.registry.arena.length := congrArg Standing.id standing
    obtain ⟨added, roots, shape, planted, members⟩ := exists_planted_of_body hr
    obtain ⟨moved, hg, here, cursor, groups⟩ := group_eq_finish shape planted members hd label
    obtain ⟨x, hx, cls, unlabelled⟩ := groups.found
    rw [hg] at hf ⊢
    have latest : moved.registry.arena[placed.object.id]? = some x := number.symm ▸ hx
    refine failsToDeclare_of_finish (d := d) here cursor ((groups.scope_eq d.scope).trans around) ?_
      (frame.count.trans_eq number.symm) latest (cls.trans (congrArg Standing.cls standing))
      (unlabelled.trans (congrArg Standing.label standing)) hf
    rw [groups.scopes]
    exact hlt.trans_le frame.scopes

end Drawing

/-! ## Statements -/

/-- The place, the class and the label of the object that a statement declares. -/
def Statement.declared? : Statement → Option (SourcePos × ObjectClass × Option String)
  | .object p cls label _ => some (p, cls, label)
  | .group p _ label _ => some (p, .container, label)
  | _ => none

omit [Arith K] in
theorem Outcome.error_of_locate {o : Outcome K} {p : SourcePos} {f : Failure}
    (h : (o.locate p).1 = .error f) : ∃ f', o.1 = .error f' ∧ f = f'.locate p := by
  obtain ⟨r, d⟩ := o
  cases r with
  | ok u => cases h
  | error f' => exact ⟨f', rfl, (Except.error.inj h).symm⟩

namespace Drawing

/-- Whether a drawing is another one, but for what its scope knows, and for new objects and
scopes. -/
structure Withstands (d d' : Drawing K) : Prop where
  /-- The scope is the same. -/
  scope : d'.scope = d.scope
  /-- So is the cursor: its point, its direction, and the object placed last. -/
  cursor : d'.cursor = d.cursor
  /-- All objects that were there stay as they were. -/
  objects : ∀ i < d.registry.arena.length, d'.registry.arena[i]? = d.registry.arena[i]?
  /-- So do all other scopes. -/
  elsewhere : ∀ i < d.registry.scopes.length, i ≠ d.scope →
    d'.registry.scope i = d.registry.scope i

/-- What a statement that fails leaves of what its scope knows: all of it, or more by an object
without the label that it should have. -/
inductive Leaves (d d' : Drawing K) (s : Statement) : Failure → Prop where
  /-- The members, the objects of every class, the labels, the places and the variables are what
  they were. -/
  | same (f : Failure) (scope : d'.registry.scope d.scope = d.registry.scope d.scope) :
    Leaves d d' s f
  /-- The label of the object that the statement declares is taken, the failure says so, and the
  object stays. -/
  | unlabelled {p : SourcePos} {cls : ObjectClass} {name : String} {id : Nat}
    (declared : s.declared? = some (p, cls, some name))
    (taken : (d.registry.scope d.scope).isTaken name = true)
    (left : d.StaysUnlabelled d' cls id) :
    Leaves d d' s (.mistake ⟨.reference (.duplicateLabel name), some p⟩)

omit [Arith K] in
theorem FailsToDeclare.leaves {d' : Drawing K} {cls : ObjectClass} {label : Option String}
    {f : Failure} (h : d.FailsToDeclare d' cls label f) {s : Statement} {p : SourcePos}
    (hs : s.declared? = some (p, cls, label)) :
    d'.cursor = d.cursor ∧ d.Leaves d' s (f.locate p) := by
  cases h with
  | before f cursor scope => exact ⟨cursor, .same _ scope⟩
  | taken asked cursor taken left =>
    subst asked
    exact ⟨cursor, .unlabelled hs taken left⟩

end Drawing

open Drawing

/-- How statements fail. -/
theorem execute_error (hlt : d.scope < d.registry.scopes.length) {s : Statement} {f : Failure}
    (h : (execute t d s).1 = .error f) :
    (execute t d s).2.cursor = d.cursor ∧ d.Leaves (execute t d s).2 s f := by
  cases s with
  | object p cls label attributes =>
    rw [execute] at h ⊢
    obtain ⟨f', hf, rfl⟩ := Outcome.error_of_locate h
    exact (declare_error hlt hf).leaves rfl
  | group p body label attributes =>
    cases ho : stackingStart (d.setting t) true with
    | error e =>
      rw [execute, ho]
      exact ⟨rfl, .same _ rfl⟩
    | ok origin =>
      rw [execute_group ho] at h ⊢
      obtain ⟨f', hf, rfl⟩ := Outcome.error_of_locate h
      rcases hr : run t (d.enter origin) body with ⟨e | u, inside⟩
      · have around := scope_of_body t origin body hlt
        rw [hr] at around
        exact ⟨rfl, .same _ around⟩
      · rw [hr] at hf
        exact (group_error hlt hr hf).leaves rfl
  | _ =>
    have same := execute_eq_of_error h rfl
    exact ⟨congrArg Drawing.cursor same, .same _ (by rw [same])⟩

/-- What gives nothing fails. -/
theorem exists_error_of_toOption {α : Type} {r : Except Failure α} (h : r.toOption = none) :
    ∃ f, r = .error f := by
  cases r with
  | ok x => cases h
  | error f => exact ⟨f, rfl⟩

namespace Drawing.Reachable

/-- A statement that fails at any point of a run, for whatever reason, leaves the cursor, all
objects that were there and all other scopes as they were.  What its own scope knows stays the same
too, unless the label of the object that the statement declares is taken: then the object stays in
the scope without a label. -/
theorem failed_statement (h : d.Reachable t) {s : Statement} {f : Failure}
    (hf : (DiagramScript.execute t d s).1 = .error f) :
    d.Withstands (DiagramScript.execute t d s).2 ∧
      d.Leaves (DiagramScript.execute t d s).2 s f := by
  have hlt := h.scope_lt
  have evolves := execute_evolves (t := t) s hlt
  have frame := evolves.registry.frame
  obtain ⟨cursor, leaves⟩ := execute_error hlt hf
  exact ⟨⟨evolves.scope, cursor, frame.objects, frame.elsewhere⟩, leaves⟩

/-- An assertion that fails in the body of a group, after an object and a variable of the body. -/
theorem failed_statement_in_group : ∃ d : Drawing MachineNumber, ∃ s f,
    d.Reachable Resources.standard ∧
      (DiagramScript.execute Resources.standard d s).1 = .error f ∧
      (DiagramScript.execute Resources.standard d s).2.registry.arena.length = 2 ∧
      d.Withstands (DiagramScript.execute Resources.standard d s).2 ∧
      d.Leaves (DiagramScript.execute Resources.standard d s).2 s f := by
  let one : Scalar := .number ⟨2, 9⟩ (.ofNat 1) none
  let two : Scalar := .number ⟨2, 14⟩ (.ofNat 2) none
  let s : Statement := .group ⟨2, 1⟩ [.object ⟨2, 2⟩ .circle (some "A") [],
    .assign ⟨2, 4⟩ "boxwid" .set two, .assertScalars ⟨2, 9⟩ one two] (some "G") []
  let before : List Statement := [.object ⟨1, 1⟩ .box (some "A") []]
  let d : Drawing MachineNumber := (DiagramScript.run Resources.standard Drawing.initial before).2
  have reached : d.Reachable Resources.standard := Reachable.initial.run before
  obtain ⟨f, hf⟩ : ∃ f, (DiagramScript.execute Resources.standard d s).1 = .error f :=
    exists_error_of_toOption (by decide +kernel)
  exact ⟨d, s, f, reached, hf, by decide +kernel, reached.failed_statement hf⟩

/-- A second object under the label of the first is a member of the scope although its statement
fails. -/
theorem taken_label_adds_member : ∃ d : Drawing MachineNumber, ∃ s f,
    d.Reachable Resources.standard ∧
      (DiagramScript.execute Resources.standard d s).1 = .error f ∧
      ¬ ((DiagramScript.execute Resources.standard d s).2.registry.scope d.scope).members =
        (d.registry.scope d.scope).members := by
  let s : Statement := .object ⟨2, 1⟩ .circle (some "A") []
  let before : List Statement := [.object ⟨1, 1⟩ .box (some "A") []]
  let d : Drawing MachineNumber := (DiagramScript.run Resources.standard Drawing.initial before).2
  have reached : d.Reachable Resources.standard := Reachable.initial.run before
  obtain ⟨f, hf⟩ : ∃ f, (DiagramScript.execute Resources.standard d s).1 = .error f :=
    exists_error_of_toOption (by decide +kernel)
  exact ⟨d, s, f, reached, hf, by decide +kernel⟩

end Drawing.Reachable

end DiagramScript
