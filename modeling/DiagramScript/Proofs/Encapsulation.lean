import DiagramScript.Proofs.ObjectCounts

/-!
# What a group does to the drawing around it

The body of a group is a script in its own right: it may set variables and places, turn, print, and
hold groups.  Around the group nothing is seen of this.

* `Drawing.group_direction` — a group does not turn the cursor.
* `Registry.GainsGroup`, `Registry.Evolves.gainsGroup` — what a body and the group around it do to a
  registry.
* `Drawing.Encapsulates` — the drawing around a group gets the group, and nothing else changes.
* `Drawing.Reachable.encapsulates` — this is so for every group at every point of a run.
-/

namespace DiagramScript

variable {K : Type} [Arith K]

/-! ## The direction of travel -/

theorem Cursor.direction_advance (c : Cursor K) (draft : Draft K) :
    (c.advance draft none).direction = c.direction := by
  unfold advance
  split <;> rfl

namespace Drawing

theorem finish_direction (d : Drawing K) (draft : Draft K) (label : Option String) :
    (d.finish draft none label).2.cursor.direction = d.cursor.direction := by
  unfold finish
  split
  · rfl
  · split
    · exact d.cursor.direction_advance draft
    · split
      · rfl
      · exact d.cursor.direction_advance draft

/-- A group does not turn the cursor. -/
theorem group_direction (d : Drawing K) (t : Resources K) (inner : Nat) (origin : Point K)
    (label : Option String) (attributes : List Attribute) :
    (d.group t inner origin label attributes).2.cursor.direction = d.cursor.direction := by
  unfold group
  dsimp only
  split
  · rfl
  · rw [finish_direction, moveMembers_cursor]
    rfl

end Drawing

/-! ## The registry around a group -/

namespace Registry

/-- Whether a registry is another one with one more group in a scope. -/
structure GainsGroup (s id : Nat) (label : Option String) (r r' : Registry K) : Prop where
  /-- The number of the group is new. -/
  new : r.arena.length ≤ id
  /-- There is the group. -/
  found : ∃ o, r'.arena[id]? = some o ∧ o.cls = .container ∧ o.label = label
  /-- The scope knows it. -/
  scope : r'.scope s = (r.scope s).enroll id .container label
  /-- The other scopes stay as they are. -/
  elsewhere : ∀ i < r.scopes.length, i ≠ s → r'.scope i = r.scope i
  /-- So do the objects. -/
  objects : ∀ i < r.arena.length, r'.arena[i]? = r.arena[i]?

/-- What comes of a body in a scope of its own, and of the group around it. -/
theorem Evolves.gainsGroup {s : Nat} {r r' r'' : Registry K} {o : Object K}
    (h : Evolves r.scopes.length (r.openScope s).2 r') (hs : s < r.scopes.length)
    (new : o.standing = r'.newcomer s .container o.label)
    (groups : Groups r.arena.length r'.arena.length r.scopes.length (r'.enroll s o) r'') :
    GainsGroup s o.id o.label r r'' := by
  -- the body changes no scope that was there before it
  have frame := h.frame.openScope r.scopes.length
  have before : ∀ i < r.scopes.length, r'.scope i = r.scope i := fun i hi =>
    frame.elsewhere i hi (Nat.ne_of_lt hi)
  have number : o.id = r'.arena.length := congrArg Standing.id new
  have cls : o.cls = .container := congrArg Standing.cls new
  constructor
  · exact number ▸ frame.count
  · have known := groups.standing o.id
    rw [standing?_enroll (newcomer_self new)] at known
    obtain ⟨x, hx, same⟩ := (standing?_eq_some _).1 known
    exact ⟨x, hx, (congrArg Standing.cls same).trans cls, congrArg Standing.label same⟩
  · rw [groups.scope_eq, scope_enroll, if_pos ⟨rfl, hs.trans_le frame.scopes⟩, before s hs, cls]
  · intro i hi hne
    rw [groups.scope_eq, scope_enroll, if_neg fun e => hne e.1.symm, before i hi]
  · intro i hi
    rw [groups.older i hi, (Frame.enroll s r' o).objects i (hi.trans_le frame.count),
      frame.objects i hi]

end Registry

/-! ## The drawing around a group -/

namespace Drawing

/-- Whether a drawing is another one with one more group. -/
structure Encapsulates (d d' : Drawing K) (label : Option String) : Prop where
  /-- The scope is the same. -/
  scope : d'.scope = d.scope
  /-- The direction is the same. -/
  direction : d'.cursor.direction = d.cursor.direction
  /-- So are the variables of the scope. -/
  bindings : (d'.registry.scope d.scope).bindings = (d.registry.scope d.scope).bindings
  /-- So are its places. -/
  places : (d'.registry.scope d.scope).places = (d.registry.scope d.scope).places
  /-- The group is the only new member, and its label is the only new one. -/
  member : ∃ id o, d.registry.arena.length ≤ id ∧ d'.registry.arena[id]? = some o ∧
    o.cls = .container ∧ o.label = label ∧
    (d'.registry.scope d.scope).members = (d.registry.scope d.scope).members ++ [id] ∧
    (d'.registry.scope d.scope).labels =
      (d.registry.scope d.scope).labels ++ label.toList.map (·, id)
  /-- The objects of the other classes are counted as before. -/
  ofClass : ∀ cls, cls ≠ .container →
    (d'.registry.scope d.scope).ofClass cls = (d.registry.scope d.scope).ofClass cls
  /-- All objects that were there stay as they were. -/
  objects : ∀ i < d.registry.arena.length, d'.registry.arena[i]? = d.registry.arena[i]?
  /-- So do all other scopes. -/
  elsewhere : ∀ i < d.registry.scopes.length, i ≠ d.scope →
    d'.registry.scope i = d.registry.scope i

end Drawing

open Drawing

namespace Drawing.Reachable

/-- A group encapsulates its body. -/
theorem encapsulates {t : Resources K} {d d' : Drawing K} (h : d.Reachable t) {p : SourcePos}
    {body : List Statement} {label : Option String} {attributes : List Attribute}
    (he : DiagramScript.execute t d (.group p body label attributes) = (.ok (), d')) :
    d.Encapsulates d' label := by
  obtain ⟨origin, inside, -, hr, hg⟩ := exists_of_execute_group_eq_ok he
  have hlt := h.scope_lt
  have body := run_evolves (t := t) (d := d.enter origin) body (d.registry.lt_openScope d.scope)
  rw [hr] at body
  rcases body_concludes hr hlt label attributes hg with
    ⟨e, hfail⟩ | ⟨o, new, -, given, scope, groups⟩
  · cases hfail
  · have gained := body.registry.gainsGroup hlt new groups
    rw [given rfl] at gained
    obtain ⟨x, hx, cls, named⟩ := gained.found
    have here := gained.scope
    constructor
    · exact scope
    · have turned :=
        (inside.leave d).group_direction t d.registry.scopes.length origin label attributes
      rw [hg] at turned
      exact turned
    · rw [here]
      rfl
    · rw [here]
      rfl
    · refine ⟨o.id, x, gained.new, hx, cls, named, ?_, ?_⟩
      · rw [here]
        rfl
      · rw [here]
        rfl
    · intro other hne
      rw [here, Scope.ofClass_enroll, if_neg hne]
    · exact gained.objects
    · exact gained.elsewhere

/-- A group in a drawing with a variable, a place and a direction of its own.  Its body changes the
variable and the direction, gives the label of the place to an object, prints, and holds a group. -/
theorem encapsulates_turned_group : ∃ d d' : Drawing MachineNumber,
    d.Reachable Resources.standard ∧ d.cursor.direction = .down ∧
    (d'.registry.scope 0).members = [0, 4] ∧ d'.messages = ["inside"] ∧
    d.Encapsulates d' (some "C") := by
  let one : Scalar := .number ⟨1, 1⟩ (.ofNat 1) none
  let spot : String → Position := fun l => .object ⟨1, 1⟩ (.select ⟨1, 1⟩ (.label l)) none
  let around : List Statement :=
    [.assign ⟨1, 1⟩ "x" .set one, .direction ⟨2, 1⟩ .down, .object ⟨3, 1⟩ .box (some "B") [],
      .place ⟨4, 1⟩ "P" (spot "B")]
  let body : List Statement :=
    [.assign ⟨5, 1⟩ "x" .add one, .direction ⟨6, 1⟩ .left, .object ⟨7, 1⟩ .circle (some "P") [],
      .place ⟨8, 1⟩ "B" (spot "P"), .print ⟨9, 1⟩ [.text "inside"],
      .group ⟨10, 1⟩ [.object ⟨10, 2⟩ .arrow none []] none []]
  have reached :=
    (Reachable.initial (K := MachineNumber) (t := Resources.standard)).run around
  let d : Drawing MachineNumber := (DiagramScript.run Resources.standard Drawing.initial around).2
  let result := DiagramScript.execute Resources.standard d (.group ⟨11, 1⟩ body (some "C") [])
  have drawn : result.1.toOption = some () := by decide +kernel
  have done : result.1 = .ok () := by
    cases hr : result.1 with
    | ok u => rfl
    | error e =>
      rw [hr] at drawn
      cases drawn
  refine ⟨d, result.2, reached, ?_, ?_, ?_, reached.encapsulates (Prod.ext done rfl)⟩ <;>
    decide +kernel

end Drawing.Reachable

end DiagramScript
