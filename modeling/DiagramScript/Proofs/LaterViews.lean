import DiagramScript.Proofs.Agreement
import DiagramScript.Proofs.FoundObjects

/-!
# What is known stays known

While an object is drafted, and while the body of a group is drawn, the registry only grows: objects
and scopes are added, and those that were there stay.  In the scopes that were there every name
means what it meant before.

* `Registry.Frame.enclosing_eq`, `Registry.Frame.follow_eq` — labels and references.
* `Registry.Frame.seesAlike` — everything that expressions and positions depend on.
* `Drawing.Reachable.create_seesAlike`, `Drawing.Reachable.body_seesAlike` — the view from a
  declaration, when its object is drafted and when the body of its group has been drawn.
-/

namespace DiagramScript

variable {K : Type}

namespace Registry.Frame

variable {r r' : Registry K} (h : Frame r.scopes.length r r') {s : Nat}
include h

/-! ## Scopes -/

theorem scope_eq (hs : s < r.scopes.length) : r'.scope s = r.scope s :=
  h.elsewhere s hs (Nat.ne_of_lt hs)

theorem getElem?_scopes (hs : s < r.scopes.length) : r'.scopes[s]? = r.scopes[s]? := by
  have same := h.scope_eq hs
  have hs' : s < r'.scopes.length := hs.trans_le h.scopes
  rw [scope, scope, List.getElem?_eq_getElem hs, List.getElem?_eq_getElem hs'] at same
  rw [List.getElem?_eq_getElem hs, List.getElem?_eq_getElem hs']
  exact congrArg some same

/-- The scopes around a scope stay, because they are older. -/
theorem enclosing_eq (hs : s < r.scopes.length) : r'.enclosing s = r.enclosing s := by
  -- the scope around a scope has a smaller number, so it was there too
  induction s using Nat.strongRecOn with
  | ind s ih =>
    rw [enclosing, enclosing, h.getElem?_scopes hs]
    cases r.scopes[s]? with
    | none => rfl
    | some sc =>
      cases hp : sc.parent with
      | none => simp [hp]
      | some p =>
        by_cases hlt : p < s
        · simp [hp, hlt, ih p hlt (hlt.trans hs)]
        · simp [hp, hlt]

/-- The scope of a group that was there. -/
theorem scopeOf_eq {id : Nat} (hid : id < r.arena.length) : r'.scopeOf id = r.scopeOf id := by
  obtain ⟨new, hnew, le⟩ := h.attached
  have absent : new.lookup id = none := List.lookup_eq_none_iff.2 fun e he => by
    have := (le e he).1
    simpa using (show id ≠ e.1 by omega)
  rw [scopeOf, scopeOf, hnew, List.lookup_append, absent, Option.none_or, object, object,
    h.objects id hid]

/-! ## References -/

theorem select_eq (hs : s < r.scopes.length) ( localOnly : Bool) (sel : Selector) :
    View.select r' s localOnly sel = View.select r s localOnly sel := by
  cases sel with
  | label name => simp only [View.select, resolveLabel, h.scope_eq hs, h.enclosing_eq hs]
  | ordinal cls n fromLast => simp only [View.select, resolveOrdinal, h.scope_eq hs]

/-- What a reference means is found in scopes that were there. -/
theorem follow_eq (sound : r.IsSound) (hs : s < r.scopes.length) (ref : ObjectRef) :
    View.follow r' s ref = View.follow r s ref := by
  induction ref with
  | previous pos => simp only [View.follow, previous, h.scope_eq hs]
  | select pos sel => simp only [View.follow, h.select_eq hs]
  | member pos group memberPos sel ih =>
    rw [View.follow, View.follow, ih]
    cases found : View.follow r s group with
    | error e => rfl
    | ok id =>
      obtain ⟨o, ho, -⟩ := sound.exists_finished_of_follow found
      -- the group was there, and so its scope is the one that it had
      rw [ok_bind, ok_bind, h.scopeOf_eq (List.getElem?_eq_some_iff.1 ho).1]
      cases inner : r.scopeOf id with
      | error e => rfl
      | ok i =>
        rw [ok_bind, ok_bind, h.select_eq (sound.nested.scope_lt (mem_attached_of_scopeOf inner))]

omit h

/-- Two views of a scope that was there, before and after. -/
theorem seesAlike {v w : View K} (h : Frame v.registry.scopes.length v.registry w.registry)
    (sound : v.registry.IsSound) (hs : v.scope < v.registry.scopes.length)
    (scope : w.scope = v.scope) (colors : w.colors = v.colors) (units : w.units = v.units) :
    v.SeesAlike w where
  object ref := by
    rw [View.object, View.object, View.objectId, View.objectId, scope, h.follow_eq sound hs]
    cases found : locating ref.pos (View.follow v.registry v.scope ref) with
    | error e => rfl
    | ok id =>
      obtain ⟨o, ho, -⟩ :=
        Ensures.locating (fun _ => sound.exists_finished_of_follow) ref.pos id found
      rw [ok_bind, ok_bind, Registry.object, Registry.object,
        h.objects id (List.getElem?_eq_some_iff.1 ho).1]
  place label := by rw [resolvePlace, resolvePlace, scope, h.enclosing_eq hs]
  lookup name := by rw [lookupVariable, lookupVariable, scope, h.scope_eq hs]
  colors := colors
  units := units

end Registry.Frame

/-! ## Drawings -/

namespace Drawing

variable [Arith K] {t : Resources K} {d : Drawing K}

/-- Drawing the body of a group leaves everything alone that was there. -/
theorem body_frame {origin : Point K} {body : List Statement} {inside : Drawing K}
    (hr : run t (d.enter origin) body = (.ok (), inside)) :
    Registry.Frame d.registry.scopes.length d.registry inside.registry := by
  have drawn := (run_evolves (t := t) (d := d.enter origin) body
    (d.registry.lt_openScope d.scope)).registry.frame
  rw [hr] at drawn
  exact drawn.openScope _

/-- An object that is being drafted is not seen from its own clauses. -/
theorem Reachable.create_seesAlike (h : d.Reachable t) (cls : ObjectClass) :
    (d.view t).SeesAlike ((d.create cls).2.view t) :=
  Registry.Frame.seesAlike (v := d.view t) (.append _ _ _) h.isSound h.scope_lt rfl rfl rfl

/-- Neither is what has been drawn in the body of a group from the clauses of the group. -/
theorem Reachable.body_seesAlike (h : d.Reachable t) {origin : Point K} {body : List Statement}
    {inside : Drawing K} (hr : DiagramScript.run t (d.enter origin) body = (.ok (), inside)) :
    (d.view t).SeesAlike (((inside.leave d).create .container).2.view t) :=
  Registry.Frame.seesAlike (v := d.view t) ((body_frame hr).trans (.append _ _ _)) h.isSound
    h.scope_lt rfl rfl rfl

end Drawing

end DiagramScript
