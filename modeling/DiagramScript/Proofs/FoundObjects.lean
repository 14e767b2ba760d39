import DiagramScript.Proofs.LexicalScope

/-!
# Objects that references find

Whatever a reference means has been finished before: it is a member of some scope.  In particular it
is never the object that is just being drafted.

* `Registry.IsSound` — a registry whose objects are counted, labelled and nested as they should be.
* `Registry.IsSound.exists_finished_of_follow` — what a reference means.
* `View.object_finished`, `Draft.sourceOf_finished` — the objects that evaluation and copying use.
* `Drawing.Reachable.isSound`, `Drawing.Reachable.create_isSound` — registries are sound wherever a
  run comes to, also while an object is drafted.
-/

namespace DiagramScript

variable {K : Type}

namespace Registry

/-- A registry whose objects are counted, labelled and nested as they should be. -/
structure IsSound (r : Registry K) : Prop where
  /-- Members are finished objects. -/
  counted : r.Counted
  /-- Labels name members. -/
  labelled : r.Labelled
  /-- The scopes of groups hold their members. -/
  nested : r.Nested

variable {r : Registry K} {s : Nat}

/-- A finished object by its number. -/
def Finished (r : Registry K) (id : Nat) (o : Object K) : Prop :=
  r.arena[id]? = some o ∧ o.finalized = true

/-- An object that is just being drafted is not finished. -/
theorem Finished.of_create [Arith K] {cls : ObjectClass} {direction : Direction} {id : Nat}
    {o : Object K} (h : (r.create cls direction).2.Finished id o) :
    id < r.arena.length ∧ r.arena[id]? = some o := by
  obtain ⟨ho, finished⟩ := h
  rcases Nat.lt_or_ge id r.arena.length with hlt | hge
  · exact ⟨hlt, (List.getElem?_append_left hlt).symm.trans ho⟩
  · have last := (List.getElem?_eq_some_iff.1 ho).1
    rw [create, List.length_append, List.length_singleton] at last
    obtain rfl : id = r.arena.length := by omega
    cases (List.getElem?_concat_length (l := r.arena)).symm.trans ho
    cases finished

namespace IsSound

/-- A member of a scope is a finished object. -/
theorem exists_finished (h : r.IsSound) {id : Nat} (hm : id ∈ (r.scope s).members) :
    ∃ o, r.Finished id o := by
  obtain ⟨o, ho, -, finished⟩ := (h.counted.lookups s).finished id hm
  exact ⟨o, ho, finished⟩

/-- What is picked in a scope, or in those around it, is a finished object. -/
theorem exists_finished_of_select (h : r.IsSound) { localOnly : Bool} {sel : Selector} {id : Nat}
    (found : View.select r s localOnly sel = .ok id) : ∃ o, r.Finished id o := by
  cases localOnly with
  | true => exact h.exists_finished (h.labelled.mem_of_select h.counted found)
  | false =>
    cases sel with
    | label name =>
      obtain ⟨i, -, known⟩ := (h.labelled.verdict h.nested s name).resolveLabel_eq_ok.1 found
      exact h.exists_finished (h.labelled.object known).1
    | ordinal cls n fromLast =>
      exact h.exists_finished ((h.counted.lookups s).own id (.inr ⟨cls, n, fromLast, found⟩)).1

/-- What a reference means is a finished object. -/
theorem exists_finished_of_follow (h : r.IsSound) {ref : ObjectRef} {id : Nat}
    (found : View.follow r s ref = .ok id) : ∃ o, r.Finished id o := by
  cases ref with
  | previous pos =>
    rw [View.follow] at found
    exact h.exists_finished ((h.counted.lookups s).own id (.inl found)).1
  | select pos sel =>
    rw [View.follow] at found
    exact h.exists_finished_of_select found
  | member pos group memberPos sel =>
    rw [View.follow] at found
    obtain ⟨g, -, found⟩ := exists_of_bind_eq_ok found
    obtain ⟨inner, -, found⟩ := exists_of_bind_eq_ok found
    exact h.exists_finished_of_select found

end IsSound

/-- What is counted for a class is of the class. -/
theorem Counted.cls_of_resolveOrdinal (h : r.Counted) {cls : ObjectClass} {n : Int}
    {fromLast : Bool} {id : Nat} {o : Object K}
    (found : r.resolveOrdinal s cls n fromLast = .ok id) (ho : r.arena[id]? = some o) :
    o.cls = cls := by
  have picked := List.mem_of_getElem? (resolveOrdinal_eq_ok.1 found).2
  have known : id ∈ (r.scope s).ofClass cls := by
    split_ifs at picked
    · exact List.mem_reverse.1 picked
    · exact picked
  rw [h.ofClass] at known
  have ofClass := (List.mem_filter.1 known).2
  rw [isOfClass_eq cls (r.standing?_eq_some.2 ⟨o, ho, rfl⟩)] at ofClass
  exact of_decide_eq_true ofClass

/-- The object with a number, if there is one. -/
theorem object_eq_ok [Arith K] {id : Nat} {o : Object K} :
    r.object id = .ok o ↔ r.arena[id]? = some o := by
  unfold object
  cases r.arena[id]? with
  | none => simp
  | some x => simp

end Registry

/-! ## Evaluation -/

section Evaluation

variable [Arith K] {v : View K}

/-- The object that a reference means is finished. -/
theorem View.object_finished (h : v.registry.IsSound) (ref : ObjectRef) :
    Ensures (fun o => ∃ id, v.registry.Finished id o) (v.object ref) := by
  refine .bind (.locating (fun id => h.exists_finished_of_follow) _) fun id known o ho => ?_
  obtain ⟨x, hx, finished⟩ := known
  cases hx.symm.trans (Registry.object_eq_ok.1 ho)
  exact ⟨id, hx, finished⟩

/-- The object that a draft copies is finished, and of its class if none is named. -/
theorem Draft.sourceOf_finished (h : v.registry.IsSound) (d : Draft K) (ref : Option ObjectRef) :
    Ensures (fun o => (∃ id, v.registry.Finished id o) ∧ (ref = none → o.cls = d.object.cls))
      (d.sourceOf v ref) := by
  cases ref with
  | some ref =>
    intro o ho
    exact ⟨View.object_finished h ref o ho, nofun⟩
  | none =>
    unfold sourceOf
    dsimp only
    split
    · rename_i id found
      intro o ho
      have here := Registry.object_eq_ok.1 ho
      obtain ⟨-, ⟨x, hx, finished⟩, -⟩ :=
        (h.counted.lookups v.scope).own id (.inr ⟨_, _, _, found⟩)
      cases hx.symm.trans here
      exact ⟨⟨id, here, finished⟩, fun _ => h.counted.cls_of_resolveOrdinal found here⟩
    · exact .error _

end Evaluation

namespace Drawing.Reachable

variable [Arith K] {t : Resources K} {d : Drawing K}

theorem isSound (h : d.Reachable t) : d.registry.IsSound :=
  ⟨h.counted, h.labelled, h.nested.1⟩

/-- The registry stays sound in the course of a statement. -/
theorem isSound_of_evolves (h : d.Reachable t) {r : Registry K}
    (evolves : Registry.Evolves d.scope d.registry r) : r.IsSound :=
  ⟨evolves.counted h.counted, evolves.labelled h.counted h.labelled,
    evolves.nested h.scope_lt h.nested.2 h.counted h.nested.1⟩

/-- In particular it is sound while an object is drafted. -/
theorem create_isSound (h : d.Reachable t) (cls : ObjectClass) :
    (d.create cls).2.registry.IsSound :=
  h.isSound_of_evolves (.create d.scope d.registry cls d.cursor.direction)

end Drawing.Reachable

end DiagramScript
