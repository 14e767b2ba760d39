import DiagramScript.Proofs.ObjectCounts

/-!
# Labels of objects

A label names an object or a point of a scope.  The scope keeps what its labels name, and an object
keeps its label.

* `Registry.Labelled` — the labels of scopes and those of their objects belong together;
  `Evolves.labelled` says that this stays so.
* `Drawing.Reachable.labelled` — this is so in every drawing that a run can come to.
-/

namespace DiagramScript

variable {K : Type}

namespace Scope

theorem isTaken_eq_false {sc : Scope K} {label : String} : sc.isTaken label = false ↔
    sc.labels.lookup label = none ∧ sc.places.lookup label = none := by
  simp [isTaken]

theorem lookup_labels_enroll (sc : Scope K) (id : Nat) (cls : ObjectClass) (label : Option String)
    (l : String) : (sc.enroll id cls label).labels.lookup l =
      (sc.labels.lookup l).or (if label = some l then some id else none) := by
  rw [enroll, List.lookup_append]
  cases label with
  | none => simp
  | some name =>
    by_cases h : name = l
    · simp [h]
    · have other : (l == name) = false := beq_false_of_ne (Ne.symm h)
      simp [List.lookup_cons, h, other]

end Scope

namespace Registry

/-! ## The invariant -/

/-- The labels of scopes and those of their objects belong together. -/
structure Labelled (r : Registry K) : Prop where
  /-- A label of a scope names a member with this label. -/
  object : ∀ {s l id}, (r.scope s).labels.lookup l = some id →
    id ∈ (r.scope s).members ∧ ∃ st, r.standing? id = some st ∧ st.label = some l
  /-- The label of a member names it in its scope. -/
  known : ∀ {s l id st}, id ∈ (r.scope s).members → r.standing? id = some st →
    st.label = some l → (r.scope s).labels.lookup l = some id
  /-- A label names an object or a point. -/
  apart : ∀ {s l id}, (r.scope s).labels.lookup l = some id → (r.scope s).places.lookup l = none

namespace Labelled

variable {r r' : Registry K}

/-- Labels do not depend on what else is known of objects and scopes. -/
theorem of_same (h : r.Labelled) (hc : r.Counted)
    (members : ∀ s, (r'.scope s).members = (r.scope s).members)
    (labels : ∀ s, (r'.scope s).labels = (r.scope s).labels)
    (places : ∀ s, (r'.scope s).places = (r.scope s).places)
    (same : ∀ {i st}, r.standing? i = some st → ∃ st', r'.standing? i = some st' ∧
      st'.label = st.label) : r'.Labelled where
  object {s l id} hl := by
    obtain ⟨hm, st, hst, label⟩ := h.object (labels s ▸ hl)
    obtain ⟨st', hst', label'⟩ := same hst
    exact ⟨(members s).symm ▸ hm, st', hst', label'.trans label⟩
  known {s l id st} hm hst label := by
    rw [members] at hm
    obtain ⟨old, hold, -⟩ := hc.finished hm
    obtain ⟨st', hst', label'⟩ := same hold
    cases hst.symm.trans hst'
    rw [labels]
    exact h.known hm hold (label'.symm.trans label)
  apart {s l id} hl := by
    rw [places]
    exact h.apart (labels s ▸ hl)

theorem initial [Arith K] : (Registry.initial : Registry K).Labelled := by
  have empty : ∀ s, ((Registry.initial : Registry K).scope s).members = [] ∧
      ((Registry.initial : Registry K).scope s).labels = [] := fun s => by
    obtain ⟨bindings, hs⟩ := scope_initial (K := K) s
    rw [hs]
    exact ⟨rfl, rfl⟩
  constructor
  · intro s l id hl
    rw [(empty s).2] at hl
    cases hl
  · intro s l id st hm
    rw [(empty s).1] at hm
    cases hm
  · intro s l id hl
    rw [(empty s).2] at hl
    cases hl

theorem openScope (h : r.Labelled) (hc : r.Counted) (s : Nat) : (r.openScope s).2.Labelled := by
  refine h.of_same hc (fun i => ?_) (fun i => ?_) (fun i => ?_) fun hst => ⟨_, hst, rfl⟩
  all_goals
    obtain ⟨parent, bindings, hs⟩ := r.exists_scope_openScope s i
    rw [hs]

/-- A variable has nothing to do with labels. -/
theorem setVariable [Arith K] (h : r.Labelled) (hc : r.Counted) (s : Nat) (name : String)
    (value : K) : (r.setVariable s name value).Labelled := by
  refine h.of_same hc (fun i => ?_) (fun i => ?_) (fun i => ?_) fun hst => ⟨_, hst, rfl⟩
  all_goals
    rw [Registry.setVariable, scope_modifyScope]
    split_ifs <;> rfl

theorem append (h : r.Labelled) (hc : r.Counted) (o : Object K) : (r.append o).Labelled :=
  h.of_same hc (fun _ => rfl) (fun _ => rfl) (fun _ => rfl) fun hst =>
    ⟨_, standing?_append hst, rfl⟩

/-- A point may get a label that is free. -/
theorem place (h : r.Labelled) {s : Nat} {label : String}
    (free : (r.scope s).isTaken label = false) (p : Point K) :
    (r.modifyScope s fun sc => { sc with places := sc.places ++ [(label, p)] }).Labelled := by
  let r' := r.modifyScope s fun sc => { sc with places := sc.places ++ [(label, p)] }
  have here : ∀ i, (r'.scope i).members = (r.scope i).members ∧
      (r'.scope i).labels = (r.scope i).labels := by
    intro i
    rw [scope_modifyScope]
    split_ifs <;> exact ⟨rfl, rfl⟩
  constructor
  · intro i l id hl
    obtain ⟨hm, known⟩ := h.object ((here i).2 ▸ hl)
    exact ⟨(here i).1.symm ▸ hm, known⟩
  · intro i l id st hm hst label
    exact (here i).2.symm ▸ h.known ((here i).1 ▸ hm) hst label
  · intro i l id hl
    have old := (here i).2 ▸ hl
    rw [scope_modifyScope]
    split_ifs with hi
    · obtain ⟨rfl, -⟩ := hi
      have other : (l == label) = false := by
        refine beq_false_of_ne ?_
        rintro rfl
        rw [(Scope.isTaken_eq_false.1 free).1] at old
        cases old
      simp [List.lookup_append, h.apart old, List.lookup_cons, other]
    · exact h.apart old

/-- A finished object may have a label that is free. -/
theorem enroll (h : r.Labelled) (hc : r.Counted) {s : Nat} {o : Object K}
    (new : o.standing = r.newcomer s o.cls o.label)
    (free : ∀ l ∈ o.label, (r.scope s).isTaken l = false) : (r.enroll s o).Labelled := by
  have added := h.append hc o
  have latest := standing?_enroll new
  have here := r.scope_enroll_cases s o
  constructor
  · intro i l id hl
    rcases here i with ⟨hi, rfl⟩ | hi
    · rw [hi, Scope.lookup_labels_enroll, Option.or_eq_some_iff] at hl
      rw [hi]
      rcases hl with hl | ⟨-, hl⟩
      · obtain ⟨hm, known⟩ := added.object hl
        exact ⟨List.mem_append_left _ hm, known⟩
      · split_ifs at hl with label
        cases hl
        exact ⟨List.mem_append_right _ (List.mem_singleton_self _), _, latest, label⟩
    · rw [hi] at hl ⊢
      exact added.object hl
  · intro i l id st hm hst label
    rcases here i with ⟨hi, rfl⟩ | hi
    · rw [hi] at hm ⊢
      rw [Scope.lookup_labels_enroll, Option.or_eq_some_iff]
      rcases List.mem_append.1 hm with hm | hm
      · exact .inl (added.known hm hst label)
      · rw [List.mem_singleton.1 hm] at hst
        cases latest.symm.trans hst
        refine .inr ⟨(Scope.isTaken_eq_false.1 (free l label)).1, ?_⟩
        exact (if_pos label).trans (congrArg some (List.mem_singleton.1 hm).symm)
    · rw [hi] at hm ⊢
      exact added.known hm hst label
  · intro i l id hl
    rcases here i with ⟨hi, rfl⟩ | hi
    · rw [hi, Scope.lookup_labels_enroll, Option.or_eq_some_iff] at hl
      rw [hi]
      rcases hl with hl | ⟨-, hl⟩
      · exact added.apart hl
      · split_ifs at hl with label
        exact (Scope.isTaken_eq_false.1 (free l label)).2
    · rw [hi] at hl ⊢
      exact added.apart hl

/-- Giving an object members leaves labels alone. -/
theorem groups (h : r.Labelled) (hc : r.Counted) {first group inner : Nat}
    (hg : Groups first group inner r r') : r'.Labelled := by
  refine h.of_same hc (fun i => by rw [hg.scope_eq]) (fun i => by rw [hg.scope_eq])
    (fun i => by rw [hg.scope_eq]) fun {i st} hst => ?_
  rw [hg.standing, hst]
  exact ⟨_, rfl, rfl⟩

end Labelled

/-- Labels and objects stay together, whatever statements do. -/
theorem Evolves.labelled [Arith K] {s : Nat} {r r' : Registry K} (h : Evolves s r r')
    (hc : r.Counted) (hl : r.Labelled) : r'.Labelled := by
  induction h with
  | refl => exact hl
  | trans h _ ih ih' => exact ih' (h.counted hc) (ih hc hl)
  | assign s r name value => exact hl.setVariable hc s name value
  | place free p => exact hl.place free p
  | create s r cls direction => exact hl.append hc _
  | declare new free => exact hl.enroll hc new free
  | body _ ih => exact ih (hc.openScope _) (hl.openScope hc _)
  | group h new free groups ih =>
    have inside := h.counted (hc.openScope _)
    have new' := newcomer_self new
    exact ((ih (hc.openScope _) (hl.openScope hc _)).enroll inside new' free).groups
      (inside.enroll new') groups

end Registry

theorem Drawing.Reachable.labelled [Arith K] {t : Resources K} {d : Drawing K}
    (h : d.Reachable t) : d.registry.Labelled := by
  induction h with
  | initial => exact .initial
  | execute h s ih => exact (execute_evolves s h.scope_lt).registry.labelled h.counted ih
  | enter h _ ih => exact ih.openScope h.counted _

end DiagramScript
