import DiagramScript.Proofs.ObjectCounts

/-!
# How objects are nested

A group holds the members of the scope in which its body was drawn.  It knows them, they know it,
and no other object takes part in this.

* `Registry.Nested` — what objects say of their groups and members agrees with the scopes that
  groups have; `Evolves.nested` says that this stays so.
* `Drawing.Reachable.nested` — this is so in every drawing that a run can come to.
-/

namespace DiagramScript

variable {K : Type}

namespace Registry

/-- Groups and their members know each other. -/
structure Nested (r : Registry K) : Prop where
  /-- The scopes of groups are there. -/
  scope_lt : ∀ {g s}, (g, s) ∈ r.attached → s < r.scopes.length
  /-- The members of a group are those of its scope. -/
  group : ∀ {g s}, (g, s) ∈ r.attached → ∃ st, r.standing? g = some st ∧ st.cls = .container ∧
    st.children = (r.scope s).members
  /-- Members know their group. -/
  known : ∀ {g s c}, (g, s) ∈ r.attached → c ∈ (r.scope s).members →
    ∃ st, r.standing? c = some st ∧ st.parent = some g
  /-- Only members have a group. -/
  member : ∀ {c st g}, r.standing? c = some st → st.parent = some g →
    ∃ s, (g, s) ∈ r.attached ∧ c ∈ (r.scope s).members
  /-- Only groups have members. -/
  holder : ∀ {g st}, r.standing? g = some st → st.children ≠ [] → ∃ s, (g, s) ∈ r.attached
  /-- A scope is opened after the one around it. -/
  outward : ∀ {s p}, (r.scope s).parent = some p → p < s

/-- Whether no group has a scope. -/
def IsOpen (r : Registry K) (s : Nat) : Prop := ∀ g, (g, s) ∉ r.attached

theorem Frame.isOpen {s i : Nat} {r r' : Registry K} (h : Frame s r r') (hi : i < r.scopes.length)
    (ho : r.IsOpen i) : r'.IsOpen i := by
  intro g hg
  obtain ⟨new, hnew, le⟩ := h.attached
  rw [hnew] at hg
  rcases List.mem_append.1 hg with hg | hg
  · exact absurd hi (Nat.not_lt.2 (le _ hg).2)
  · exact ho g hg

namespace Nested

variable {r r' : Registry K}

theorem initial [Arith K] : (Registry.initial : Registry K).Nested where
  scope_lt h := nomatch h
  group h := nomatch h
  known h := nomatch h
  member h := nomatch h
  holder h := nomatch h
  outward {s p} h := by
    obtain ⟨bindings, hs⟩ := scope_initial (K := K) s
    rw [hs] at h
    cases h

/-- No scope is the scope of a group that is still to come. -/
theorem isOpen_of_le (h : r.Nested) {s : Nat} (hs : r.scopes.length ≤ s) : r.IsOpen s :=
  fun _ hg => absurd (h.scope_lt hg) (Nat.not_lt.2 hs)

/-- Whatever is done to a scope that is not that of a group. -/
theorem modifyScope (h : r.Nested) {s : Nat} {f : Scope K → Scope K}
    (hp : ∀ sc, (f sc).parent = sc.parent)
    (hm : r.IsOpen s ∨ ∀ sc, (f sc).members = sc.members) : (r.modifyScope s f).Nested := by
  have members : ∀ {g i}, (g, i) ∈ r.attached →
      ((r.modifyScope s f).scope i).members = (r.scope i).members := by
    intro g i hg
    rw [scope_modifyScope]
    split_ifs with hi
    · rcases hm with ho | hm
      · exact absurd (hi.1 ▸ hg) (ho g)
      · exact hm _
    · rfl
  constructor
  · intro g i hg
    exact (h.scope_lt hg).trans_le (List.length_modify ..).ge
  · intro g i hg
    rw [members hg]
    exact h.group hg
  · intro g i c hg hc
    exact h.known hg (members hg ▸ hc)
  · intro c st g hst hp
    obtain ⟨i, hg, hc⟩ := h.member hst hp
    exact ⟨i, hg, (members hg).symm ▸ hc⟩
  · exact h.holder
  · intro i p hi
    refine h.outward (s := i) ?_
    rw [scope_modifyScope] at hi
    split_ifs at hi
    · exact (hp _).symm.trans hi
    · exact hi

theorem openScope (h : r.Nested) {s : Nat} (hs : s < r.scopes.length) :
    (r.openScope s).2.Nested := by
  have same : ∀ {g i}, (g, i) ∈ r.attached → (r.openScope s).2.scope i = r.scope i := fun hg =>
    r.scope_openScope (h.scope_lt hg)
  constructor
  · intro g i hg
    exact (h.scope_lt hg).trans (r.lt_openScope s)
  · intro g i hg
    rw [same hg]
    exact h.group hg
  · intro g i c hg hc
    exact h.known hg (same hg ▸ hc)
  · intro c st g hst hp
    obtain ⟨i, hg, hc⟩ := h.member hst hp
    exact ⟨i, hg, (same hg).symm ▸ hc⟩
  · exact h.holder
  · intro i p hi
    by_cases hl : i = r.scopes.length
    · rw [hl, scope_openScope_self] at hi
      cases hi
      exact hl ▸ hs
    · rw [scope_openScope_of_ne r s hl] at hi
      exact h.outward hi

/-- An object that has been added is in no group yet. -/
theorem append (h : r.Nested) {o : Object K} (hp : o.parent = none) (hc : o.children = []) :
    (r.append o).Nested := by
  have new : ∀ {i st}, (r.append o).standing? i = some st →
      r.standing? i = some st ∨ st.parent = none ∧ st.children = [] := by
    intro i st hst
    rcases standing?_append_cases hst with hst | ⟨-, rfl⟩
    · exact .inl hst
    · exact .inr ⟨hp, hc⟩
  constructor
  · exact h.scope_lt
  · intro g i hg
    obtain ⟨st, hst, known⟩ := h.group hg
    exact ⟨st, standing?_append hst, known⟩
  · intro g i c hg hm
    obtain ⟨st, hst, known⟩ := h.known hg hm
    exact ⟨st, standing?_append hst, known⟩
  · intro c st g hst hg
    rcases new hst with hst | ⟨none, -⟩
    · exact h.member hst hg
    · rw [none] at hg
      cases hg
  · intro g st hst hg
    rcases new hst with hst | ⟨-, none⟩
    · exact h.holder hst hg
    · exact absurd none hg
  · exact h.outward

/-- A finished object is in no group yet. -/
theorem enroll (h : r.Nested) {s : Nat} (ho : r.IsOpen s) {o : Object K}
    (new : o.standing = r.newcomer s o.cls o.label) : (r.enroll s o).Nested := by
  have added := h.append (congrArg Standing.parent new) (congrArg Standing.children new)
  refine added.modifyScope (fun _ => ?_) (.inl ho)
  rfl

/-- An object gets the members of a scope that no group has. -/
theorem groups (h : r.Nested) (hr : r.Counted) {first group inner : Nat} {st : Standing}
    (hg : Groups first group inner r r') (hst : r.standing? group = some st)
    (hc : st.cls = .container) (free : ∀ s, (group, s) ∉ r.attached) (ho : r.IsOpen inner)
    (hlt : inner < r.scopes.length) : r'.Nested := by
  have same : ∀ i, r'.scope i = r.scope i := hg.scope_eq
  have other : ∀ {g s}, (g, s) ∈ r.attached → group ≠ g := fun hm e => free _ (e.symm ▸ hm)
  have attached : ∀ {e}, e ∈ r'.attached → e = (group, inner) ∨ e ∈ r.attached := fun he =>
    List.mem_cons.1 (hg.attached ▸ he)
  constructor
  · intro g s hm
    rw [hg.scopes]
    rcases attached hm with he | hm
    · cases he
      exact hlt
    · exact h.scope_lt hm
  · intro g s hm
    rw [same, hg.standing]
    rcases attached hm with he | hm
    · cases he
      rw [hst]
      exact ⟨_, rfl, hc, if_pos rfl⟩
    · obtain ⟨st', hst', hc', hch⟩ := h.group hm
      rw [hst']
      exact ⟨_, rfl, hc', (if_neg (other hm)).trans hch⟩
  · intro g s c hm hin
    rw [same] at hin
    rw [hg.standing]
    rcases attached hm with he | hm
    · cases he
      obtain ⟨st', hst', -⟩ := hr.finished hin
      rw [hst']
      exact ⟨_, rfl, if_pos hin⟩
    · obtain ⟨st', hst', hp⟩ := h.known hm hin
      have outside : c ∉ (r.scope inner).members := fun hin' => by
        have := hr.apart hin hin'
        exact ho g (this ▸ hm)
      rw [hst']
      exact ⟨_, rfl, (if_neg outside).trans hp⟩
  · intro c st' g hst' hp
    rw [hg.standing] at hst'
    obtain ⟨old, hold, rfl⟩ := Option.map_eq_some_iff.1 hst'
    dsimp only at hp
    split_ifs at hp with hin
    · cases hp
      exact ⟨inner, hg.attached ▸ List.mem_cons_self, (same inner).symm ▸ hin⟩
    · obtain ⟨s, hm, hin'⟩ := h.member hold hp
      exact ⟨s, hg.attached ▸ List.mem_cons_of_mem _ hm, (same s).symm ▸ hin'⟩
  · intro g st' hst' hne
    rw [hg.standing] at hst'
    obtain ⟨old, hold, rfl⟩ := Option.map_eq_some_iff.1 hst'
    dsimp only at hne
    split_ifs at hne with he
    · cases he
      exact ⟨inner, hg.attached ▸ List.mem_cons_self⟩
    · obtain ⟨s, hm⟩ := h.holder hold hne
      exact ⟨s, hg.attached ▸ List.mem_cons_of_mem _ hm⟩
  · intro i p hi
    rw [same] at hi
    exact h.outward hi

end Nested

/-- Groups and their members stay together, whatever the statements of a scope do that is not that
of a group. -/
theorem Evolves.nested [Arith K] {s : Nat} {r r' : Registry K} (h : Evolves s r r')
    (hs : s < r.scopes.length) (ho : r.IsOpen s) (hc : r.Counted) (hn : r.Nested) : r'.Nested := by
  induction h with
  | refl => exact hn
  | trans h h' ih ih' =>
    exact ih' (hs.trans_le h.frame.scopes) (h.frame.isOpen hs ho) (h.counted hc) (ih hs ho hc hn)
  | assign s r name value =>
    refine hn.modifyScope (fun _ => ?_) (.inr fun _ => ?_) <;> rfl
  | place _ p =>
    refine hn.modifyScope (fun _ => ?_) (.inr fun _ => ?_) <;> rfl
  | create s r cls direction => exact hn.append rfl rfl
  | declare new _ => exact hn.enroll ho new
  | @body s r r' h ih =>
    exact ih (r.lt_openScope s) (hn.isOpen_of_le (Nat.le_refl _)) (hc.openScope s) (hn.openScope hs)
  | @group s r r' r'' o h new _ groups ih =>
    have opened : (r.openScope s).2.IsOpen r.scopes.length := hn.isOpen_of_le (Nat.le_refl _)
    have inside := ih (r.lt_openScope s) opened (hc.openScope s) (hn.openScope hs)
    have outside : r'.IsOpen s := (h.frame.openScope s).isOpen hs ho
    have unheld : ∀ i, (r'.arena.length, i) ∉ r'.attached := by
      intro i hi
      obtain ⟨st, hst, -⟩ := inside.group hi
      exact absurd (r'.lt_of_standing? hst) (Nat.lt_irrefl _)
    have new' := newcomer_self new
    have enrolled := (h.counted (hc.openScope s)).enroll new'
    refine (inside.enroll outside new').groups enrolled groups (r'.standing?_enroll_self s o)
      (congrArg Standing.cls new) unheld (h.frame.isOpen (r.lt_openScope s) opened) ?_
    exact ((r.lt_openScope s).trans_le h.frame.scopes).trans_le (List.length_modify ..).ge

end Registry

/-- Groups and their members know each other wherever a run comes to.  The scope it stands in is not
that of a group yet. -/
theorem Drawing.Reachable.nested [Arith K] {t : Resources K} {d : Drawing K} (h : d.Reachable t) :
    d.registry.Nested ∧ d.registry.IsOpen d.scope := by
  induction h with
  | initial => exact ⟨.initial, fun _ => List.not_mem_nil⟩
  | @execute d h s ih =>
    have step := execute_evolves (t := t) s h.scope_lt
    refine ⟨step.registry.nested h.scope_lt ih.2 h.counted ih.1, ?_⟩
    rw [step.scope]
    exact step.registry.frame.isOpen h.scope_lt ih.2
  | @enter d h _ _ ih => exact ⟨ih.1.openScope h.scope_lt, ih.1.isOpen_of_le (Nat.le_refl _)⟩

end DiagramScript
