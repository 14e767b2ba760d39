import DiagramScript.Proofs.Enclosing
import DiagramScript.Proofs.ObjectForest
import DiagramScript.Proofs.RunCounts

/-!
# How a group takes its members along

A group that succeeds adds one object, and what its body has drawn follows it to its place.  Nothing
else is touched.

* `Evolves.isOrdered`, `Drawing.Reachable.isOrdered` — members are numbered before their group.
* `Drawing.exists_of_declare_eq_ok` — what a declaration adds.
* `Drawing.Wraps` — a drawing with one more group than another, and `Drawing.exists_wraps`, which
  makes it.
-/

namespace DiagramScript

variable {K : Type}

/-! ## Order -/

namespace Registry

/-- Members are numbered before their group, also after everything that statements do. -/
theorem Evolves.isOrdered [Arith K] {s : Nat} {r r' : Registry K} (h : Evolves s r r')
    (hs : s < r.scopes.length) (hc : r.Counted) (ho : r.shape.IsOrdered) :
    r'.shape.IsOrdered := by
  have childless : ∀ {r : Registry K} {o : Object K}, o.children = [] → r.shape.IsOrdered →
      (r.append o).shape.IsOrdered := by
    intro r o hn ho p c hm
    obtain ⟨st, hst, hc⟩ := mem_members.1 hm
    rcases standing?_append_cases hst with old | ⟨-, rfl⟩
    · exact ho p c (mem_members.2 ⟨st, old, hc⟩)
    · exact absurd (hn ▸ hc : c ∈ []) List.not_mem_nil
  induction h with
  | refl => exact ho
  | trans h _ ih ih' => exact ih' (hs.trans_le h.frame.scopes) (h.counted hc) (ih hs hc ho)
  | assign => exact ho
  | place => exact ho
  | create => exact childless rfl ho
  | declare new => exact childless (congrArg Standing.children new) ho
  | body _ ih => exact ih (lt_openScope _ _) (hc.openScope _) ho
  | @group s r r' r'' o h new _ groups ih =>
    have inside := h.counted (hc.openScope s)
    have ordered := ih (r.lt_openScope s) (hc.openScope s) ho
    intro p c hm
    obtain ⟨st, hst, hc⟩ := mem_members.1 hm
    rw [groups.standing] at hst
    obtain ⟨old, hold, rfl⟩ := Option.map_eq_some_iff.1 hst
    dsimp only at hc
    split_ifs at hc with hp
    · -- the new group: its members are those of the scope inside, which are older
      rcases mem_members_enroll hc with hc | ⟨-, hi⟩
      · exact hp ▸ inside.lt hc
      · exact absurd hi (Nat.ne_of_gt hs)
    · refine childless (congrArg Standing.children new) ordered p c ?_
      exact mem_members.2 ⟨old, hold, hc⟩

end Registry

theorem Drawing.Reachable.isOrdered [Arith K] {t : Resources K} {d : Drawing K}
    (h : d.Reachable t) : d.registry.shape.IsOrdered := by
  induction h with
  | initial => exact fun _ _ hc => nomatch hc
  | execute h s ih =>
    exact (execute_evolves s h.scope_lt).registry.isOrdered h.scope_lt h.counted ih
  | enter _ _ ih => exact ih

/-! ## What statements add -/

namespace Object

variable [Arith K] (o : Object K) (dx dy : K) (serial group : Nat) (roots : List Nat)

/-- Being taken along by a group changes neither the class of an object nor what it is drawn with or
holds. -/
@[simp] theorem enclosed_cls : (o.enclosed dx dy serial group roots).cls = o.cls := by
  unfold enclosed carry
  split_ifs <;> rfl

@[simp] theorem enclosed_label : (o.enclosed dx dy serial group roots).label = o.label := by
  unfold enclosed carry
  split_ifs <;> rfl

@[simp] theorem enclosed_style : (o.enclosed dx dy serial group roots).style = o.style := by
  unfold enclosed carry
  split_ifs <;> rfl

@[simp] theorem enclosed_children :
    (o.enclosed dx dy serial group roots).children = o.children := by
  unfold enclosed carry
  split_ifs <;> rfl

end Object

namespace Drawing

variable [Arith K] {t : Resources K} {d : Drawing K}

/-- An object that is finished under its label, and the cursor behind it. -/
theorem finish_eq_ok {e d' : Drawing K} {draft : Draft K} {exit : Option Direction}
    {label : Option String} (h : e.finish draft exit label = (.ok (), d')) {o : Object K}
    (ho : e.registry.arena[draft.object.id]? = some o) :
    d'.registry = e.registry.conclude e.scope draft.object.id o.cls label ∧
      d'.cursor = e.cursor.advance draft exit ∧ d'.scope = e.scope := by
  obtain ⟨l, -, given, scope, registry⟩ := finish_concludes ho exit label
  rw [h] at given scope registry
  refine ⟨given rfl ▸ registry, ?_, scope⟩
  unfold finish at h
  split at h
  · cases h
  · split at h
    · cases h
      rfl
    · split at h
      · cases h
      · cases h
        rfl

omit [Arith K] in
/-- The object that is finished. -/
theorem getElem?_conclude_self {r : Registry K} {id : Nat} {o : Object K}
    (h : r.arena[id]? = some o) (s : Nat) (label : Option String) :
    ∃ n, (r.conclude s id o.cls label).arena[id]? =
      some { o with ordinal := n, finalized := true, label := label.or o.label } := by
  refine ⟨((r.scope s).ofClass o.cls).length + 1, ?_⟩
  rw [Registry.conclude, Registry.modifyScope, Registry.modifyObject, List.getElem?_modify_eq, h]
  rfl

omit [Arith K] in
/-- All other objects. -/
theorem getElem?_conclude_of_ne {id i : Nat} (hi : i ≠ id) (r : Registry K) (s : Nat)
    (cls : ObjectClass) (label : Option String) :
    (r.conclude s id cls label).arena[i]? = r.arena[i]? := by
  rw [Registry.conclude, Registry.modifyScope, Registry.modifyObject,
    List.getElem?_modify_ne _ _ hi.symm]

/-- A declaration that succeeds adds the object that was drafted. -/
theorem exists_of_declare_eq_ok {cls : ObjectClass} {label : Option String}
    {attributes : List Attribute} {d' : Drawing K}
    (h : d.declare t cls label attributes = (.ok (), d')) :
    ∃ draft exit n, (d.create cls).2.draft t (d.create cls).1 cls attributes = .ok (draft, exit) ∧
      d'.cursor = d.cursor.advance draft exit ∧
      (∀ i < d.registry.arena.length, d'.registry.arena[i]? = d.registry.arena[i]?) ∧
      d'.registry.arena[d.registry.arena.length]? = some { draft.object.stamp d.serial with
        ordinal := n, finalized := true, label := label } := by
  unfold declare at h
  dsimp only at h
  cases hd : (d.create cls).2.draft t (d.create cls).1 cls attributes with
  | error e =>
    rw [hd] at h
    cases h
  | ok p =>
    obtain ⟨draft, exit⟩ := p
    rw [hd] at h
    have standing : draft.object.standing = { id := d.registry.arena.length, cls := cls } :=
      draft_standing _ _ _ _ hd
    have number : draft.object.id = d.registry.arena.length := congrArg Standing.id standing
    have latest := getElem?_store_create number cls
    obtain ⟨registry, cursor, -⟩ := finish_eq_ok h latest
    obtain ⟨n, finished⟩ := getElem?_conclude_self latest d.scope label
    refine ⟨draft, exit, n, rfl, cursor, fun i hi => ?_, ?_⟩
    · rw [registry, getElem?_conclude_of_ne (number ▸ Nat.ne_of_lt hi),
        getElem?_store_of_lt number hi]
    · rw [registry, ← number]
      refine finished.trans ?_
      rw [show (draft.object.stamp d.serial).label = none from congrArg Standing.label standing,
        Option.or_none]

/-- A drawing with one more group than another, which has been put around the objects from some
number on and has taken them along to its place. -/
structure Wraps (after d' : Drawing K) (first : Nat) (group : Object K) (dx dy : K)
    (serial : Nat) : Prop where
  /-- The group is the latest object. -/
  found : d'.registry.arena[after.registry.arena.length]? = some group
  /-- There is no other new one. -/
  count : d'.registry.arena.length = after.registry.arena.length + 1
  /-- Older objects stay. -/
  older : ∀ i < first, d'.registry.arena[i]? = after.registry.arena[i]?
  /-- What is in the group has moved, and the members have the group as parent. -/
  moved : ∀ i, first ≤ i → i < after.registry.arena.length → d'.registry.arena[i]? =
    (after.registry.arena[i]?).map
      (Object.enclosed dx dy serial after.registry.arena.length group.children)
  /-- Members are numbered before the groups that hold them. -/
  inside : ∀ i o, first ≤ i → after.registry.arena[i]? = some o →
    ∀ c ∈ o.children, first ≤ c ∧ c < i
  /-- So are those of the group itself. -/
  members : ∀ c ∈ group.children, first ≤ c ∧ c < after.registry.arena.length

/-- A group that succeeds, with all that has been drawn in its body. -/
theorem exists_wraps (ho : d.registry.shape.IsOrdered) {origin : Point K} {body : List Statement}
    {inside d' : Drawing K} {label : Option String} {attributes : List Attribute}
    (hr : run t (d.enter origin) body = (.ok (), inside))
    (h : (inside.leave d).group t d.registry.scopes.length origin label attributes =
      (.ok (), d')) :
    ∃ full placed n, ((inside.leave d).create .container).2.groupDraft t
        inside.registry.arena.length d.registry.scopes.length origin attributes =
          .ok (full, placed) ∧
      d'.cursor = d.cursor.advance placed none ∧
      (inside.leave d).Wraps d' d.registry.arena.length
        { placed.object.stamp inside.serial with
          children := (inside.registry.scope d.registry.scopes.length).members
          ordinal := n, finalized := true, label := label }
        (placed.object.center.x - full.object.center.x)
        (placed.object.center.y - full.object.center.y) (inside.serial + 1) := by
  obtain ⟨added, roots, shape, planted, members⟩ := exists_planted_of_body hr
  obtain ⟨full, placed, hd, hf⟩ := exists_of_group_eq_ok h
  rw [← Registry.length_shape] at planted
  obtain ⟨group, others⟩ := getElem?_assemble ho planted shape members hd
  rw [Registry.length_shape] at planted others
  let assembled := (inside.leave d).assemble d.registry.scopes.length full placed
  have standing : placed.object.standing =
      { id := inside.registry.arena.length, cls := .container } := groupDraft_standing _ _ _ _ _ hd
  have number : placed.object.id = inside.registry.arena.length := congrArg Standing.id standing
  have count : inside.registry.arena.length = d.registry.arena.length + added.length := by
    rw [← d.registry.length_shape, ← List.length_append, ← shape, Registry.length_shape]
    rfl
  have group : assembled.registry.arena[placed.object.id]? =
      some { placed.object.stamp inside.serial with children := roots } := by
    rw [number]
    exact group
  obtain ⟨registry, cursor, -⟩ := finish_eq_ok hf group
  obtain ⟨n, finished⟩ := getElem?_conclude_self group assembled.scope label
  have kept : ∀ i < inside.registry.arena.length,
      d'.registry.arena[i]? = assembled.registry.arena[i]? := fun i hi => by
    rw [registry, getElem?_conclude_of_ne (number ▸ Nat.ne_of_lt hi)]
  have members : (inside.registry.scope d.registry.scopes.length).members = roots := members
  refine ⟨full, placed, n, hd, ?_, ?_⟩
  · rw [cursor]
    exact congrArg (Cursor.advance · placed none) (moveMembers_cursor _ _ _)
  rw [members]
  constructor
  · rw [registry, show (inside.leave d).registry.arena.length = placed.object.id from number.symm]
    refine finished.trans ?_
    rw [show (placed.object.stamp inside.serial).label = none from
      congrArg Standing.label standing, Option.or_none]
  · exact (group_counts h).1
  · intro i hi
    rw [kept i (by omega), others i (show i < inside.registry.arena.length by omega),
      if_neg (Nat.not_le.2 hi)]
  · intro i hi hlt
    rw [kept i hlt, others i hlt, if_pos hi]
    rfl
  · intro i o hi ho
    rw [← Registry.length_shape] at planted hi ⊢
    exact (planted.getElem?_arena shape hi ho).2
  · intro c hc
    have := planted.mem_roots c hc
    exact ⟨this.1, count ▸ this.2⟩

end Drawing

end DiagramScript
