import DiagramScript.Proofs.Growth
import DiagramScript.Proofs.RunCounts

/-!
# A group around everything

A group has what has been drawn in its body as its members, at every depth, and moves each of them
once.  In particular there may be a group around all that has been drawn so far.

* `Object.enclosed` — what becomes of the objects.
* `Registry.descendants_latest` — a new group holds exactly what its body has drawn.
* `Drawing.getElem?_assemble` — what becomes of all objects when a group has got its members.
* `Drawing.Encloses` — a drawing in a group around everything, and `Drawing.group_all`, which makes
  it.
-/

namespace DiagramScript

variable {K : Type} [Arith K]

/-! ## Objects -/

/-- What moving the members of a group does to each of them. -/
def Object.carry (dx dy : K) (serial : Nat) (o : Object K) : Object K :=
  if Arith.isZero dx && Arith.isZero dy then o else (o.translate dx dy).stamp serial

/-- An object around which a group has been made, which has some objects as members and is then
moved. -/
def Object.enclosed (dx dy : K) (serial group : Nat) (roots : List Nat) (o : Object K) : Object K :=
  Object.carry dx dy serial { o with parent := if o.id ∈ roots then some group else o.parent }

/-! ## Registries -/

namespace Registry

variable (r : Registry K)

omit [Arith K] in
/-- Changing several objects, each once. -/
theorem getElem?_foldl_modifyObject (f : Object K → Object K) {ids : List Nat} (h : ids.Nodup)
    (i : Nat) : (ids.foldl (fun r c => r.modifyObject c f) r).arena[i]? =
      if i ∈ ids then (r.arena[i]?).map f else r.arena[i]? := by
  induction ids generalizing r with
  | nil => rfl
  | cons c ids ih =>
    rw [List.nodup_cons] at h
    rw [List.foldl_cons, ih _ h.2, modifyObject, List.getElem?_modify]
    by_cases hc : c = i
    · subst hc
      simp [h.1]
    · simp [hc, Ne.symm hc]

variable {id s : Nat} {ids : List Nat}

omit [Arith K] in
/-- The members of an object know it. -/
theorem getElem?_attachScope (hid : id < r.arena.length) (hs : (r.scope s).members = ids)
    (h : ids.Nodup) {i : Nat} (hi : i ≠ id) : (r.attachScope id s).arena[i]? =
      if i ∈ ids then (r.arena[i]?).map fun o => { o with parent := some id }
      else r.arena[i]? := by
  rw [attachScope, hs, adopt, if_pos hid]
  refine (getElem?_foldl_modifyObject _ _ h i).trans ?_
  rw [modifyObject, List.getElem?_modify_ne _ _ hi.symm]

omit [Arith K] in
/-- An object gets its members. -/
theorem getElem?_attachScope_self (hid : id < r.arena.length) (hs : (r.scope s).members = ids)
    (h : ids.Nodup) (hn : id ∉ ids) : (r.attachScope id s).arena[id]? =
      (r.arena[id]?).map fun o => { o with children := ids } := by
  rw [attachScope, hs, adopt, if_pos hid]
  refine (getElem?_foldl_modifyObject _ _ h id).trans ?_
  rw [if_neg hn, modifyObject, List.getElem?_modify_eq]
  rfl

end Registry

/-! ## New groups -/

theorem Shape.IsOrdered.append {sh added : Shape} {roots : List Nat} (ho : sh.IsOrdered)
    (h : Planted sh.length added roots) : (sh ++ added).IsOrdered := by
  intro id c hc
  rcases Nat.lt_or_ge id sh.length with hlt | hge
  · refine ho id c ?_
    rwa [members, List.getElem?_append_left hlt] at hc
  · rw [members, List.getElem?_append_right hge] at hc
    cases he : added[id - sh.length]? with
    | none =>
      rw [he] at hc
      cases hc
    | some e =>
      rw [he] at hc
      have := (h.getElem?_eq_some he).2 c hc
      omega

omit [Arith K] in
/-- A new group holds exactly what its body has drawn. -/
theorem Registry.descendants_latest {r : Registry K} {before added : Shape} {roots : List Nat}
    {id : Nat} (ho : before.IsOrdered) (h : Planted before.length added roots)
    (hr : r.shape = before ++ added ++ [(id, roots)]) (hid : id = before.length + added.length) :
    (r.descendants id).Perm (List.range' before.length added.length) := by
  have ordered : r.shape.IsOrdered := by
    have whole := ho.append h.group
    rwa [← hid, ← List.append_assoc, ← hr] at whole
  have place : (before ++ added).length = id := List.length_append.trans hid.symm
  have members : r.shape.members id = roots := by
    rw [Shape.members, hr, ← place, List.getElem?_concat_length]
    rfl
  have deep : id ≤ r.arena.length := by
    rw [← length_shape, hr, List.length_append, place]
    exact Nat.le_add_right ..
  rw [descendants, descendantsWithin_eq_below, Shape.below_of_le ordered deep,
    Shape.below_self ordered, members]
  refine h.perm ordered fun k hk => ?_
  rw [hr, List.getElem?_append_left (by omega), List.getElem?_append_right (Nat.le_add_right ..),
    Nat.add_sub_cancel_left]

omit [Arith K] in
/-- An object that has been added with some others has only such members, numbered before it. -/
theorem Planted.getElem?_arena {r : Registry K} {before added : Shape} {roots : List Nat}
    (h : Planted before.length added roots) (hr : r.shape = before ++ added) {i : Nat}
    {o : Object K} (hi : before.length ≤ i) (ho : r.arena[i]? = some o) :
    o.id = i ∧ ∀ c ∈ o.children, before.length ≤ c ∧ c < i := by
  have entry : added[i - before.length]? = some o.entry := by
    rw [← List.getElem?_append_right hi, ← hr, Registry.shape, List.getElem?_map, ho]
    rfl
  obtain ⟨number, members⟩ := h.getElem?_eq_some entry
  have place : before.length + (i - before.length) = i := by omega
  rw [place] at number members
  exact ⟨number, members⟩

/-! ## Drawings -/

/-- A drawing that has one more object than another, a group around all the others, which have been
moved with it. -/
structure Drawing.Encloses (d' d : Drawing K) (container : Object K) (roots : List Nat) (dx dy : K)
    (serial : Nat) : Prop where
  /-- Nothing is printed. -/
  messages : d'.messages = d.messages
  /-- The group is the only member of the scope. -/
  members : (d'.registry.scope d.scope).members = [d.registry.arena.length]
  /-- It holds the roots. -/
  shape : d'.registry.shape = d.registry.shape ++ [(d.registry.arena.length, roots)]
  /-- It is the latest object. -/
  found : d'.registry.arena[d.registry.arena.length]? = some container
  /-- Its number is its place. -/
  number : container.id = d.registry.arena.length
  /-- It is a group. -/
  cls : container.cls = .container
  /-- It stands at the top level. -/
  parent : container.parent = none
  /-- The others have been moved, and the roots have the group as parent. -/
  moved : ∀ i < d.registry.arena.length, d'.registry.arena[i]? = (d.registry.arena[i]?).map
    (Object.enclosed dx dy serial d.registry.arena.length roots)

namespace Drawing

variable {d : Drawing K}

theorem moveMembers_messages (id : Nat) (dx dy : K) :
    (d.moveMembers id dx dy).messages = d.messages := by
  unfold moveMembers
  split_ifs <;> rfl

/-- Finishing an object without a label changes nothing but the object. -/
theorem finish_none {draft : Draft K} (h : draft.object.id < d.registry.arena.length)
    (exit : Option Direction) : ∃ count e, d.finish draft exit none = (.ok (), e) ∧
      e.messages = d.messages ∧ e.registry.arena = d.registry.arena.modify draft.object.id
        fun o => { o with ordinal := count, finalized := true } := by
  have found : d.registry.object draft.object.id = .ok d.registry.arena[draft.object.id] := by
    rw [Registry.object, List.getElem?_eq_getElem h]
  unfold finish
  rw [Registry.finalize, found, ok_bind]
  exact ⟨_, _, rfl, rfl, rfl⟩

variable {t : Resources K}

/-- The objects before one that has been written down. -/
theorem getElem?_store_of_lt {cls : ObjectClass} {draft : Draft K}
    (h : draft.object.id = d.registry.arena.length) {i : Nat} (hi : i < d.registry.arena.length) :
    ((d.create cls).2.store draft).registry.arena[i]? = d.registry.arena[i]? := by
  rw [store, Registry.modifyObject, h, List.getElem?_modify_ne _ _ (Nat.ne_of_gt hi), create,
    Registry.create, List.getElem?_append_left hi]

/-- Moving what a new group holds. -/
theorem getElem?_moveMembers_latest {before added : Shape} {roots : List Nat} {id : Nat}
    (ho : before.IsOrdered) (h : Planted before.length added roots)
    (hd : d.registry.shape = before ++ added ++ [(id, roots)])
    (hid : id = before.length + added.length) (dx dy : K) (i : Nat) :
    (d.moveMembers id dx dy).registry.arena[i]? =
      if before.length ≤ i ∧ i < id then (d.registry.arena[i]?).map (Object.carry dx dy d.serial)
      else d.registry.arena[i]? := by
  have inside := Registry.descendants_latest ho h hd hid
  have held : ∀ j, j ∈ d.registry.descendants id ↔ before.length ≤ j ∧ j < id := fun j => by
    rw [inside.mem_iff, List.mem_range'_1, hid]
  unfold moveMembers Object.carry
  by_cases hz : (Arith.isZero dx && Arith.isZero dy) = true
  · simp [hz]
  · simp only [hz, Bool.false_eq_true, if_false]
    have once : (d.registry.descendants id).Nodup := inside.nodup_iff.2 List.nodup_range'
    refine (Registry.getElem?_foldl_modifyObject _ _ once i).trans ?_
    simp only [held]

/-- A group that has been written down has its members, and these have followed it. -/
theorem getElem?_assemble {before added : Shape} {roots : List Nat} {inner : Nat}
    {origin : Point K} {attributes : List Attribute} {full placed : Draft K}
    (ho : before.IsOrdered) (h : Planted before.length added roots)
    (shape : d.registry.shape = before ++ added)
    (members : (d.registry.scope inner).members = roots)
    (hd : (d.create .container).2.groupDraft t (d.create .container).1 inner origin attributes =
      .ok (full, placed)) :
    (d.assemble inner full placed).registry.arena[d.registry.arena.length]? =
        some { placed.object.stamp d.serial with children := roots } ∧
      ∀ i < d.registry.arena.length, (d.assemble inner full placed).registry.arena[i]? =
        if before.length ≤ i then (d.registry.arena[i]?).map (Object.enclosed
          (placed.object.center.x - full.object.center.x)
          (placed.object.center.y - full.object.center.y) (d.serial + 1) d.registry.arena.length
          roots)
        else d.registry.arena[i]? := by
  let N := d.registry.arena.length
  let stored := (d.create .container).2.store placed
  let attached : Drawing K := { stored with registry := stored.registry.attachScope N inner }
  have number : placed.object.id = N := congrArg Standing.id (groupDraft_standing _ _ _ _ _ hd)
  have count : N = before.length + added.length := by
    rw [← List.length_append, ← shape, Registry.length_shape]
  have whole : attached.registry.shape = before ++ added ++ [(N, roots)] := by
    rw [show attached.registry.shape = _ from attached_shape hd, members, shape]
  have latest : stored.registry.arena[N]? = some (placed.object.stamp d.serial) :=
    number ▸ getElem?_store_create number .container
  have holds : N < stored.registry.arena.length := (List.getElem?_eq_some_iff.1 latest).1
  have unheld : N ∉ roots := fun hm => by
    have := (h.mem_roots N hm).2
    omega
  have moves := getElem?_moveMembers_latest (d := attached) ho h whole count
    (placed.object.center.x - full.object.center.x) (placed.object.center.y - full.object.center.y)
  constructor
  · have self :=
      Registry.getElem?_attachScope_self stored.registry holds members h.nodup_roots unheld
    refine (moves N).trans ?_
    rw [if_neg fun h => Nat.lt_irrefl _ h.2, show attached.registry.arena[N]? = _ from self, latest]
    rfl
  · intro i hlt
    have owned : attached.registry.arena[i]? = _ :=
      Registry.getElem?_attachScope stored.registry holds members h.nodup_roots (Nat.ne_of_lt hlt)
    rw [getElem?_store_of_lt number hlt] at owned
    refine (moves i).trans ?_
    rw [owned]
    by_cases hi : before.length ≤ i
    · rw [if_pos ⟨hi, hlt⟩, if_pos hi]
      cases hx : d.registry.arena[i]? with
      | none => simp
      | some x =>
        obtain ⟨rfl, -⟩ := h.getElem?_arena shape hi hx
        by_cases hm : x.id ∈ roots
        · simp [hm, Object.enclosed, attached, stored, store, create, N]
        · simp [hm, Object.enclosed, attached, stored, store, create]
    · rw [if_neg fun h => hi h.1, if_neg fun hm => hi (h.mem_roots i hm).1, if_neg hi]

/-- A group around all that has been drawn so far. -/
theorem group_all {inner : Nat} {origin : Point K} {roots : List Nat} {full placed : Draft K}
    (hd : (d.create .container).2.groupDraft t (d.create .container).1 inner origin [] =
      .ok (full, placed))
    (hc : placed.object.cls = .container) (hn : placed.object.parent = none)
    (hp : Planted 0 d.registry.shape roots) (hin : (d.registry.scope inner).members = roots)
    (hs : (d.registry.scope d.scope).members = []) (hlt : d.scope < d.registry.scopes.length) :
    ∃ d' container dx dy serial, d.group t inner origin none [] = (.ok (), d') ∧
      d'.Encloses d container roots dx dy serial := by
  let N := d.registry.arena.length
  let moved := d.assemble inner full placed
  have number : placed.object.id = N := congrArg Standing.id (groupDraft_standing _ _ _ _ _ hd)
  have steps : d.group t inner origin none [] = moved.finish placed none none := by
    unfold group
    dsimp only
    rw [hd]
    rfl
  have stands : placed.object.id < moved.registry.arena.length := by
    rw [(d.assemble_counts inner full placed).1, number]
    exact Nat.lt_succ_self _
  obtain ⟨n, d', hf, messages, arena⟩ := moved.finish_none stands none
  have grown := group_grows (d := { d with registry := { d.registry with arena := [] } })
    (steps.trans hf) rfl hp hin rfl hlt (Nat.le_refl _) fun _ _ => rfl
  -- nothing has been drawn before what is in the group
  have empty : Shape.IsOrdered [] := fun _ _ hc => absurd hc List.not_mem_nil
  have planted : Planted ([] : Shape).length d.registry.shape roots := hp
  obtain ⟨latest, others⟩ := getElem?_assemble empty planted rfl hin hd
  refine ⟨d', { placed.object.stamp d.serial with
    children := roots, ordinal := n, finalized := true },
    placed.object.center.x - full.object.center.x, placed.object.center.y - full.object.center.y,
    d.serial + 1, steps.trans hf, ?_⟩
  constructor
  · rw [messages]
    exact moveMembers_messages ..
  · refine grown.here.trans ?_
    rw [show (Registry.scope { d.registry with arena := [] } d.scope).members = [] from hs,
      List.nil_append]
  · exact grown.shape
  · rw [arena, number, List.getElem?_modify_eq, latest]
    rfl
  · exact number
  · exact hc
  · exact hn
  · intro i hi
    rw [arena, number, List.getElem?_modify_ne _ _ (Nat.ne_of_gt hi)]
    exact (others i hi).trans (if_pos (Nat.zero_le i))

end Drawing

end DiagramScript
