import DiagramScript.Proofs.ClauseEffects
import DiagramScript.Proofs.Forest
import DiagramScript.Proofs.PlacedDrafts
import DiagramScript.Proofs.RunSteps

/-!
# How a drawing grows

Statements add objects to a drawing, each with all that its groups hold before it, and never touch
the members of the objects that are there already.

* `Draft.applyAll_keeps` — no clause changes the standing of an object, such as its number or its
  members.
* `Drawing.Grows` — a drawing with more trees of objects, and their roots in its scope.
* `run_grows` — running statements that succeed.
-/

namespace DiagramScript

variable {K : Type}

/-! ## Drafts -/

namespace Draft

/-- Whether a draft is of the same object as another, drawn differently at most. -/
def Keeps (d d' : Draft K) : Prop := d'.object.standing = d.object.standing

variable [Arith K] (d : Draft K) (v : View K)

/-- No clause changes the standing of an object. -/
theorem Effect.keeps {v : View K} {d d' : Draft K} {c : Clause} (h : d.Effect v c d') :
    d.Keeps d' := by
  cases h with
  | @size what value reference x usual given =>
    obtain ⟨_, _, _, _, _, resized⟩ := d.exists_resize_eq what x
    rw [resized]
    rfl
  | flag what => cases what <;> rfl
  | _ => rfl

theorem applyAll_keeps (as : List Attribute) : Ensures d.Keeps (Draft.applyAll v d as) :=
  applyAll_induct v d (P := fun _ => d.Keeps) rfl
    (fun _ _ _ _ keeps _ effect => effect.keeps.trans keeps) as

theorem begin_standing (id : Nat) (cls : ObjectClass) (direction : Direction) :
    Ensures (fun d : Draft K => d.object.standing = { id := id, cls := cls })
      (Draft.begin v id cls direction) :=
  .andThen fun _ => .andThen fun _ => .andThen fun _ => .andThen fun _ =>
    .ite (.andThen fun _ => .ok rfl) (.ok rfl)

end Draft

/-! ## Registries -/

namespace Registry

variable (r : Registry K)

/-- Changing an object otherwise than in its number and its members. -/
theorem shape_modifyObject {id : Nat} {f : Object K → Object K}
    (h : ∀ o, r.arena[id]? = some o → (f o).entry = o.entry) :
    (r.modifyObject id f).shape = r.shape := by
  refine List.ext_getElem? fun i => ?_
  rw [shape, shape, List.getElem?_map, List.getElem?_map, modifyObject, List.getElem?_modify]
  by_cases hi : id = i
  · subst hi
    cases ho : r.arena[id]? with
    | none => rfl
    | some o => simp [h o ho]
  · simp [hi]

theorem shape_foldl {f : Registry K → Nat → Registry K} (h : ∀ r c, (f r c).shape = r.shape)
    (ids : List Nat) : (ids.foldl f r).shape = r.shape := by
  induction ids generalizing r with
  | nil => rfl
  | cons c ids ih => rw [List.foldl_cons, ih, h]

/-- The latest object gets members. -/
theorem shape_adopt {before : Shape} {id : Nat} (h : r.shape = before ++ [(id, [])])
    (hid : id = before.length) (children : List Nat) :
    (r.adopt id children).shape = before ++ [(id, children)] := by
  have hlt : id < r.arena.length := by
    rw [← r.length_shape, h, List.length_append, List.length_singleton]
    omega
  have parents : ∀ (r : Registry K) (c : Nat),
      (r.modifyObject c fun o => { o with parent := some id }).shape = r.shape := fun r c =>
    r.shape_modifyObject fun o _ => rfl
  rw [adopt, if_pos hlt]
  refine (shape_foldl _ parents children).trans ?_
  refine List.ext_getElem? fun i => ?_
  have old : r.shape[i]? = (before ++ [(id, [])])[i]? := by rw [h]
  rw [shape, List.getElem?_map] at old
  rw [shape, List.getElem?_map, modifyObject]
  by_cases hi : id = i
  · subst hi
    rw [hid, List.getElem?_concat_length] at old ⊢
    obtain ⟨o, ho, entry⟩ := Option.map_eq_some_iff.1 old
    rw [List.getElem?_modify_eq, ho]
    exact congrArg (fun e => some (e.1, children)) entry
  · rw [List.getElem?_modify_ne _ _ hi, old]
    rcases Nat.lt_or_ge i before.length with hb | hb
    · rw [List.getElem?_append_left hb, List.getElem?_append_left hb]
    · rw [List.getElem?_eq_none (by simp; omega), List.getElem?_eq_none (by simp; omega)]

/-- Changing a scope otherwise than in its members. -/
theorem members_modifyScope {f : Scope K → Scope K} (h : ∀ sc, (f sc).members = sc.members)
    (s i : Nat) : ((r.modifyScope s f).scope i).members = (r.scope i).members := by
  rw [scope_modifyScope]
  split_ifs
  · exact h _
  · rfl

theorem members_openScope (s : Nat) :
    ((r.openScope s).2.scope r.scopes.length).members = [] := by
  rw [scope_openScope_self]

/-- A registry with the same trees and the same members of scopes. -/
structure Resembles (r r' : Registry K) : Prop where
  /-- The numbers and members of objects are the same. -/
  shape : r'.shape = r.shape
  /-- There are as many scopes. -/
  count : r'.scopes.length = r.scopes.length
  /-- They have the same members. -/
  members : ∀ i, (r'.scope i).members = (r.scope i).members

namespace Resembles

variable {r} {r' r'' : Registry K}

theorem refl (r : Registry K) : Resembles r r := ⟨rfl, rfl, fun _ => rfl⟩

theorem trans (h : Resembles r r') (h' : Resembles r' r'') : Resembles r r'' :=
  ⟨h'.shape.trans h.shape, h'.count.trans h.count, fun i => (h'.members i).trans (h.members i)⟩

theorem modifyObject {id : Nat} {f : Object K → Object K}
    (h : ∀ o, r.arena[id]? = some o → (f o).entry = o.entry) : Resembles r (r.modifyObject id f) :=
  ⟨r.shape_modifyObject h, rfl, fun _ => rfl⟩

theorem modifyScope {f : Scope K → Scope K} (h : ∀ sc, (f sc).members = sc.members) (s : Nat) :
    Resembles r (r.modifyScope s f) :=
  ⟨rfl, List.length_modify .., r.members_modifyScope h s⟩

theorem foldl {f : Registry K → Nat → Registry K} (h : ∀ r c, Resembles r (f r c))
    (ids : List Nat) : Resembles r (ids.foldl f r) := by
  induction ids generalizing r with
  | nil => exact refl r
  | cons c ids ih => exact (h r c).trans ih

end Resembles

/-- A finished object is one more member of its scope. -/
theorem finalize_members {s id : Nat} {r' : Registry K} (h : r.finalize s id = .ok r') :
    r'.shape = r.shape ∧ r'.scopes.length = r.scopes.length ∧
      ∀ i, (r'.scope i).members = if s = i ∧ i < r.scopes.length then (r.scope i).members ++ [id]
        else (r.scope i).members := by
  obtain ⟨o, -, h⟩ := exists_of_bind_eq_ok h
  cases h
  refine ⟨r.shape_modifyObject fun o _ => rfl, List.length_modify .., fun i => ?_⟩
  rw [scope_modifyScope, apply_ite Scope.members]
  rfl

theorem bindLabel_resembles [Arith K] {s id : Nat} {label : String} {r' : Registry K}
    (h : r.bindLabel s label id = (.ok (), r')) : Resembles r r' := by
  unfold bindLabel at h
  cases hf : r.requireFree s label with
  | error e =>
    rw [hf] at h
    cases h
  | ok u =>
    rw [hf] at h
    obtain ⟨-, rfl⟩ := Prod.mk.inj h
    let f : Scope K → Scope K := fun sc => { sc with labels := sc.labels ++ [(label, id)] }
    have labels : Resembles r (r.modifyScope s f) := .modifyScope (f := f) (fun _ => rfl) s
    exact labels.trans (.modifyObject fun _ _ => rfl)

end Registry

/-! ## Drawings -/

/-- A drawing with more trees of objects, and their roots in its scope. -/
structure Drawing.Grows (d d' : Drawing K) (added : Shape) (roots : List Nat) : Prop where
  /-- The objects before are as they were, as far as trees are concerned. -/
  shape : d'.registry.shape = d.registry.shape ++ added
  /-- The objects added are trees. -/
  planted : Planted d.registry.arena.length added roots
  /-- The scope is the same. -/
  scope : d'.scope = d.scope
  /-- No scope has gone. -/
  count : d.registry.scopes.length ≤ d'.registry.scopes.length
  /-- The roots are members of the scope. -/
  here : (d'.registry.scope d.scope).members = (d.registry.scope d.scope).members ++ roots
  /-- The other scopes have the members they had. -/
  elsewhere : ∀ i < d.registry.scopes.length, i ≠ d.scope →
    (d'.registry.scope i).members = (d.registry.scope i).members

namespace Drawing

namespace Grows

variable {d e f : Drawing K} {added more : Shape} {roots moreRoots : List Nat}

theorem of_resembles (h : d.registry.Resembles e.registry) (hs : e.scope = d.scope) :
    Grows d e [] [] where
  shape := by rw [h.shape, List.append_nil]
  planted := .nil _
  scope := hs
  count := h.count.ge
  here := by rw [h.members, List.append_nil]
  elsewhere i _ _ := h.members i

theorem trans (h : Grows d e added roots) (h' : Grows e f more moreRoots) :
    Grows d f (added ++ more) (roots ++ moreRoots) where
  shape := by rw [h'.shape, h.shape, List.append_assoc]
  planted := by
    refine h.planted.append ?_
    have length : e.registry.arena.length = d.registry.arena.length + added.length := by
      rw [← Registry.length_shape, h.shape, List.length_append, Registry.length_shape]
    exact length ▸ h'.planted
  scope := h'.scope.trans h.scope
  count := h.count.trans h'.count
  here := by
    rw [← h.scope, h'.here, h.scope, h.here, List.append_assoc]
  elsewhere i hi hne := by
    rw [h'.elsewhere i (hi.trans_le h.count) (h.scope ▸ hne), h.elsewhere i hi hne]

end Grows

variable [Arith K] {t : Resources K} {d : Drawing K}

/-- Finishing the object that was added last, with the trees in it before it. -/
theorem Grows.of_finish {e d' : Drawing K} {inner : Shape} {members : List Nat}
    {draft : Draft K} {exit : Option Direction} {label : Option String}
    (h : e.finish draft exit label = (.ok (), d'))
    (hi : Planted d.registry.arena.length inner members)
    (hid : draft.object.id = d.registry.arena.length + inner.length)
    (shape : e.registry.shape = d.registry.shape ++ inner ++ [(draft.object.id, members)])
    (hs : e.scope = d.scope) (hlt : d.scope < d.registry.scopes.length)
    (count : d.registry.scopes.length ≤ e.registry.scopes.length)
    (same : ∀ i < d.registry.scopes.length,
      (e.registry.scope i).members = (d.registry.scope i).members) :
    Grows d d' (inner ++ [(draft.object.id, members)]) [draft.object.id] := by
  have closed : ∃ r, e.registry.finalize e.scope draft.object.id = .ok r ∧
      r.Resembles d'.registry ∧ d'.scope = e.scope := by
    unfold finish at h
    cases hf : e.registry.finalize e.scope draft.object.id with
    | error f =>
      rw [hf] at h
      cases h
    | ok r =>
      rw [hf] at h
      refine ⟨r, rfl, ?_⟩
      cases label with
      | none =>
        obtain ⟨-, rfl⟩ := Prod.mk.inj h
        exact ⟨.refl r, rfl⟩
      | some l =>
        dsimp only at h
        rcases hb : r.bindLabel e.scope l draft.object.id with ⟨_ | _, r'⟩
        · rw [hb] at h
          cases h
        · rw [hb] at h
          obtain ⟨-, rfl⟩ := Prod.mk.inj h
          exact ⟨r.bindLabel_resembles hb, rfl⟩
  obtain ⟨r, hf, resembles, hscope⟩ := closed
  obtain ⟨hshape, hcount, hmembers⟩ := Registry.finalize_members _ hf
  have members_eq : ∀ i, (d'.registry.scope i).members =
      if e.scope = i ∧ i < e.registry.scopes.length
      then (e.registry.scope i).members ++ [draft.object.id] else (e.registry.scope i).members :=
    fun i => (resembles.members i).trans (hmembers i)
  constructor
  · rw [resembles.shape, hshape, shape, List.append_assoc]
  · rw [hid]
    exact hi.group
  · exact hscope.trans hs
  · rw [resembles.count, hcount]
    exact count
  · rw [members_eq, if_pos ⟨hs, hlt.trans_le count⟩, same _ hlt]
  · intro i hlt hne
    rw [members_eq, if_neg fun h => hne (h.1.symm.trans hs), same i hlt]

theorem draft_standing (id : Nat) (cls : ObjectClass) (attributes : List Attribute) :
    Ensures (fun p => p.1.object.standing = { id := id, cls := cls })
      (d.draft t id cls attributes) := by
  refine .bind (Draft.begin_standing _ id cls _) fun plain hb => ?_
  refine .bind (plain.applyAll_keeps _ attributes) fun full ha placed hp => ?_
  exact ((full.place_redraws _ placed hp).standing.trans ha).trans hb

theorem groupDraft_standing (id inner : Nat) (origin : Point K) (attributes : List Attribute) :
    Ensures (fun p => p.2.object.standing = { id := id, cls := .container })
      (d.groupDraft t id inner origin attributes) := by
  refine .bind (Draft.begin_standing _ id .container _) fun plain hb => ?_
  refine .bind (Draft.applyAll_keeps _ _ attributes) fun full ha => ?_
  refine .bind (full.placeFramed_redraws _) fun placed hp => .ok ((hp.standing.trans ha).trans ?_)
  unfold enclose
  split <;> exact hb

omit [Arith K] in
theorem entry_of_standing {o : Object K} {id : Nat} {cls : ObjectClass}
    (h : o.standing = { id := id, cls := cls }) : o.entry = (id, []) :=
  congrArg (fun st : Standing => (st.id, st.children)) h

/-- Writing down an object that is as it was, as far as trees are concerned. -/
theorem store_shape {e : Drawing K} {draft : Draft K} {before : Shape}
    (h : draft.object.entry = (before.length, []))
    (shape : e.registry.shape = before ++ [(before.length, [])]) :
    (e.store draft).registry.shape = before ++ [(before.length, [])] := by
  refine (e.registry.shape_modifyObject fun o ho => ?_).trans shape
  have old : e.registry.shape[before.length]? = some (before.length, []) := by
    rw [shape, List.getElem?_concat_length]
  rw [Registry.shape, List.getElem?_map] at old
  rw [show draft.object.id = before.length from congrArg Prod.fst h] at ho
  rw [ho] at old
  exact h.trans (Option.some.inj old).symm

theorem create_shape (d : Drawing K) (cls : ObjectClass) : (d.create cls).2.registry.shape =
    d.registry.shape ++ [(d.registry.shape.length, [])] := by
  rw [create, Registry.create, Registry.shape, List.map_append, Registry.length_shape]
  rfl

/-- A declaration adds one object. -/
theorem declare_grows {cls : ObjectClass} {label : Option String} {attributes : List Attribute}
    {d' : Drawing K} (h : d.declare t cls label attributes = (.ok (), d'))
    (hlt : d.scope < d.registry.scopes.length) : ∃ added roots, Grows d d' added roots := by
  unfold declare at h
  dsimp only at h
  cases hd : (d.create cls).2.draft t (d.create cls).1 cls attributes with
  | error e =>
    rw [hd] at h
    cases h
  | ok p =>
    rw [hd] at h
    have entry := entry_of_standing (draft_standing _ _ _ _ hd)
    have number : p.1.object.id = d.registry.shape.length :=
      (congrArg Prod.fst entry).trans d.registry.length_shape.symm
    have stored := store_shape (by rw [entry, Registry.length_shape]; rfl) (d.create_shape cls)
    refine ⟨_, _, .of_finish h (.nil _) (number.trans d.registry.length_shape) ?_ rfl hlt
      (Nat.le_refl _) fun i _ => rfl⟩
    rw [stored, List.append_nil, number]

theorem moveMembers_resembles (id : Nat) (dx dy : K) :
    d.registry.Resembles (d.moveMembers id dx dy).registry := by
  unfold moveMembers
  split_ifs
  · exact .refl _
  · refine .foldl (fun r c => ?_) _
    exact .modifyObject fun _ _ => rfl

theorem moveMembers_scope (id : Nat) (dx dy : K) : (d.moveMembers id dx dy).scope = d.scope := by
  unfold moveMembers
  split_ifs <;> rfl

theorem moveMembers_cursor (id : Nat) (dx dy : K) :
    (d.moveMembers id dx dy).cursor = d.cursor := by
  unfold moveMembers
  split_ifs <;> rfl

omit [Arith K] in
theorem attachScope_count (r : Registry K) (id s : Nat) :
    (r.attachScope id s).scopes.length = r.scopes.length := by
  unfold Registry.attachScope Registry.adopt
  split_ifs
  · refine (Registry.Resembles.foldl (fun r c => ?_) _).count
    exact .modifyObject fun _ _ => rfl
  · rfl

omit [Arith K] in
theorem attachScope_members (r : Registry K) (id s i : Nat) :
    ((r.attachScope id s).scope i).members = (r.scope i).members := by
  unfold Registry.attachScope Registry.adopt
  split_ifs
  · refine (Registry.Resembles.foldl (fun r c => ?_) _).members i
    exact .modifyObject fun _ _ => rfl
  · rfl

/-- The latest object is a group of what its scope has members of. -/
theorem attached_shape {after : Drawing K} {inner : Nat} {origin : Point K}
    {attributes : List Attribute} {p : Draft K × Draft K}
    (h : (after.create .container).2.groupDraft t (after.create .container).1 inner origin
      attributes = .ok p) :
    (((after.create .container).2.store p.2).registry.attachScope
      (after.create .container).1 inner).shape = after.registry.shape ++
        [(after.registry.arena.length, (after.registry.scope inner).members)] := by
  have entry := entry_of_standing (groupDraft_standing _ _ _ _ _ h)
  have stored := store_shape (by rw [entry, Registry.length_shape]; rfl)
    (after.create_shape .container)
  rw [Registry.length_shape] at stored
  refine Registry.shape_adopt _ ?_ after.registry.length_shape.symm _
  exact stored

/-- A group adds one object, after those in it. -/
theorem group_grows {after d' : Drawing K} {inner : Nat} {origin : Point K} {label : Option String}
    {attributes : List Attribute} {added : Shape} {roots : List Nat}
    (h : after.group t inner origin label attributes = (.ok (), d'))
    (shape : after.registry.shape = d.registry.shape ++ added)
    (planted : Planted d.registry.arena.length added roots)
    (inside : (after.registry.scope inner).members = roots) (hs : after.scope = d.scope)
    (hlt : d.scope < d.registry.scopes.length)
    (count : d.registry.scopes.length ≤ after.registry.scopes.length)
    (same : ∀ i < d.registry.scopes.length,
      (after.registry.scope i).members = (d.registry.scope i).members) :
    Grows d d' (added ++ [(after.registry.arena.length, roots)]) [after.registry.arena.length] := by
  unfold group at h
  dsimp only at h
  cases hd : (after.create .container).2.groupDraft t (after.create .container).1 inner origin
      attributes with
  | error e =>
    rw [hd] at h
    cases h
  | ok p =>
    rw [hd] at h
    have number : p.2.object.id = after.registry.arena.length :=
      congrArg Standing.id (groupDraft_standing _ _ _ _ _ hd)
    have attached := attached_shape hd
    rw [inside] at attached
    rw [← number]
    refine .of_finish h planted ?_ ?_ ?_ hlt ?_ fun i hi => ?_
    · rw [number, ← Registry.length_shape, shape, List.length_append, Registry.length_shape]
    · rw [(moveMembers_resembles _ _ _).shape, attached, shape, number]
    · rw [moveMembers_scope]
      exact hs
    · rw [(moveMembers_resembles _ _ _).count, attachScope_count]
      exact count
    · rw [(moveMembers_resembles _ _ _).members, attachScope_members]
      exact same i hi

end Drawing

/-! ## Runs -/

open Drawing

variable [Arith K] {t : Resources K}

/-- A statement that draws nothing adds no tree. -/
theorem Drawing.Notes.grows {d d' : Drawing K} {s : Statement} (h : d.Notes t s d') :
    ∃ added roots, Grows d d' added roots := by
  refine ⟨[], [], ?_⟩
  cases h with
  | assign | place =>
    refine .of_resembles (.modifyScope (fun _ => ?_) _) rfl
    rfl
  | same | direction | print => exact .of_resembles (.refl _) rfl

mutual

/-- A statement adds trees of objects. -/
theorem execute_grows {d d' : Drawing K} {s : Statement} (h : execute t d s = (.ok (), d'))
    (hlt : d.scope < d.registry.scopes.length) : ∃ added roots, Grows d d' added roots := by
  cases s with
  | object p cls label attributes =>
    rw [execute] at h
    exact declare_grows (Outcome.of_locate h) hlt
  | group p body label attributes =>
    obtain ⟨origin, inside, -, hr, hg⟩ := exists_of_execute_group_eq_ok h
    have count : (d.enter origin).registry.scopes.length = d.registry.scopes.length + 1 :=
      List.length_append
    have hin : (d.enter origin).scope < (d.enter origin).registry.scopes.length := by
      rw [count]
      exact Nat.lt_succ_self _
    obtain ⟨added, roots, grown⟩ := run_grows hr hin
    have older : ∀ i < d.registry.scopes.length,
        ((inside.leave d).registry.scope i).members = (d.registry.scope i).members := by
      intro i hi
      have kept := grown.elsewhere i (by omega) (Nat.ne_of_lt hi)
      exact kept.trans (congrArg Scope.members (d.registry.scope_openScope hi))
    have here := grown.here
    rw [show (d.enter origin).scope = d.registry.scopes.length from rfl] at here
    refine ⟨_, _, group_grows hg grown.shape grown.planted ?_ rfl hlt ?_ older⟩
    · refine here.trans ?_
      rw [show (d.enter origin).registry = (d.registry.openScope d.scope).2 from rfl,
        Registry.members_openScope, List.nil_append]
    · exact (Nat.le_of_lt (by omega)).trans grown.count
  | _ => exact (Notes.of_execute h rfl).grows

/-- Running statements adds trees of objects, and their roots to the scope. -/
theorem run_grows {d d' : Drawing K} {ss : List Statement} (h : run t d ss = (.ok (), d'))
    (hlt : d.scope < d.registry.scopes.length) : ∃ added roots, Grows d d' added roots := by
  cases ss with
  | nil =>
    rw [run] at h
    obtain ⟨-, rfl⟩ := Prod.mk.inj h
    exact ⟨_, _, .of_resembles (.refl _) rfl⟩
  | cons s ss =>
    obtain ⟨e, hs, hr⟩ := exists_of_run_cons_eq_ok h
    obtain ⟨added, roots, first⟩ := execute_grows hs hlt
    obtain ⟨more, moreRoots, rest⟩ := run_grows hr (first.scope.symm ▸ hlt.trans_le first.count)
    exact ⟨_, _, first.trans rest⟩

end

end DiagramScript
