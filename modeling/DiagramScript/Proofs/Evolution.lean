import DiagramScript.Proofs.ReadingSteps
import DiagramScript.Proofs.Standing
import Mathlib.Order.Nat

/-!
# What statements do to a registry

Whether statements succeed or fail, they change a registry in a few ways only.  They set variables
and places of their own scope, add objects to it, and make groups of what has been drawn in a scope
inside.

* `Registry.enroll`, `Registry.Groups` — adding a finished object, and giving it members.
* `Registry.Evolves` — what the statements of a scope can make of a registry.
* `Registry.Frame` — what such a change leaves alone: `Evolves.frame`.
* `Registry.conclude` — finishing an object that has been added: `exists_enroll_eq`.
* `Registry.attachScope_groups` — giving an object its members, and `Groups.redraw`,
  `Groups.conclude` — what may be done to it afterwards.
-/

namespace DiagramScript

variable {K : Type}

/-- A scope with one more finished object, which may have a label. -/
def Scope.enroll (sc : Scope K) (id : Nat) (cls : ObjectClass) (label : Option String) : Scope K :=
  { sc.addMember id cls with labels := sc.labels ++ label.toList.map (·, id) }

theorem Scope.enroll_none (sc : Scope K) (id : Nat) (cls : ObjectClass) :
    sc.enroll id cls none = sc.addMember id cls := by
  simp [enroll, addMember]

namespace Registry

/-! ## Finished objects -/

/-- The standing of the next object that a scope finishes. -/
def newcomer (r : Registry K) (s : Nat) (cls : ObjectClass) (label : Option String) : Standing where
  id := r.arena.length
  cls := cls
  label := label
  ordinal := ((r.scope s).ofClass cls).length + 1
  finalized := true

theorem newcomer_self {r : Registry K} {s : Nat} {cls : ObjectClass} {label : Option String}
    {o : Object K} (h : o.standing = r.newcomer s cls label) :
    o.standing = r.newcomer s o.cls o.label := by
  have hc : o.cls = cls := congrArg Standing.cls h
  have hl : o.label = label := congrArg Standing.label h
  rw [hc, hl]
  exact h

/-- Adds a finished object to a scope. -/
def enroll (r : Registry K) (s : Nat) (o : Object K) : Registry K :=
  (r.append o).modifyScope s (·.enroll o.id o.cls o.label)

theorem scope_enroll (r : Registry K) (s : Nat) (o : Object K) (i : Nat) :
    (r.enroll s o).scope i = if s = i ∧ i < r.scopes.length
      then (r.scope i).enroll o.id o.cls o.label else r.scope i :=
  (r.append o).scope_modifyScope s i _

theorem scope_enroll_cases (r : Registry K) (s : Nat) (o : Object K) (i : Nat) :
    ((r.enroll s o).scope i = (r.scope i).enroll o.id o.cls o.label ∧ i = s) ∨
      (r.enroll s o).scope i = r.scope i := by
  rw [scope_enroll]
  by_cases hi : s = i ∧ i < r.scopes.length
  · exact .inl ⟨if_pos hi, hi.1.symm⟩
  · exact .inr (if_neg hi)

theorem standing?_enroll_self (r : Registry K) (s : Nat) (o : Object K) :
    (r.enroll s o).standing? r.arena.length = some o.standing :=
  r.standing?_append_self o

/-- A finished object is found by its number. -/
theorem standing?_enroll {r : Registry K} {s : Nat} {o : Object K}
    (new : o.standing = r.newcomer s o.cls o.label) :
    (r.enroll s o).standing? o.id = some o.standing := by
  rw [show o.id = r.arena.length from congrArg Standing.id new]
  exact r.standing?_enroll_self s o

/-- It is the only new member of the scopes. -/
theorem mem_members_enroll {r : Registry K} {s : Nat} {o : Object K} {i id : Nat}
    (h : id ∈ ((r.enroll s o).scope i).members) :
    id ∈ (r.scope i).members ∨ id = o.id ∧ i = s := by
  rcases r.scope_enroll_cases s o i with ⟨hi, rfl⟩ | hi
  · rw [hi] at h
    rcases List.mem_append.1 h with h | h
    · exact .inl h
    · exact .inr ⟨List.mem_singleton.1 h, rfl⟩
  · exact .inl (hi ▸ h)

/-- Whether a registry is another one in which an object has got the members of a scope.  Objects
before the first of some may not be touched by this. -/
structure Groups (first group inner : Nat) (r r' : Registry K) : Prop where
  /-- The scopes stay. -/
  scopes : r'.scopes = r.scopes
  /-- The object has the scope. -/
  attached : r'.attached = (group, inner) :: r.attached
  /-- The object and its members know each other. -/
  standing : ∀ i, r'.standing? i = (r.standing? i).map fun st =>
    { st with
      children := if group = i then (r.scope inner).members else st.children
      parent := if i ∈ (r.scope inner).members then some group else st.parent }
  /-- No objects are added. -/
  count : r'.arena.length = r.arena.length
  /-- Older objects stay. -/
  older : ∀ i < first, r'.arena[i]? = r.arena[i]?

theorem Groups.scope_eq {first group inner : Nat} {r r' : Registry K}
    (h : Groups first group inner r r') (i : Nat) : r'.scope i = r.scope i := by
  rw [scope, scope, h.scopes]

/-- The object that gets the members has the class and the label that it had. -/
theorem Groups.found {first inner : Nat} {r r' : Registry K} {o : Object K}
    (h : Groups first r.arena.length inner (r.append o) r') :
    ∃ x, r'.arena[r.arena.length]? = some x ∧ x.cls = o.cls ∧ x.label = o.label := by
  have known := h.standing r.arena.length
  rw [standing?_append_self] at known
  obtain ⟨x, hx, same⟩ := (standing?_eq_some _).1 known
  exact ⟨x, hx, congrArg Standing.cls same, congrArg Standing.label same⟩

/-- What the statements of a scope can make of a registry, as far as they go. -/
inductive Evolves [Arith K] : Nat → Registry K → Registry K → Prop where
  /-- Nothing. -/
  | refl (s : Nat) (r : Registry K) : Evolves s r r
  /-- One thing after another. -/
  | trans {s : Nat} {r r' r'' : Registry K} (h : Evolves s r r') (h' : Evolves s r' r'') :
    Evolves s r r''
  /-- A variable is set. -/
  | assign (s : Nat) (r : Registry K) (name : String) (value : K) :
    Evolves s r (r.setVariable s name value)
  /-- A point gets a label. -/
  | place {s : Nat} {r : Registry K} {label : String} (free : (r.scope s).isTaken label = false)
    (p : Point K) :
    Evolves s r (r.modifyScope s fun sc => { sc with places := sc.places ++ [(label, p)] })
  /-- An object is added that is never finished. -/
  | create (s : Nat) (r : Registry K) (cls : ObjectClass) (direction : Direction) :
    Evolves s r (r.create cls direction).2
  /-- An object is added and finished. -/
  | declare {s : Nat} {r : Registry K} {o : Object K}
    (new : o.standing = r.newcomer s o.cls o.label)
    (free : ∀ l ∈ o.label, (r.scope s).isTaken l = false) : Evolves s r (r.enroll s o)
  /-- The body of a group is drawn, and no group is made of it. -/
  | body {s : Nat} {r r' : Registry K}
    (inside : Evolves r.scopes.length (r.openScope s).2 r') : Evolves s r r'
  /-- The body of a group is drawn, and the group around it. -/
  | group {s : Nat} {r r' r'' : Registry K} {o : Object K}
    (inside : Evolves r.scopes.length (r.openScope s).2 r')
    (new : o.standing = r'.newcomer s .container o.label)
    (free : ∀ l ∈ o.label, (r'.scope s).isTaken l = false)
    (groups : Groups r.arena.length r'.arena.length r.scopes.length (r'.enroll s o) r'') :
    Evolves s r r''

/-! ## What stays -/

/-- What the statements of a scope leave alone: all objects that are there before, and all scopes
but their own. -/
structure Frame (s : Nat) (r r' : Registry K) : Prop where
  /-- The objects stay as they are. -/
  objects : ∀ i < r.arena.length, r'.arena[i]? = r.arena[i]?
  /-- No object goes. -/
  count : r.arena.length ≤ r'.arena.length
  /-- No scope goes. -/
  scopes : r.scopes.length ≤ r'.scopes.length
  /-- The other scopes stay as they are. -/
  elsewhere : ∀ i < r.scopes.length, i ≠ s → r'.scope i = r.scope i
  /-- Only new objects get members, and only those of new scopes. -/
  attached : ∃ new, r'.attached = new ++ r.attached ∧
    ∀ e ∈ new, r.arena.length ≤ e.1 ∧ r.scopes.length ≤ e.2

namespace Frame

variable {s : Nat} {r r' r'' : Registry K}

theorem trans (h : Frame s r r') (h' : Frame s r' r'') : Frame s r r'' where
  objects i hi := by rw [h'.objects i (hi.trans_le h.count), h.objects i hi]
  count := h.count.trans h'.count
  scopes := h.scopes.trans h'.scopes
  elsewhere i hi hne := by rw [h'.elsewhere i (hi.trans_le h.scopes) hne, h.elsewhere i hi hne]
  attached := by
    obtain ⟨new, hnew, le⟩ := h.attached
    obtain ⟨more, hmore, le'⟩ := h'.attached
    refine ⟨more ++ new, by rw [hmore, hnew, List.append_assoc], fun e he => ?_⟩
    rcases List.mem_append.1 he with he | he
    · exact ⟨h.count.trans (le' e he).1, h.scopes.trans (le' e he).2⟩
    · exact le e he

theorem refl (s : Nat) (r : Registry K) : Frame s r r where
  objects _ _ := rfl
  count := Nat.le_refl _
  scopes := Nat.le_refl _
  elsewhere _ _ _ := rfl
  attached := ⟨[], rfl, fun _ he => nomatch he⟩

/-- Adding an object. -/
theorem append (s : Nat) (r : Registry K) (o : Object K) : Frame s r (r.append o) where
  objects _ hi := List.getElem?_append_left hi
  count := List.length_append ▸ Nat.le_add_right ..
  scopes := Nat.le_refl _
  elsewhere _ _ _ := rfl
  attached := ⟨[], rfl, fun _ he => nomatch he⟩

/-- Changing the scope. -/
theorem modifyScope (s : Nat) (r : Registry K) (f : Scope K → Scope K) :
    Frame s r (r.modifyScope s f) where
  objects _ _ := rfl
  count := Nat.le_refl _
  scopes := (List.length_modify ..).ge
  elsewhere _ _ hne := by rw [scope_modifyScope, if_neg fun e => hne e.1.symm]
  attached := ⟨[], rfl, fun _ he => nomatch he⟩

/-- Adding a finished object. -/
theorem enroll (s : Nat) (r : Registry K) (o : Object K) : Frame s r (r.enroll s o) :=
  (append s r o).trans (modifyScope s _ _)

/-- What is done in a scope inside leaves the scope alone, too. -/
theorem openScope (h : Frame r.scopes.length (r.openScope s).2 r') (s' : Nat) : Frame s' r r' where
  objects := h.objects
  count := h.count
  scopes := by
    have more := h.scopes
    rw [length_openScope] at more
    omega
  elsewhere i hi _ := by
    rw [h.elsewhere i (hi.trans (r.lt_openScope s)) (Nat.ne_of_lt hi),
      r.scope_openScope hi]
  attached := by
    obtain ⟨new, hnew, le⟩ := h.attached
    refine ⟨new, hnew, fun e he => ⟨(le e he).1, ?_⟩⟩
    have more := (le e he).2
    rw [length_openScope] at more
    omega

end Frame

/-- The statements of a scope change no other, and no object that is there before. -/
theorem Evolves.frame [Arith K] {s : Nat} {r r' : Registry K} (h : Evolves s r r') :
    Frame s r r' := by
  induction h with
  | refl s r => exact .refl s r
  | trans _ _ ih ih' => exact ih.trans ih'
  | assign s r name value => exact .modifyScope s r _
  | place free p => exact .modifyScope _ _ _
  | create s r cls direction => exact .append s r _
  | declare new free => exact .enroll _ _ _
  | body _ ih => exact ih.openScope _
  | @group s r r' r'' o _ new free groups ih =>
    have before := (ih.openScope s).trans (.enroll s r' o)
    -- only what the group holds is touched after this, and that is new
    constructor
    · intro i hi
      rw [groups.older i hi, before.objects i hi]
    · exact groups.count.symm ▸ before.count
    · exact groups.scopes.symm ▸ before.scopes
    · intro i hi hne
      rw [groups.scope_eq]
      exact before.elsewhere i hi hne
    · obtain ⟨new, hnew, le⟩ := before.attached
      refine ⟨(r'.arena.length, r.scopes.length) :: new, by rw [groups.attached, hnew]; rfl, ?_⟩
      intro e he
      rcases List.mem_cons.1 he with rfl | he
      · exact ⟨ih.count, Nat.le_refl _⟩
      · exact le e he

/-! ## How objects are finished -/

theorem modify_concat {α : Type} (l : List α) (a : α) (f : α → α) :
    (l ++ [a]).modify l.length f = l ++ [f a] := by
  induction l with
  | nil => rfl
  | cons b l ih =>
    rw [List.cons_append, List.length_cons, List.modify_succ_cons, ih, List.cons_append]

variable (r : Registry K)

/-- Finishes an object, and gives it a label if there is one. -/
def conclude (s id : Nat) (cls : ObjectClass) (label : Option String) : Registry K :=
  (r.modifyObject id fun o =>
    { o with
      ordinal := ((r.scope s).ofClass cls).length + 1
      finalized := true
      label := label.or o.label }).modifyScope s (·.enroll id cls label)

/-- An object that is added and finished. -/
theorem exists_enroll_eq {o : Object K} {cls : ObjectClass}
    (h : o.standing = { id := r.arena.length, cls := cls }) (s : Nat) (label : Option String) :
    ∃ o' : Object K, o'.standing = r.newcomer s cls label ∧
      (r.append o).conclude s r.arena.length cls label = r.enroll s o' := by
  let finish : Standing → Standing := fun st =>
    { st with
      ordinal := ((r.scope s).ofClass cls).length + 1, finalized := true, label := label }
  refine ⟨{ o with
    ordinal := ((r.scope s).ofClass cls).length + 1, finalized := true, label := label },
    congrArg finish h, ?_⟩
  obtain ⟨id, cls', _, _, _, _, _, _, _, l⟩ := o
  obtain ⟨rfl, rfl, rfl, -⟩ := Standing.mk.inj h
  rw [conclude, modifyObject, append, modify_concat, Option.or_none]
  rfl

variable {r} {s id : Nat}

theorem finalize_eq {o : Object K} (h : r.arena[id]? = some o) :
    r.finalize s id = .ok (r.conclude s id o.cls none) := by
  have found : r.object id = .ok o := by
    rw [object, h]
  rw [finalize, found, ok_bind, conclude]
  simp only [Scope.enroll_none, Option.none_or]

theorem recordLabel_conclude (cls : ObjectClass) (label : String) :
    (r.conclude s id cls none).recordLabel s label id = r.conclude s id cls (some label) := by
  unfold recordLabel conclude modifyScope modifyObject
  dsimp only
  rw [List.modify_modify_eq, List.modify_modify_eq]
  congr 2
  funext sc
  simp [Scope.enroll]

theorem isTaken_conclude (cls : ObjectClass) (label : String) :
    ((r.conclude s id cls none).scope s).isTaken label = (r.scope s).isTaken label := by
  rw [conclude, scope_modifyScope]
  split_ifs
  · simp [Scope.isTaken, Scope.enroll, Scope.addMember]
    rfl
  · rfl

theorem bindLabel_of_taken {label : String} (h : (r.scope s).isTaken label = true)
    (cls : ObjectClass) : (r.conclude s id cls none).bindLabel s label id =
      (.error (.reference (.duplicateLabel label)), r.conclude s id cls none) := by
  rw [bindLabel, requireFree, isTaken_conclude, if_pos h]

theorem bindLabel_of_free {label : String} (h : (r.scope s).isTaken label = false) {o : Object K}
    (ho : r.arena[id]? = some o) (cls : ObjectClass) :
    (r.conclude s id cls none).bindLabel s label id =
      (.ok (), r.conclude s id cls (some label)) := by
  have found : ∃ x, (r.conclude s id cls none).object id = .ok x := by
    rw [object, conclude, modifyScope, modifyObject, List.getElem?_modify_eq, ho]
    exact ⟨_, rfl⟩
  obtain ⟨x, hx⟩ := found
  rw [bindLabel, requireFree, isTaken_conclude, h, hx, recordLabel_conclude]
  rfl

theorem conclude_scopes (cls : ObjectClass) (label : Option String) :
    (r.conclude s id cls label).scopes = r.scopes.modify s (·.enroll id cls label) := rfl

theorem conclude_attached (cls : ObjectClass) (label : Option String) :
    (r.conclude s id cls label).attached = r.attached := rfl

theorem standing?_conclude (cls : ObjectClass) (label : Option String) (i : Nat) :
    (r.conclude s id cls label).standing? i = (r.standing? i).map (if id = i then fun st =>
      { st with
        ordinal := ((r.scope s).ofClass cls).length + 1
        finalized := true
        label := label.or st.label } else fun st => st) :=
  r.standing?_modifyObject (fun _ => rfl) i

/-! ## How objects get members -/

theorem foldl_modifyObject (r : Registry K) (f : Object K → Object K) (ids : List Nat) :
    ids.foldl (fun r c => r.modifyObject c f) r =
      { r with arena := ids.foldl (fun os c => os.modify c f) r.arena } := by
  induction ids generalizing r with
  | nil => rfl
  | cons c ids ih =>
    rw [List.foldl_cons, ih, List.foldl_cons]
    rfl

theorem standing?_foldl_modifyObject (r : Registry K) {f : Object K → Object K}
    {g : Standing → Standing} (h : ∀ o, (f o).standing = g o.standing) (hg : ∀ st, g (g st) = g st)
    (ids : List Nat) (i : Nat) : (ids.foldl (fun r c => r.modifyObject c f) r).standing? i =
      (r.standing? i).map (if i ∈ ids then g else fun st => st) := by
  induction ids generalizing r with
  | nil => simp
  | cons c ids ih =>
    rw [List.foldl_cons, ih, standing?_modifyObject _ h, Option.map_map]
    congr 1
    funext st
    by_cases hc : c = i
    · by_cases hi : i ∈ ids
      · simp [hc, hi, hg]
      · simp [hc, hi]
    · simp [hc, Ne.symm hc]

theorem getElem?_foldl_of_not_mem (r : Registry K) (f : Object K → Object K) {ids : List Nat}
    {i : Nat} (h : i ∉ ids) :
    (ids.foldl (fun r c => r.modifyObject c f) r).arena[i]? = r.arena[i]? := by
  induction ids generalizing r with
  | nil => rfl
  | cons c ids ih =>
    rw [List.mem_cons, not_or] at h
    rw [List.foldl_cons, ih _ h.2, modifyObject, List.getElem?_modify_ne _ _ (Ne.symm h.1)]

theorem length_foldl_modifyObject (r : Registry K) (f : Object K → Object K) (ids : List Nat) :
    (ids.foldl (fun r c => r.modifyObject c f) r).arena.length = r.arena.length := by
  induction ids generalizing r with
  | nil => rfl
  | cons c ids ih =>
    rw [List.foldl_cons, ih, modifyObject, List.length_modify]

/-- Making the members of a scope those of an object. -/
theorem attachScope_groups {first inner : Nat} (hid : id < r.arena.length) (hf : first ≤ id)
    (hm : ∀ c ∈ (r.scope inner).members, first ≤ c) :
    Groups first id inner r (r.attachScope id inner) := by
  let members := (r.scope inner).members
  let owned := { r with attached := (id, inner) :: r.attached }.modifyObject id fun o =>
    { o with children := members }
  have steps : r.attachScope id inner =
      members.foldl (fun r c => r.modifyObject c fun o => { o with parent := some id }) owned := by
    rw [attachScope, adopt, if_pos hid]
  constructor
  · rw [steps, foldl_modifyObject]
    rfl
  · rw [steps, foldl_modifyObject]
    rfl
  · intro i
    rw [steps, standing?_foldl_modifyObject owned (g := fun st => { st with parent := some id })
      (fun _ => rfl) fun _ => rfl, standing?_modifyObject _ (g := fun st =>
      { st with children := members }) (fun _ => rfl), Option.map_map]
    congr 1
    funext st
    by_cases hi : id = i <;> by_cases hmem : i ∈ members <;> simp [hi, hmem, members]
  · rw [steps, length_foldl_modifyObject]
    exact List.length_modify ..
  · intro i hi
    rw [steps, getElem?_foldl_of_not_mem _ _ fun hmem => absurd (hm i hmem) (Nat.not_le.2 hi)]
    exact List.getElem?_modify_ne _ _ (Nat.ne_of_gt (Nat.lt_of_lt_of_le hi hf))

namespace Groups

variable {first group inner : Nat} {r' : Registry K}

/-- The members may be drawn elsewhere. -/
theorem redraw (h : Groups first group inner r r') {f : Object K → Object K}
    (hf : ∀ o, (f o).standing = o.standing) {ids : List Nat} (hids : ∀ c ∈ ids, first ≤ c) :
    Groups first group inner r (ids.foldl (fun r c => r.modifyObject c f) r') where
  scopes := by rw [foldl_modifyObject]; exact h.scopes
  attached := by rw [foldl_modifyObject]; exact h.attached
  standing i := by
    rw [standing?_foldl_modifyObject r' (g := fun st => st) hf fun _ => rfl, ite_self,
      Option.map_id', h.standing]
  count := by rw [length_foldl_modifyObject, h.count]
  older i hi := by
    rw [getElem?_foldl_of_not_mem _ _ fun hm => absurd (hids i hm) (Nat.not_le.2 hi), h.older i hi]

/-- An object may get its members before it is finished. -/
theorem conclude (h : Groups first group inner r r') (hs : inner ≠ s) (hf : first ≤ group)
    (cls : ObjectClass) (label : Option String) :
    Groups first group inner (r.conclude s group cls label) (r'.conclude s group cls label) := by
  have members : ((r.conclude s group cls label).scope inner).members =
      (r.scope inner).members := by
    rw [Registry.conclude, scope_modifyScope, if_neg fun e => hs e.1.symm]
    rfl
  constructor
  · rw [conclude_scopes, conclude_scopes, h.scopes]
  · rw [conclude_attached, conclude_attached, h.attached]
  · intro i
    rw [standing?_conclude, standing?_conclude, h.standing, h.scope_eq, members, Option.map_map,
      Option.map_map]
    congr 1
    funext st
    by_cases hi : group = i <;> simp [hi]
  · rw [Registry.conclude, Registry.conclude, modifyScope, modifyScope, modifyObject, modifyObject,
      List.length_modify, List.length_modify, h.count]
  · intro i hi
    have hne : group ≠ i := Nat.ne_of_gt (Nat.lt_of_lt_of_le hi hf)
    have stays : ∀ r : Registry K, (r.conclude s group cls label).arena[i]? = r.arena[i]? :=
      fun r => List.getElem?_modify_ne _ _ hne
    rw [stays, stays, h.older i hi]

end Groups

end Registry

end DiagramScript
