import DiagramScript.Proofs.Evolution
import DiagramScript.Proofs.Growth

/-!
# What a run does to a registry

Statements change the registry of a drawing only in the ways in which a registry evolves, even where
they fail.  So whatever is true of a registry at the start and stays true as it evolves is true of
every drawing that a run can come to.

* `Drawing.EvolvesTo` — a drawing whose registry comes from that of another.
* `Drawing.finish_concludes`, `Drawing.group_concludes` — how a declaration and a group end.
* `execute_evolves`, `run_evolves` — statements do nothing else.
* `Drawing.Reachable` — the drawings that a run can come to, in the bodies of groups too.
-/

namespace DiagramScript

variable {K : Type}

/-! ## Single statements -/

namespace Drawing

open Registry

variable [Arith K] {t : Resources K} {d : Drawing K}

/-- A drawing whose registry comes from that of another, in the same scope. -/
structure EvolvesTo (d d' : Drawing K) : Prop where
  /-- The scope is the same. -/
  scope : d'.scope = d.scope
  /-- The registry is what the statements of the scope can make of it. -/
  registry : Evolves d.scope d.registry d'.registry

theorem EvolvesTo.refl (d : Drawing K) : d.EvolvesTo d := ⟨rfl, .refl _ _⟩

theorem EvolvesTo.trans {d' d'' : Drawing K} (h : d.EvolvesTo d') (h' : d'.EvolvesTo d'') :
    d.EvolvesTo d'' :=
  ⟨h'.scope.trans h.scope, h.registry.trans (h.scope ▸ h'.registry)⟩

/-- An object is finished in any case, and has its label unless that is taken. -/
theorem finish_concludes {e : Drawing K} {draft : Draft K} {o : Object K}
    (h : e.registry.arena[draft.object.id]? = some o) (exit : Option Direction)
    (label : Option String) : ∃ l : Option String,
      (∀ name ∈ l, (e.registry.scope e.scope).isTaken name = false) ∧
      ((e.finish draft exit label).1 = .ok () → l = label) ∧
      (e.finish draft exit label).2.scope = e.scope ∧
      (e.finish draft exit label).2.registry =
        e.registry.conclude e.scope draft.object.id o.cls l := by
  unfold finish
  rw [finalize_eq h]
  dsimp only
  cases label with
  | none => exact ⟨none, by simp, fun _ => rfl, rfl, rfl⟩
  | some name =>
    cases taken : (e.registry.scope e.scope).isTaken name with
    | true =>
      dsimp only
      rw [bindLabel_of_taken taken]
      exact ⟨none, by simp, fun h => (nomatch h), rfl, rfl⟩
    | false =>
      dsimp only
      rw [bindLabel_of_free taken h]
      exact ⟨some name, by simpa using taken, fun _ => rfl, rfl, rfl⟩

/-- A new object, written down. -/
theorem store_create (d : Drawing K) (cls : ObjectClass) {draft : Draft K}
    (h : draft.object.id = d.registry.arena.length) :
    ((d.create cls).2.store draft).registry = d.registry.append (draft.object.stamp d.serial) := by
  rw [store, create, Registry.create, modifyObject, h]
  dsimp only
  rw [modify_concat]
  rfl

/-- The object that has been written down. -/
theorem getElem?_store_create {d : Drawing K} {draft : Draft K}
    (h : draft.object.id = d.registry.arena.length) (cls : ObjectClass) :
    ((d.create cls).2.store draft).registry.arena[draft.object.id]? =
      some (draft.object.stamp d.serial) := by
  rw [store_create d cls h, h, append, List.getElem?_concat_length]

theorem declare_evolves (d : Drawing K) (cls : ObjectClass) (label : Option String)
    (attributes : List Attribute) : d.EvolvesTo (d.declare t cls label attributes).2 := by
  unfold declare
  dsimp only
  cases hd : (d.create cls).2.draft t (d.create cls).1 cls attributes with
  | error e => exact ⟨rfl, .create _ _ _ _⟩
  | ok p =>
    obtain ⟨draft, exit⟩ := p
    let o := draft.object.stamp d.serial
    have standing : o.standing = { id := d.registry.arena.length, cls := cls } :=
      draft_standing _ _ _ _ hd
    have number : o.id = d.registry.arena.length := congrArg Standing.id standing
    have written : ((d.create cls).2.store draft).registry = d.registry.append o :=
      store_create d cls number
    have latest := getElem?_store_create number cls
    obtain ⟨l, free, -, scope, registry⟩ := finish_concludes latest exit label
    rw [written] at free registry
    rw [show draft.object.id = _ from number,
      show o.cls = cls from congrArg Standing.cls standing] at registry
    obtain ⟨o', new, enrolled⟩ := d.registry.exists_enroll_eq standing d.scope l
    obtain ⟨rfl, rfl⟩ : cls = o'.cls ∧ l = o'.label :=
      ⟨(congrArg Standing.cls new).symm, (congrArg Standing.label new).symm⟩
    exact ⟨scope, (registry.trans enrolled) ▸ .declare new free⟩

theorem moveMembers_groups {first group inner : Nat} {r : Registry K}
    (h : Groups first group inner r d.registry)
    (hm : ∀ c ∈ d.registry.descendants group, first ≤ c) (dx dy : K) :
    Groups first group inner r (d.moveMembers group dx dy).registry := by
  unfold moveMembers
  split_ifs
  · exact h
  · exact h.redraw (f := fun o => (o.translate dx dy).stamp d.serial) (fun _ => rfl) hm

/-- A group is finished after it has got its members.  No object is touched that is older than
these. -/
theorem group_eq_finish {after : Drawing K} {inner : Nat} {added : Shape} {roots : List Nat}
    (shape : after.registry.shape = d.registry.shape ++ added)
    (planted : Planted d.registry.arena.length added roots)
    (inside : (after.registry.scope inner).members = roots) {origin : Point K}
    {attributes : List Attribute} {full placed : Draft K}
    (hd : (after.create .container).2.groupDraft t (after.create .container).1 inner origin
      attributes = .ok (full, placed)) (label : Option String) :
    ∃ moved : Drawing K,
      after.group t inner origin label attributes = moved.finish placed none label ∧
      moved.scope = after.scope ∧ moved.cursor = after.cursor ∧
      Groups d.registry.arena.length after.registry.arena.length inner
        (after.registry.append (placed.object.stamp after.serial)) moved.registry := by
  let N := after.registry.arena.length
  let o := placed.object.stamp after.serial
  have number : o.id = N := congrArg Standing.id (groupDraft_standing _ _ _ _ _ hd)
  let stored := (after.create .container).2.store placed
  have written : stored.registry = after.registry.append o := store_create after .container number
  let attached : Drawing K := { stored with registry := stored.registry.attachScope N inner }
  have count : N = d.registry.shape.length + added.length := by
    rw [← List.length_append, ← shape, Registry.length_shape]
  have between : d.registry.arena.length ≤ N := Registry.length_le_of_shape shape
  have grouped : Groups d.registry.arena.length N inner (after.registry.append o)
      attached.registry := by
    rw [show attached.registry = stored.registry.attachScope N inner from rfl, written]
    refine attachScope_groups ?_ between fun c hc => ?_
    · rw [append, List.length_append]
      exact Nat.lt_succ_self _
    · exact (planted.mem_roots c (inside ▸ hc)).1
  have below : ∀ c ∈ attached.registry.descendants N, d.registry.arena.length ≤ c := by
    intro c hc
    have whole : attached.registry.shape = d.registry.shape ++ (added ++ [(N, roots)]) := by
      rw [show attached.registry.shape = _ from attached_shape hd, inside, shape,
        List.append_assoc]
    rw [descendants, descendantsWithin_eq_below, whole, count] at hc
    rw [← Registry.length_shape] at planted between ⊢
    exact planted.group.le_of_mem_below (count ▸ between) hc
  let dx := placed.object.center.x - full.object.center.x
  let dy := placed.object.center.y - full.object.center.y
  refine ⟨attached.moveMembers N dx dy, ?_, attached.moveMembers_scope N dx dy,
    attached.moveMembers_cursor N dx dy, moveMembers_groups grouped below dx dy⟩
  unfold group
  dsimp only
  rw [hd]
  rfl

/-- Making a group fails before the group is finished, or adds the group with its members, under its
label unless that is taken. -/
theorem group_concludes {after : Drawing K} {inner : Nat} {added : Shape} {roots : List Nat}
    (shape : after.registry.shape = d.registry.shape ++ added)
    (planted : Planted d.registry.arena.length added roots)
    (inside : (after.registry.scope inner).members = roots) (hne : inner ≠ after.scope)
    (origin : Point K) (label : Option String) (attributes : List Attribute) :
    (∃ e, after.group t inner origin label attributes = (.error e, (after.create .container).2)) ∨
      ∃ o : Object K, o.standing = after.registry.newcomer after.scope .container o.label ∧
        (∀ name ∈ o.label, (after.registry.scope after.scope).isTaken name = false) ∧
        ((after.group t inner origin label attributes).1 = .ok () → o.label = label) ∧
        (after.group t inner origin label attributes).2.scope = after.scope ∧
        Groups d.registry.arena.length after.registry.arena.length inner
          (after.registry.enroll after.scope o)
          (after.group t inner origin label attributes).2.registry := by
  cases hd : (after.create .container).2.groupDraft t (after.create .container).1 inner origin
      attributes with
  | error e =>
    refine .inl ⟨e, ?_⟩
    unfold group
    dsimp only
    rw [hd]
  | ok p =>
    right
    obtain ⟨full, placed⟩ := p
    have standing : (placed.object.stamp after.serial).standing =
        { id := after.registry.arena.length, cls := .container } :=
      groupDraft_standing _ _ _ _ _ hd
    have number : placed.object.id = after.registry.arena.length := congrArg Standing.id standing
    obtain ⟨moved, hg, here, -, groups⟩ := group_eq_finish shape planted inside hd label
    obtain ⟨x, hx, cls, -⟩ := groups.found
    rw [← number] at hx
    obtain ⟨l, free, given, scope, registry⟩ := finish_concludes hx none label
    have scopes : ∀ i, moved.registry.scope i = after.registry.scope i := groups.scope_eq
    rw [here, scopes] at free
    rw [here, cls, number, show (placed.object.stamp after.serial).cls = .container from
      congrArg Standing.cls standing] at registry
    obtain ⟨o, new, enrolled⟩ := after.registry.exists_enroll_eq standing after.scope l
    obtain rfl : l = o.label := (congrArg Standing.label new).symm
    rw [hg]
    refine ⟨o, new, free, given, scope.trans here, ?_⟩
    rw [registry, ← enrolled]
    exact groups.conclude hne (Registry.length_le_of_shape shape) .container o.label

/-- What the body of a group adds, before the group is made of it. -/
theorem exists_planted_of_body {origin : Point K} {body : List Statement} {inside : Drawing K}
    (hr : run t (d.enter origin) body = (.ok (), inside)) :
    ∃ added roots, (inside.leave d).registry.shape = d.registry.shape ++ added ∧
      Planted d.registry.arena.length added roots ∧
      ((inside.leave d).registry.scope d.registry.scopes.length).members = roots := by
  obtain ⟨added, roots, grown⟩ := run_grows hr (d.registry.lt_openScope d.scope)
  refine ⟨added, roots, grown.shape, grown.planted, grown.here.trans ?_⟩
  rw [show (d.enter origin).registry = (d.registry.openScope d.scope).2 from rfl,
    show (d.enter origin).scope = d.registry.scopes.length from rfl, members_openScope,
    List.nil_append]

/-- Drawing the body of a group and then the group. -/
theorem body_concludes {origin : Point K} {body : List Statement} {inside : Drawing K}
    (hr : run t (d.enter origin) body = (.ok (), inside))
    (hlt : d.scope < d.registry.scopes.length) (label : Option String)
    (attributes : List Attribute) {result : Outcome K}
    (h : (inside.leave d).group t d.registry.scopes.length origin label attributes = result) :
    (∃ e, result = (.error e, ((inside.leave d).create .container).2)) ∨
      ∃ o : Object K, o.standing = inside.registry.newcomer d.scope .container o.label ∧
        (∀ name ∈ o.label, (inside.registry.scope d.scope).isTaken name = false) ∧
        (result.1 = .ok () → o.label = label) ∧ result.2.scope = d.scope ∧
        Groups d.registry.arena.length inside.registry.arena.length d.registry.scopes.length
          (inside.registry.enroll d.scope o) result.2.registry := by
  subst h
  obtain ⟨added, roots, shape, planted, members⟩ := exists_planted_of_body hr
  exact group_concludes shape planted members (Nat.ne_of_gt hlt) origin label attributes

end Drawing

/-! ## Runs -/

open Drawing

variable [Arith K] {t : Resources K}

theorem Drawing.EvolvesTo.lt {d d' : Drawing K} (h : d.EvolvesTo d')
    (hlt : d.scope < d.registry.scopes.length) : d'.scope < d'.registry.scopes.length :=
  h.scope.symm ▸ hlt.trans_le h.registry.frame.scopes

theorem Drawing.Notes.evolvesTo {d d' : Drawing K} {s : Statement} (h : d.Notes t s d') :
    d.EvolvesTo d' := by
  cases h with
  | same => exact .refl d
  | assign => exact ⟨rfl, .assign _ _ _ _⟩
  | direction => exact ⟨rfl, .refl _ _⟩
  | print => exact ⟨rfl, .refl _ _⟩
  | place x free => exact ⟨rfl, .place free _⟩

/-- Every step of a run lets the registry evolve, in a drawing whose scope is there. -/
theorem Drawing.containsSteps_evolvesTo (t : Resources K) :
    ContainsSteps t fun d e : Drawing K =>
      d.scope < d.registry.scopes.length → d.EvolvesTo e where
  refl d _ := .refl d
  trans h h' hlt := (h hlt).trans (h' ((h hlt).lt hlt))
  notes h _ := h.evolvesTo
  declare d cls label attributes _ := declare_evolves d cls label attributes
  body {d _ _} within _ := ⟨rfl, .body (within (d.registry.lt_openScope d.scope)).registry⟩
  group {d inside origin body} hr within label attributes hlt := by
    have inner := (within (d.registry.lt_openScope d.scope)).registry
    rcases body_concludes hr hlt label attributes rfl with
      ⟨e, he⟩ | ⟨o, new, free, -, scope, groups⟩
    · rw [he]
      exact ⟨rfl, .trans (.body inner) (.create _ _ _ _)⟩
    · exact ⟨scope, .group inner new free groups⟩

/-- What a statement does to a registry, whether it succeeds or fails. -/
theorem execute_evolves {d : Drawing K} (s : Statement)
    (hlt : d.scope < d.registry.scopes.length) : d.EvolvesTo (execute t d s).2 :=
  (containsSteps_evolvesTo t).execute d s hlt

/-- What statements do to a registry, as far as they go. -/
theorem run_evolves {d : Drawing K} (ss : List Statement)
    (hlt : d.scope < d.registry.scopes.length) : d.EvolvesTo (run t d ss).2 :=
  (containsSteps_evolvesTo t).run d ss hlt

/-! ## Drawings that can be reached -/

namespace Drawing

/-- The drawings that a run can come to.  A statement that fails may be skipped, and what it has
done until then stays; inside a group, every drawing on the way through the body counts. -/
inductive Reachable (t : Resources K) : Drawing K → Prop where
  /-- Where a script starts. -/
  | initial : Reachable t Drawing.initial
  /-- After one more statement, whether it succeeds or fails. -/
  | execute {d : Drawing K} (h : Reachable t d) (s : Statement) :
    Reachable t (DiagramScript.execute t d s).2
  /-- Where the body of a group starts. -/
  | enter {d : Drawing K} (h : Reachable t d) {origin : Point K}
    (ho : stackingStart (d.setting t) true = .ok origin) : Reachable t (d.enter origin)

namespace Reachable

variable {d : Drawing K}

theorem run (h : d.Reachable t) (ss : List Statement) :
    (DiagramScript.run t d ss).2.Reachable t := by
  induction ss generalizing d with
  | nil =>
    rw [DiagramScript.run]
    exact h
  | cons s ss ih =>
    rw [DiagramScript.run]
    cases hs : (DiagramScript.execute t d s).1 with
    | error e => exact h.execute s
    | ok u => exact ih (h.execute s)

/-- The end of a script. -/
theorem of_run {ss : List Statement} {r : Except Failure Unit}
    (h : DiagramScript.run t Drawing.initial ss = (r, d)) : d.Reachable t := by
  have := (Reachable.initial (t := t)).run ss
  rwa [h] at this

/-- Statements in a row, where those that fail are skipped. -/
theorem foldl (h : d.Reachable t) (ss : List Statement) :
    (ss.foldl (fun d s => (DiagramScript.execute t d s).2) d).Reachable t := by
  induction ss generalizing d with
  | nil => exact h
  | cons s ss ih => exact ih (h.execute s)

/-- The scope of a drawing is there. -/
theorem scope_lt (h : d.Reachable t) : d.scope < d.registry.scopes.length := by
  induction h with
  | initial => exact Nat.one_pos
  | execute _ s ih => exact (execute_evolves s ih).lt ih
  | @enter d _ _ _ _ => exact d.registry.lt_openScope d.scope

end Reachable

end Drawing

end DiagramScript
