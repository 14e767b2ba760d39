import DiagramScript.Proofs.BracketedDrawing
import DiagramScript.Proofs.Nesting
import Mathlib.Data.List.Infix
import Mathlib.Logic.Relation

/-!
# The objects of a diagram

The objects of a diagram form a forest, in which no object is lost and none stands twice.

* `Shape.mem_below_iff`, `Shape.infix_below` — what an object holds comes right after it when one
  goes through the trees.
* `Registry.Nested.mem_children_iff` — groups and members know each other.
* `Diagram.IsForest` — what it means that the objects of a diagram form a forest.
* `Diagram.compile_isForest` — those of every script do.
-/

namespace DiagramScript

/-! ## Trees -/

namespace Shape

variable {sh : Shape}

/-- Whatever is met on the way through some trees is a root of them or a member of a group. -/
theorem mem_trees {ids : List Nat} {x : Nat} (h : x ∈ sh.trees ids) :
    x ∈ ids ∨ ∃ p, x ∈ sh.members p := by
  have inside : ∀ {depth i}, x ∈ sh.below depth i → ∃ p, x ∈ sh.members p := by
    intro depth
    induction depth with
    | zero =>
      intro i hx
      cases hx
    | succ depth ih =>
      intro i hx
      obtain ⟨c, hc, hx⟩ := List.mem_flatMap.1 hx
      rcases List.mem_cons.1 hx with rfl | hx
      · exact ⟨i, hc⟩
      · exact ih hx
  obtain ⟨i, hi, hx⟩ := List.mem_flatMap.1 h
  rcases List.mem_cons.1 hx with rfl | hx
  · exact .inl hi
  · exact .inr (inside hx)

/-- An object holds its members, their members, and so on. -/
theorem mem_below_iff (h : sh.IsOrdered) {x i : Nat} :
    x ∈ sh.below i i ↔ Relation.TransGen (fun c p => c ∈ sh.members p) x i := by
  constructor
  · intro hx
    induction i using Nat.strongRecOn with
    | ind i ih =>
      rw [below_self h] at hx
      obtain ⟨c, hc, hx⟩ := List.mem_flatMap.1 hx
      rcases List.mem_cons.1 hx with rfl | hx
      · exact .single hc
      · exact .tail (ih c (h i c hc) hx) hc
  · intro hx
    induction hx with
    | single hc =>
      rw [below_self h]
      exact List.mem_flatMap.2 ⟨x, hc, List.mem_cons_self⟩
    | @tail b i _ hb ih =>
      rw [below_self h]
      exact List.mem_flatMap.2 ⟨b, hb, List.mem_cons_of_mem _ ih⟩

/-- What an object holds comes right after it. -/
theorem infix_below (h : sh.IsOrdered) {x i : Nat} (hx : x ∈ i :: sh.below i i) :
    (x :: sh.below x x) <:+: (i :: sh.below i i) := by
  induction i using Nat.strongRecOn with
  | ind i ih =>
    rcases List.mem_cons.1 hx with rfl | hx
    · exact List.infix_rfl
    · rw [below_self h] at hx
      obtain ⟨c, hc, hx⟩ := List.mem_flatMap.1 hx
      have inside := (ih c (h i c hc) hx).trans
        (List.infix_flatMap_of_mem hc fun c => c :: sh.below c c)
      rw [← trees, ← below_self h] at inside
      exact inside.trans (List.suffix_cons ..).isInfix

end Shape

variable {K : Type}

namespace Registry

variable {r : Registry K}

/-! ## Objects by their numbers -/

theorem mem_members {c p : Nat} :
    c ∈ r.shape.members p ↔ ∃ st, r.standing? p = some st ∧ c ∈ st.children := by
  rw [Shape.members, shape, List.getElem?_map, standing?]
  cases r.arena[p]? with
  | none => simp
  | some o =>
    simp only [Option.map_some, Option.getD_some, Option.some.injEq, exists_eq_left']
    rfl

theorem objects_range : r.objects (List.range r.arena.length) = r.arena := by
  have all : ∀ os : List (Object K), (List.range os.length).filterMap (os[·]?) = os := by
    intro os
    induction os using List.reverseRecOn with
    | nil => rfl
    | append_singleton os o ih =>
      rw [List.length_append, List.length_singleton, List.range_succ, List.filterMap_append]
      congr 1
      · refine (List.filterMap_congr fun k hk => ?_).trans ih
        rw [List.getElem?_append_left (List.mem_range.1 hk)]
      · simp
  exact all r.arena

/-- A group knows a member exactly if the member knows the group. -/
theorem Nested.mem_children_iff (h : r.Nested) {c p : Nat} :
    (∃ st, r.standing? p = some st ∧ c ∈ st.children) ↔
      ∃ st, r.standing? c = some st ∧ st.parent = some p := by
  constructor
  · rintro ⟨st, hst, hc⟩
    obtain ⟨s, hs⟩ := h.holder hst (List.ne_nil_of_mem hc)
    obtain ⟨st', hst', -, members⟩ := h.group hs
    cases hst.symm.trans hst'
    exact h.known hs (members ▸ hc)
  · rintro ⟨st, hst, hp⟩
    obtain ⟨s, hs, hc⟩ := h.member hst hp
    obtain ⟨st', hst', -, members⟩ := h.group hs
    exact ⟨st', hst', members.symm ▸ hc⟩

/-! ## Whole registries -/

section Whole

variable (hc : r.Counted) (hn : r.Nested) (hp : Planted 0 r.shape (r.scope 0).members)

include hp in
/-- The objects of the top level and what they hold are all the objects. -/
theorem trees_perm : (r.shape.trees (r.scope 0).members).Perm (List.range r.arena.length) := by
  rw [← length_shape]
  exact hp.perm_range

include hp in
theorem mem_trees_iff {id : Nat} :
    id ∈ r.shape.trees (r.scope 0).members ↔ id < r.arena.length := by
  rw [(trees_perm hp).mem_iff, List.mem_range]

include hn hp in
/-- Objects are at the top level, or members of a group. -/
theorem top_or_member {id : Nat} (h : id < r.arena.length) :
    id ∈ (r.scope 0).members ∨ ∃ st g, r.standing? id = some st ∧ st.parent = some g := by
  rcases Shape.mem_trees ((mem_trees_iff hp).2 h) with top | ⟨g, hg⟩
  · exact .inl top
  · obtain ⟨st, hst, hg⟩ := hn.mem_children_iff.1 (mem_members.1 hg)
    exact .inr ⟨st, g, hst, hg⟩

include hc hn hp in
/-- No object is left unfinished. -/
theorem all_finished {id : Nat} {st : Standing} (h : r.standing? id = some st) :
    st.finalized = true := by
  have member : ∃ s, id ∈ (r.scope s).members := by
    rcases top_or_member hn hp (r.lt_of_standing? h) with top | ⟨st', g, hst, hg⟩
    · exact ⟨0, top⟩
    · obtain ⟨s, -, hm⟩ := hn.member hst hg
      exact ⟨s, hm⟩
  obtain ⟨s, hm⟩ := member
  obtain ⟨st', hst, finished⟩ := hc.finished hm
  cases h.symm.trans hst
  exact finished

include hc hn hp in
/-- The objects of the top level are those that are in no group. -/
theorem top_iff (ho : r.IsOpen 0) {id : Nat} {st : Standing} (h : r.standing? id = some st) :
    id ∈ (r.scope 0).members ↔ st.parent = none := by
  constructor
  · intro top
    cases hg : st.parent with
    | none => rfl
    | some g =>
      obtain ⟨s, hs, hm⟩ := hn.member h hg
      rw [hc.apart hm top] at hs
      exact absurd hs (ho g)
  · intro none
    rcases top_or_member hn hp (r.lt_of_standing? h) with top | ⟨st', g, hst, hg⟩
    · exact top
    · cases h.symm.trans hst
      rw [none] at hg
      cases hg

end Whole

theorem mem_objects {ids : List Nat} {o : Object K} :
    o ∈ r.objects ids ↔ ∃ id ∈ ids, r.arena[id]? = some o :=
  List.mem_filterMap

/-- Objects are found by their numbers. -/
theorem Counted.mem_arena (h : r.Counted) {o : Object K} :
    o ∈ r.arena ↔ r.arena[o.id]? = some o := by
  constructor
  · intro ho
    obtain ⟨i, hi⟩ := List.mem_iff_getElem?.1 ho
    have number : o.id = i := h.numbered ((r.standing?_eq_some).2 ⟨o, hi, rfl⟩)
    rw [number]
    exact hi
  · exact List.mem_of_getElem?

theorem Counted.standing?_eq (h : r.Counted) {o : Object K} (ho : o ∈ r.arena) :
    r.standing? o.id = some o.standing :=
  r.standing?_eq_some.2 ⟨o, h.mem_arena.1 ho, rfl⟩

theorem Counted.mem_objects_iff (h : r.Counted) {ids : List Nat} {o : Object K} :
    o ∈ r.objects ids ↔ o ∈ r.arena ∧ o.id ∈ ids := by
  rw [mem_objects]
  constructor
  · rintro ⟨id, hid, ho⟩
    have number : o.id = id := h.numbered ((r.standing?_eq_some).2 ⟨o, ho, rfl⟩)
    exact ⟨List.mem_of_getElem? ho, number.symm ▸ hid⟩
  · rintro ⟨ho, hid⟩
    exact ⟨o.id, hid, h.mem_arena.1 ho⟩

end Registry

/-! ## Diagrams -/

namespace Diagram

/-- Whether an object is a member of a group. -/
def IsMember (d : Diagram K) (c g : Nat) : Prop := ∃ o, d.object? c = some o ∧ o.parent = some g

/-- The objects of a diagram form a forest. -/
structure IsForest (d : Diagram K) : Prop where
  /-- Objects have the numbers from 0 on, in the order of creation. -/
  numbered : d.registry.arena.map (·.id) = List.range d.registry.arena.length
  /-- All of them are finished. -/
  finished : d.registry.finished = d.registry.arena
  /-- Going through the trees meets each of them once. -/
  each : d.allObjects.Perm d.registry.arena
  /-- Each is followed by all that lies in it, at every depth. -/
  followed : ∀ o ∈ d.registry.arena, ∃ inside, (o :: inside) <:+: d.allObjects ∧
    ∀ x, x ∈ inside ↔ x ∈ d.registry.arena ∧ Relation.TransGen d.IsMember x.id o.id
  /-- Groups and members know each other. -/
  members : ∀ c g, (∃ o, d.object? g = some o ∧ c ∈ o.children) ↔ d.IsMember c g
  /-- Members are numbered before their group. -/
  smaller : ∀ o ∈ d.registry.arena, ∀ c ∈ o.children, c < o.id
  /-- The objects of the top level are those that are in no group. -/
  top : ∀ o, o ∈ d.objects ↔ o ∈ d.registry.arena ∧ o.parent = none
  /-- Only groups have members. -/
  groups : ∀ o ∈ d.registry.arena, o.children ≠ [] → o.cls = .container

theorem isForest {d : Diagram K} (hc : d.registry.Counted) (hn : d.registry.Nested)
    (ho : d.registry.IsOpen 0) (hp : Planted 0 d.registry.shape d.top) : d.IsForest := by
  have ordered := hp.isOrdered
  have standing : ∀ {o}, o ∈ d.registry.arena → d.registry.standing? o.id = some o.standing :=
    fun h => (d.registry.standing?_eq_some).2 ⟨_, hc.mem_arena.1 h, rfl⟩
  have all : d.allObjects = d.registry.objects (d.registry.shape.trees d.top) := by
    rw [← Registry.trees_eq hp]
    rfl
  have members : ∀ c g, c ∈ d.registry.shape.members g ↔ d.IsMember c g := by
    intro c g
    rw [Registry.mem_members, hn.mem_children_iff]
    exact d.registry.exists_standing?_iff
  constructor
  · refine List.ext_getElem (by simp) fun i hi _ => ?_
    rw [List.length_map] at hi
    rw [List.getElem_map, List.getElem_range]
    exact hc.numbered ((d.registry.standing?_eq_some).2 ⟨_, List.getElem?_eq_getElem hi, rfl⟩)
  · refine List.filter_eq_self.2 fun o h => ?_
    exact Registry.all_finished hc hn hp (standing h)
  · rw [all, ← Registry.objects_range]
    exact (Registry.trees_perm hp).filterMap _
  · intro o h
    refine ⟨d.registry.objects (d.registry.shape.below o.id o.id), ?_, fun x => ?_⟩
    · have listed := (Registry.mem_trees_iff hp).2 (d.registry.lt_of_standing? (standing h))
      obtain ⟨i, hi, inside⟩ := List.mem_flatMap.1 listed
      have run := (Shape.infix_below ordered inside).trans
        (List.infix_flatMap_of_mem hi fun i => i :: d.registry.shape.below i i)
      rw [all, Registry.objects, Registry.objects,
        ← List.filterMap_cons_some (f := (d.registry.arena[·]?)) (hc.mem_arena.1 h)]
      exact run.filterMap _
    · rw [hc.mem_objects_iff, Shape.mem_below_iff ordered]
      simp only [members]
  · intro c g
    rw [← members, Registry.mem_members]
    exact (d.registry.exists_standing?_iff (p := fun st => c ∈ st.children)).symm
  · intro o h c hm
    exact ordered o.id c (Registry.mem_members.2 ⟨_, standing h, hm⟩)
  · intro o
    rw [objects, hc.mem_objects_iff]
    exact and_congr_right fun h => Registry.top_iff hc hn hp ho (standing h)
  · intro o h hne
    obtain ⟨s, hs⟩ := hn.holder (standing h) hne
    obtain ⟨st, hst, cls, -⟩ := hn.group hs
    cases (standing h).symm.trans hst
    exact cls

/-- A run that succeeds leaves a forest behind. -/
theorem isForest_of_run [Arith K] {t : Resources K} {ss : List Statement} {e : Drawing K}
    (hr : run t Drawing.initial ss = (.ok (), e)) : (ofDrawing e).IsForest := by
  obtain ⟨added, roots, grown⟩ := run_grows hr Nat.one_pos
  have planted : Planted 0 e.registry.shape (e.registry.scope 0).members := by
    rw [grown.shape, show (e.registry.scope 0).members = roots from grown.here]
    exact grown.planted
  have reached := (Drawing.Reachable.initial (t := t)).run ss
  rw [hr] at reached
  obtain ⟨nested, isOpen⟩ := reached.nested
  have top : e.scope = 0 := grown.scope
  exact isForest reached.counted nested (top ▸ isOpen) planted

/-- The objects of every script form a forest. -/
theorem compile_isForest [Arith K] {t : Resources K} {source : String} {d : Diagram K}
    (h : compile t source = .ok d) : d.IsForest := by
  obtain ⟨_, _, -, hr, rfl⟩ := compile_eq_ok.1 h
  exact isForest_of_run hr

/-- A box, and a group of a circle and of a group with an arrow in it. -/
theorem compile_isForest_nested : ∃ d : Diagram MachineNumber,
    compile Resources.standard "box; [circle; [arrow]]" = .ok d ∧
    d.allObjects.map (·.id) = [0, 4, 1, 3, 2] ∧
    d.registry.arena.map (·.parent) = [none, some 4, some 3, some 4, none] ∧ d.IsForest := by
  let ss : List Statement :=
    [.object ⟨1, 1⟩ .box none [], .group ⟨1, 6⟩ [.object ⟨1, 7⟩ .circle none [],
      .group ⟨1, 15⟩ [.object ⟨1, 16⟩ .arrow none []] none []] none []]
  have statements : Program.ofSource .standard "box; [circle; [arrow]]" = .ok ss := by
    cbv
  have drawn : ((ofStatements (Resources.standard : Resources MachineNumber) ss).toOption.map
      fun d => (d.allObjects.map (·.id), d.registry.arena.map (·.parent))) =
        some ([0, 4, 1, 3, 2], [none, some 4, some 3, some 4, none]) := by
    decide +kernel
  obtain ⟨d, compiled, listed⟩ :=
    exists_compile_eq_ok (t := Resources.standard) statements drawn
  obtain ⟨order, parents⟩ := Prod.mk.inj listed
  exact ⟨d, compiled, order, parents, compile_isForest compiled⟩

end Diagram

end DiagramScript
