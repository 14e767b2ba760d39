import DiagramScript.Proofs.FinishedObjects
import DiagramScript.Proofs.GroupMoves

/-!
# Declarations and their objects

A script that runs to its end makes one object for every declaration in it, the members of a group
before the group.  So the number of an object tells which declaration it comes from.

* `Declaration`, `declarationsOf` — the declarations of some statements, in the order in which their
  objects are numbered.
* `Declaration.Settles` — what declarations settle about their objects, once and for all.
* `run_declares` — statements that succeed settle it for every object they add.
* `Diagram.compile_objects` — the objects of a diagram are those that its script declares, and
  whatever is settled for them holds.
* `Diagram.compile_invariant` — so does whatever holds of objects from when they are finished.
-/

namespace DiagramScript

variable {K : Type}

/-! ## Declarations -/

/-- What a script says of an object. -/
structure Declaration where
  /-- Its class. -/
  cls : ObjectClass
  /-- Its label. -/
  label : Option String
  /-- Its clauses. -/
  attributes : List Attribute

mutual

/-- The declarations of a statement, those in a group before that of the group. -/
def Statement.declarations : Statement → List Declaration
  | .object _ cls label attributes => [⟨cls, label, attributes⟩]
  | .group _ body label attributes => declarationsOf body ++ [⟨.container, label, attributes⟩]
  | _ => []

/-- The declarations of some statements. -/
def declarationsOf : List Statement → List Declaration
  | [] => []
  | s :: ss => s.declarations ++ declarationsOf ss

end

/-- Statements that draw nothing declare nothing. -/
theorem Statement.declarations_aside {s : Statement} (h : s.draws = false) :
    s.declarations = [] := by
  cases s with
  | object => cases h
  | group => cases h
  | _ => simp [declarations]

/-! ## What declarations settle -/

variable [Arith K] {t : Resources K}

open Drawing

/-- A relation between objects and their declarations that holds when an object has been declared,
and that nothing changes afterwards. -/
structure Declaration.Settles (t : Resources K) (Q : Registry K → Nat → Declaration → Prop) :
    Prop where
  /-- It holds of an object as it has been drafted. -/
  declared : ∀ {d : Drawing K} {r : Registry K} {draft : Draft K} {exit : Option Direction}
    {n : Nat} {cls : ObjectClass} {label : Option String} {attributes : List Attribute},
    d.Reachable t →
    (d.create cls).2.draft t (d.create cls).1 cls attributes = .ok (draft, exit) →
    (∀ i < d.registry.arena.length, r.arena[i]? = d.registry.arena[i]?) →
    r.arena[d.registry.arena.length]? = some { draft.object.stamp d.serial with
      ordinal := n, finalized := true, label := label } →
    Q r d.registry.arena.length ⟨cls, label, attributes⟩
  /-- It holds of a group when the members have followed it to its place. -/
  grouped : ∀ {after d' : Drawing K} {inner first n : Nat} {origin : Point K}
    {full placed : Draft K} {label : Option String} {attributes : List Attribute},
    (after.create .container).2.groupDraft t after.registry.arena.length inner origin attributes =
      .ok (full, placed) →
    after.Wraps d' first { placed.object.stamp after.serial with
        children := (after.registry.scope inner).members
        ordinal := n, finalized := true, label := label }
      (placed.object.center.x - full.object.center.x)
      (placed.object.center.y - full.object.center.y) (after.serial + 1) →
    Q d'.registry after.registry.arena.length ⟨.container, label, attributes⟩
  /-- A group that is put around the object does not change it. -/
  wrapped : ∀ {after d' : Drawing K} {first : Nat} {group : Object K} {dx dy : K} {serial i : Nat}
    {decl : Declaration}, after.Wraps d' first group dx dy serial → first ≤ i →
    i < after.registry.arena.length → Q after.registry i decl → Q d'.registry i decl
  /-- Newer objects do not change it. -/
  later : ∀ {r r' : Registry K} {i : Nat} {decl : Declaration},
    (∀ j ≤ i, r'.arena[j]? = r.arena[j]?) → Q r i decl → Q r' i decl

/-- All other statements add nothing. -/
theorem arena_of_aside {d d' : Drawing K} {s : Statement} (h : execute t d s = (.ok (), d'))
    (hs : s.draws = false) : d'.registry.arena = d.registry.arena :=
  (Notes.of_execute h hs).aside.1

variable {Q : Registry K → Nat → Declaration → Prop}

mutual

/-- A statement that succeeds adds the objects that it declares. -/
theorem execute_declares (hQ : Declaration.Settles t Q) {d d' : Drawing K} {s : Statement}
    (hd : d.Reachable t) (h : execute t d s = (.ok (), d')) :
    d'.registry.arena.length = d.registry.arena.length + s.declarations.length ∧
      ∀ k decl, s.declarations[k]? = some decl →
        Q d'.registry (d.registry.arena.length + k) decl := by
  cases s with
  | object p cls label attributes =>
    rw [execute] at h
    have h := Outcome.of_locate h
    rw [Statement.declarations]
    obtain ⟨draft, exit, n, drafted, -, older, found⟩ := exists_of_declare_eq_ok h
    refine ⟨(declare_counts _ _ h).1, fun k decl hk => ?_⟩
    cases k with
    | zero =>
      cases hk
      exact hQ.declared hd drafted older found
    | succ k => cases hk
  | group p body label attributes =>
    obtain ⟨origin, inside, ho, hr, hg⟩ := exists_of_execute_group_eq_ok h
    obtain ⟨count, within⟩ := run_declares hQ (hd.enter ho) hr
    obtain ⟨full, placed, n, drafted, -, wraps⟩ := exists_wraps hd.isOrdered hr hg
    have count : inside.registry.arena.length =
        d.registry.arena.length + (declarationsOf body).length := count
    rw [Statement.declarations]
    constructor
    · rw [wraps.count, List.length_append, List.length_singleton, ← Nat.add_assoc, ← count]
      rfl
    · intro k decl hk
      rcases Nat.lt_trichotomy k (declarationsOf body).length with hlt | rfl | hgt
      · rw [List.getElem?_append_left hlt] at hk
        refine hQ.wrapped wraps (Nat.le_add_right ..) ?_ (within k decl hk)
        exact (Nat.add_lt_add_left hlt _).trans_eq count.symm
      · rw [List.getElem?_concat_length] at hk
        cases hk
        rw [← count]
        show Q d'.registry (inside.leave d).registry.arena.length _
        exact hQ.grouped drafted wraps
      · rw [List.getElem?_eq_none (by simp; omega)] at hk
        cases hk
  | _ =>
    have same := arena_of_aside h rfl
    rw [Statement.declarations_aside rfl]
    exact ⟨congrArg List.length same, fun k decl hk => nomatch hk⟩

/-- Statements that succeed add the objects that they declare. -/
theorem run_declares (hQ : Declaration.Settles t Q) {d d' : Drawing K} {ss : List Statement}
    (hd : d.Reachable t) (h : run t d ss = (.ok (), d')) :
    d'.registry.arena.length = d.registry.arena.length + (declarationsOf ss).length ∧
      ∀ k decl, (declarationsOf ss)[k]? = some decl →
        Q d'.registry (d.registry.arena.length + k) decl := by
  cases ss with
  | nil =>
    rw [run] at h
    cases h
    rw [declarationsOf]
    exact ⟨rfl, fun k decl hk => nomatch hk⟩
  | cons s ss =>
    obtain ⟨e, hs, hr⟩ := exists_of_run_cons_eq_ok h
    have he : e.Reachable t := by
      have := hd.execute s
      rwa [hs] at this
    obtain ⟨count, first⟩ := execute_declares hQ hd hs
    obtain ⟨count', rest⟩ := run_declares hQ he hr
    have older := (run_evolves (t := t) ss he.scope_lt).registry.frame.objects
    rw [hr] at older
    rw [declarationsOf, List.length_append]
    refine ⟨by omega, fun k decl hk => ?_⟩
    rcases Nat.lt_or_ge k s.declarations.length with hlt | hge
    · rw [List.getElem?_append_left hlt] at hk
      exact hQ.later (fun j hj => older j (by omega)) (first k decl hk)
    · rw [List.getElem?_append_right hge] at hk
      have number : e.registry.arena.length + (k - s.declarations.length) =
          d.registry.arena.length + k := by omega
      exact number ▸ rest _ decl hk

end

/-! ## Diagrams -/

/-- Whether an object is of the class that a declaration asks for, and has its label. -/
def Registry.Answers (r : Registry K) (i : Nat) (decl : Declaration) : Prop :=
  ∃ o, r.arena[i]? = some o ∧ o.cls = decl.cls ∧ o.label = decl.label

theorem Registry.answers_settles : Declaration.Settles t (Registry.Answers (K := K)) where
  declared _ drafted _ found :=
    ⟨_, found, congrArg Standing.cls (draft_standing _ _ _ _ drafted), rfl⟩
  grouped drafted wraps :=
    ⟨_, wraps.found, congrArg Standing.cls (groupDraft_standing _ _ _ _ _ drafted), rfl⟩
  wrapped wraps hi hlt := by
    rintro ⟨o, ho, cls, label⟩
    refine ⟨_, (wraps.moved _ hi hlt).trans (congrArg _ ho), ?_⟩
    exact ⟨(o.enclosed_cls ..).trans cls, (o.enclosed_label ..).trans label⟩
  later same := by
    rintro ⟨o, ho, h⟩
    exact ⟨o, (same _ (Nat.le_refl _)).trans ho, h⟩

/-- What declarations settle holds of the objects of every diagram. -/
theorem Diagram.compile_declared (hQ : Declaration.Settles t Q) {source : String} {d : Diagram K}
    (h : Diagram.compile t source = .ok d) :
    ∃ ss, Program.ofSource t.colors source = .ok ss ∧
      d.registry.arena.length = (declarationsOf ss).length ∧
      ∀ k decl, (declarationsOf ss)[k]? = some decl → Q d.registry k decl := by
  obtain ⟨ss, e, statements, hr, rfl⟩ := Diagram.compile_eq_ok.1 h
  obtain ⟨count, settled⟩ := run_declares hQ .initial hr
  have none : (Drawing.initial : Drawing K).registry.arena.length = 0 := rfl
  rw [none, Nat.zero_add] at count
  refine ⟨ss, statements, count, fun k decl hk => ?_⟩
  have := settled k decl hk
  rwa [none, Nat.zero_add] at this

/-- The objects of a diagram are those that its script declares, and what declarations settle holds
of them. -/
theorem Diagram.compile_objects (hQ : Declaration.Settles t Q) {source : String} {d : Diagram K}
    (h : Diagram.compile t source = .ok d) :
    ∃ ss, Program.ofSource t.colors source = .ok ss ∧
      d.allObjects.length = (declarationsOf ss).length ∧
      ∀ o ∈ d.allObjects, ∃ decl, (declarationsOf ss)[o.id]? = some decl ∧ o.cls = decl.cls ∧
        o.label = decl.label ∧ d.registry.arena[o.id]? = some o ∧ Q d.registry o.id decl := by
  obtain ⟨ss, statements, count, answers⟩ := compile_declared Registry.answers_settles h
  obtain ⟨_, statements', -, settled⟩ := compile_declared hQ h
  cases statements.symm.trans statements'
  obtain ⟨_, e, -, hr, rfl⟩ := compile_eq_ok.1 h
  have forest := isForest_of_run hr
  refine ⟨ss, statements, forest.each.length_eq.trans count, fun o ho => ?_⟩
  have here : e.registry.arena[o.id]? = some o :=
    (Drawing.Reachable.of_run hr).counted.mem_arena.1 (forest.each.mem_iff.1 ho)
  have hdecl := List.getElem?_eq_getElem (count ▸ (List.getElem?_eq_some_iff.1 here).1)
  obtain ⟨x, hx, cls, label⟩ := answers _ _ hdecl
  cases here.symm.trans hx
  exact ⟨_, hdecl, cls, label, here, settled _ _ hdecl⟩

/-- What holds of objects from when they are finished holds of all objects of a diagram. -/
theorem Diagram.compile_invariant {P : Object K → Prop} (hP : Object.Invariant t P)
    {source : String} {d : Diagram K} (h : Diagram.compile t source = .ok d) :
    ∀ o ∈ d.allObjects, P o := by
  obtain ⟨_, e, -, hr, rfl⟩ := compile_eq_ok.1 h
  have forest := isForest_of_run hr
  intro o ho
  have listed : o ∈ e.registry.finished := forest.finished.symm ▸ forest.each.mem_iff.1 ho
  obtain ⟨listed, finished⟩ := List.mem_filter.1 listed
  exact (Drawing.Reachable.of_run hr).invariant hP o listed finished

end DiagramScript
