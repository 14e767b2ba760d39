import DiagramScript.Proofs.Declarations
import DiagramScript.Proofs.FoundObjects

/-!
# What is true of all objects of some scripts

`Object.Invariant` is about properties that every object has.  Other properties hold only as long as
all declarations of a script are of some kind, because objects are made from each other: what one
declaration spoils, another copies.

* `Declaration.Keeps` — a property that objects have if their declarations, and those of all objects
  before them, are of some kind.
* `run_keeps` — the objects of statements that succeed have it.
* `Diagram.compile_keeps` — so do those of a diagram.
-/

namespace DiagramScript

variable {K : Type} [Arith K] {t : Resources K}

/-- A property that the object of every declaration of some kind has if the objects before it have
it, and that no object loses. -/
structure Declaration.Keeps (t : Resources K) (A : Declaration → Prop) (P : Object K → Prop) :
    Prop where
  /-- Moving an object keeps it. -/
  moved : ∀ {o : Object K} (dx dy : K) (serial : Nat), P o → P ((o.translate dx dy).stamp serial)
  /-- So does writing it down. -/
  stamped : ∀ {o : Object K} (serial : Nat), P o → P (o.stamp serial)
  /-- It does not depend on what a registry knows of the object. -/
  known : ∀ {o : Object K} (label : Option String) (ordinal : Nat) (parent : Option Nat)
    (children : List Nat) (finalized : Bool), P o → P { o with
      label := label, ordinal := ordinal, parent := parent, children := children
      finalized := finalized }
  /-- The object of every such declaration has it. -/
  declared : ∀ {d : Drawing K} {cls : ObjectClass} {label : Option String}
    {attributes : List Attribute}, (d.create cls).2.registry.IsSound →
    (∀ o ∈ d.registry.arena, P o) → A ⟨cls, label, attributes⟩ →
    Ensures (fun p => P p.1.object)
      ((d.create cls).2.draft t (d.create cls).1 cls attributes)
  /-- So has every such group. -/
  grouped : ∀ {d : Drawing K} {inner : Nat} {origin : Point K} {label : Option String}
    {attributes : List Attribute}, (d.create .container).2.registry.IsSound →
    (∀ o ∈ d.registry.arena, P o) → A ⟨.container, label, attributes⟩ →
    Ensures (fun p => P p.2.object)
      ((d.create .container).2.groupDraft t d.registry.arena.length inner origin attributes)

namespace Declaration.Keeps

variable {A : Declaration → Prop} {P : Object K → Prop}

omit [Arith K] in
/-- A property of all objects of a registry, and of one that is added. -/
theorem forall_of_newest {r r' : Registry K} {new : Object K}
    (count : r'.arena.length = r.arena.length + 1)
    (found : r'.arena[r.arena.length]? = some new) (hn : P new)
    (older : ∀ i < r.arena.length, ∀ o, r'.arena[i]? = some o → P o) : ∀ o ∈ r'.arena, P o := by
  intro o ho
  obtain ⟨i, hi⟩ := List.mem_iff_getElem?.1 ho
  have bound := (List.getElem?_eq_some_iff.1 hi).1
  rcases Nat.lt_or_ge i r.arena.length with hlt | hge
  · exact older i hlt o hi
  · obtain rfl : i = r.arena.length := by omega
    cases found.symm.trans hi
    exact hn

/-- Being taken along by a group keeps the property. -/
theorem enclosed (hK : Keeps t A P) {o : Object K} (ho : P o) (dx dy : K) (serial group : Nat)
    (roots : List Nat) : P (o.enclosed dx dy serial group roots) := by
  have adopted := hK.known o.label o.ordinal (if o.id ∈ roots then some group else o.parent)
    o.children o.finalized ho
  rw [Object.enclosed, Object.carry]
  by_cases still : (Arith.isZero dx && Arith.isZero dy) = true
  · rw [if_pos still]
    exact adopted
  · rw [if_neg still]
    exact hK.moved dx dy serial adopted

end Declaration.Keeps

open Drawing

variable {A : Declaration → Prop} {P : Object K → Prop}

mutual

/-- A statement that succeeds, and whose declarations are of the kind, keeps the property. -/
theorem execute_keeps (hK : Declaration.Keeps t A P) {d d' : Drawing K} {s : Statement}
    (hd : d.Reachable t) (h : execute t d s = (.ok (), d'))
    (kind : ∀ decl ∈ s.declarations, A decl) (old : ∀ o ∈ d.registry.arena, P o) :
    ∀ o ∈ d'.registry.arena, P o := by
  cases s with
  | object p cls label attributes =>
    rw [execute] at h
    have h := Outcome.of_locate h
    rw [Statement.declarations] at kind
    obtain ⟨draft, exit, n, drafted, -, older, found⟩ := exists_of_declare_eq_ok h
    have property : P draft.object :=
      hK.declared (hd.create_isSound cls) old (kind _ (List.mem_singleton_self _)) _ drafted
    refine Declaration.Keeps.forall_of_newest (declare_counts _ _ h).1 found ?_ fun i hi o ho => ?_
    · exact hK.known label n draft.object.parent draft.object.children true
        (hK.stamped d.serial property)
    · exact old o (List.mem_of_getElem? ((older i hi).symm.trans ho))
  | group p body label attributes =>
    obtain ⟨origin, inside, ho, hr, hg⟩ := exists_of_execute_group_eq_ok h
    rw [Statement.declarations] at kind
    have entered := hd.enter ho
    have within := run_keeps hK entered hr
      (fun decl hm => kind decl (List.mem_append_left _ hm)) old
    have reached : inside.Reachable t := by
      have := entered.run body
      rwa [hr] at this
    obtain ⟨full, placed, n, drafted, -, wraps⟩ := exists_wraps hd.isOrdered hr hg
    have sound : ((inside.leave d).create .container).2.registry.IsSound :=
      reached.isSound_of_evolves (.create inside.scope inside.registry .container _)
    have own : A ⟨.container, label, attributes⟩ :=
      kind _ (List.mem_append_right _ (List.mem_singleton_self _))
    have property : P placed.object := hK.grouped (d := inside.leave d) sound within own _ drafted
    refine Declaration.Keeps.forall_of_newest wraps.count wraps.found ?_ fun i hi o ho => ?_
    · exact hK.known label n placed.object.parent _ true (hK.stamped inside.serial property)
    · rcases Nat.lt_or_ge i d.registry.arena.length with before | after
      · exact within o (List.mem_of_getElem? ((wraps.older i before).symm.trans ho))
      · rw [wraps.moved i after hi] at ho
        obtain ⟨x, hx, rfl⟩ := Option.map_eq_some_iff.1 ho
        exact hK.enclosed (within x (List.mem_of_getElem? hx)) _ _ _ _ _
  | _ =>
    rw [arena_of_aside h rfl]
    exact old

/-- So do statements in a row. -/
theorem run_keeps (hK : Declaration.Keeps t A P) {d d' : Drawing K} {ss : List Statement}
    (hd : d.Reachable t) (h : run t d ss = (.ok (), d'))
    (kind : ∀ decl ∈ declarationsOf ss, A decl) (old : ∀ o ∈ d.registry.arena, P o) :
    ∀ o ∈ d'.registry.arena, P o := by
  cases ss with
  | nil =>
    rw [run] at h
    cases h
    exact old
  | cons s ss =>
    obtain ⟨e, hs, hr⟩ := exists_of_run_cons_eq_ok h
    have he : e.Reachable t := by
      have := hd.execute s
      rwa [hs] at this
    rw [declarationsOf] at kind
    have first := execute_keeps hK hd hs (fun decl hm => kind decl (List.mem_append_left _ hm)) old
    exact run_keeps hK he hr (fun decl hm => kind decl (List.mem_append_right _ hm)) first

end

/-- The objects of a diagram have the property if all its declarations are of the kind. -/
theorem Diagram.compile_keeps (hK : Declaration.Keeps t A P) {source : String} {d : Diagram K}
    (h : Diagram.compile t source = .ok d) :
    ∃ ss, Program.ofSource t.colors source = .ok ss ∧
      ((∀ decl ∈ declarationsOf ss, A decl) → ∀ o ∈ d.registry.arena, P o) := by
  obtain ⟨ss, e, statements, hr, rfl⟩ := Diagram.compile_eq_ok.1 h
  refine ⟨ss, statements, fun kind => run_keeps hK .initial hr kind fun o ho => ?_⟩
  cases ho

end DiagramScript
