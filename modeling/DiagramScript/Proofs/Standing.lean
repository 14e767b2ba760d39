import DiagramScript.Registry
import Mathlib.Tactic.SplitIfs

/-!
# What is known of an object apart from its drawing

A registry counts objects, names them and keeps them in groups.  None of this depends on where an
object lies or how it is drawn.

* `Standing` — what a registry knows of an object, apart from its drawing.
* `Registry.standing?` — the standing of an object by its number.
* `standing?_modifyObject` and its like — what each change of a registry does to standings.
-/

namespace DiagramScript

variable {K : Type}

/-- A table under other names and with other entries. -/
theorem lookup_map {α β γ δ : Type} [BEq α] [LawfulBEq α] [BEq γ] [LawfulBEq γ] {f : α → γ}
    (hf : Function.Injective f) (g : β → δ) (table : List (α × β)) (k : α) :
    (table.map fun e => (f e.1, g e.2)).lookup (f k) = (table.lookup k).map g := by
  induction table with
  | nil => rfl
  | cons e table ih =>
    have same : (f k == f e.1) = (k == e.1) := Bool.eq_iff_iff.2 (by simpa using hf.eq_iff)
    rw [List.map_cons, List.lookup_cons, List.lookup_cons, ih, same]
    cases k == e.1 <;> rfl

/-- What a registry knows of an object, apart from its drawing. -/
structure Standing where
  /-- The number of the object. -/
  id : Nat
  /-- What kind of object it is. -/
  cls : ObjectClass
  /-- Its label. -/
  label : Option String := none
  /-- Its place among the objects of its class. -/
  ordinal : Nat := 0
  /-- The group it belongs to. -/
  parent : Option Nat := none
  /-- Its members. -/
  children : List Nat := []
  /-- Whether references can find it. -/
  finalized : Bool := false

/-- The standing of an object. -/
def Object.standing (o : Object K) : Standing where
  id := o.id
  cls := o.cls
  label := o.label
  ordinal := o.ordinal
  parent := o.parent
  children := o.children
  finalized := o.finalized

namespace Registry

variable (r : Registry K)

/-- The standing of an object by its number. -/
def standing? (id : Nat) : Option Standing := (r.arena[id]?).map Object.standing

theorem standing?_eq_some {id : Nat} {st : Standing} :
    r.standing? id = some st ↔ ∃ o, r.arena[id]? = some o ∧ o.standing = st :=
  Option.map_eq_some_iff

theorem exists_standing?_iff {id : Nat} {p : Standing → Prop} :
    (∃ st, r.standing? id = some st ∧ p st) ↔ ∃ o, r.arena[id]? = some o ∧ p o.standing := by
  simp only [standing?_eq_some]
  constructor
  · rintro ⟨_, ⟨o, ho, rfl⟩, h⟩
    exact ⟨o, ho, h⟩
  · rintro ⟨o, ho, h⟩
    exact ⟨_, ⟨o, ho, rfl⟩, h⟩

theorem lt_of_standing? {id : Nat} {st : Standing} (h : r.standing? id = some st) :
    id < r.arena.length := by
  obtain ⟨o, ho, -⟩ := r.standing?_eq_some.1 h
  exact (List.getElem?_eq_some_iff.1 ho).1

/-- Changing an object changes the standing of no other. -/
theorem standing?_modifyObject {id : Nat} {f : Object K → Object K} {g : Standing → Standing}
    (h : ∀ o, (f o).standing = g o.standing) (i : Nat) :
    (r.modifyObject id f).standing? i =
      (r.standing? i).map (if id = i then g else fun st => st) := by
  rw [standing?, standing?, modifyObject, List.getElem?_modify]
  cases r.arena[i]? with
  | none => rfl
  | some o =>
    by_cases hi : id = i
    · simp [hi, h]
    · simp [hi]

/-- Adds an object. -/
def append (o : Object K) : Registry K := { r with arena := r.arena ++ [o] }

theorem standing?_append_of_lt (o : Object K) {i : Nat} (h : i < r.arena.length) :
    (r.append o).standing? i = r.standing? i := by
  rw [standing?, append, List.getElem?_append_left h]
  rfl

theorem standing?_append_self (o : Object K) :
    (r.append o).standing? r.arena.length = some o.standing := by
  rw [standing?, append, List.getElem?_concat_length]
  rfl

variable {r}

theorem standing?_append {o : Object K} {i : Nat} {st : Standing}
    (h : r.standing? i = some st) : (r.append o).standing? i = some st :=
  (r.standing?_append_of_lt o (r.lt_of_standing? h)).trans h

theorem standing?_append_cases {o : Object K} {i : Nat} {st : Standing}
    (h : (r.append o).standing? i = some st) :
    r.standing? i = some st ∨ i = r.arena.length ∧ o.standing = st := by
  rcases Nat.lt_trichotomy i r.arena.length with hi | rfl | hi
  · exact .inl ((r.standing?_append_of_lt o hi).symm.trans h)
  · rw [standing?_append_self] at h
    exact .inr ⟨rfl, Option.some.inj h⟩
  · have := (r.append o).lt_of_standing? h
    rw [append, List.length_append, List.length_singleton] at this
    omega

variable (r)

/-! ## Scopes -/

theorem scope_modifyScope (s i : Nat) (f : Scope K → Scope K) :
    (r.modifyScope s f).scope i =
      if s = i ∧ i < r.scopes.length then f (r.scope i) else r.scope i := by
  rw [scope, scope, modifyScope, List.getElem?_modify]
  by_cases hi : i < r.scopes.length
  · rw [List.getElem?_eq_getElem hi]
    by_cases hs : s = i
    · simp [hs, hi]
    · simp [hs]
  · rw [List.getElem?_eq_none (Nat.le_of_not_lt hi)]
    simp [hi]

theorem scope_of_le {i : Nat} (h : r.scopes.length ≤ i) : r.scope i = {} := by
  rw [scope, List.getElem?_eq_none h]
  rfl

/-- A scope that is opened is the last. -/
theorem length_openScope (s : Nat) : (r.openScope s).2.scopes.length = r.scopes.length + 1 :=
  List.length_append

theorem lt_openScope (s : Nat) : r.scopes.length < (r.openScope s).2.scopes.length :=
  r.length_openScope s ▸ Nat.lt_succ_self _

/-- A scope that is opened knows no object yet. -/
theorem scope_openScope_self (s : Nat) : (r.openScope s).2.scope r.scopes.length =
    { parent := some s, bindings := (r.scope s).bindings } := by
  rw [scope, openScope, List.getElem?_concat_length]
  rfl

theorem scope_openScope_of_ne (s : Nat) {i : Nat} (h : i ≠ r.scopes.length) :
    (r.openScope s).2.scope i = r.scope i := by
  rcases Nat.lt_or_gt_of_ne h with hi | hi
  · rw [scope, openScope, List.getElem?_append_left hi]
    rfl
  · rw [scope_of_le _ (Nat.le_of_lt hi), scope_of_le]
    exact List.length_append ▸ hi

theorem scope_openScope {s i : Nat} (h : i < r.scopes.length) :
    (r.openScope s).2.scope i = r.scope i :=
  r.scope_openScope_of_ne s (Nat.ne_of_lt h)

/-- Opening a scope touches neither objects nor labels of any. -/
theorem exists_scope_openScope (s i : Nat) : ∃ parent bindings, (r.openScope s).2.scope i =
    { r.scope i with parent := parent, bindings := bindings } := by
  by_cases hi : i = r.scopes.length
  · rw [hi, scope_openScope_self, scope_of_le r (Nat.le_refl _)]
    exact ⟨_, _, rfl⟩
  · rw [scope_openScope_of_ne r s hi]
    exact ⟨_, _, rfl⟩

/-- A scope knows no object at the start. -/
theorem scope_initial [Arith K] (i : Nat) : ∃ bindings,
    (initial : Registry K).scope i = { bindings := bindings } := by
  cases i with
  | zero => exact ⟨_, rfl⟩
  | succ i => exact ⟨_, rfl⟩

end Registry

end DiagramScript
