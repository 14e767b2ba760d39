import DiagramScript.Proofs.RunEvolution

/-!
# Variables that are always there

A script starts with some variables.  It can set them but not take them away, and a group starts
with the variables around it.  So every scope has them all at any time, and what asks for one of
them gets a value.

* `Scope.KnowsBuiltins`, `Registry.KnowsBuiltins` — scopes with these variables.
* `Registry.Evolves.knowsBuiltins` — no statement takes one away.
* `Drawing.Reachable.knowsBuiltins` — the scopes of a drawing have them.
* `View.KnowsBuiltins`, `Drawing.knowsBuiltins_view` — asking for one of them.
-/

namespace DiagramScript

variable {K : Type}

/-! ## Scopes -/

/-- Whether a scope has all the variables that scripts start with. -/
def Scope.KnowsBuiltins (sc : Scope K) : Prop :=
  ∀ name, isBuiltinVariable name = true → (Variables.get? sc.bindings name).isSome = true

theorem Scope.knowsBuiltins_initial [Arith K] :
    ({ bindings := Variables.initial } : Scope K).KnowsBuiltins := by
  intro name known
  let value : Bool × Nat × Nat → K := fun e =>
    let x : K := Arith.dec e.2.1 e.2.2
    if e.1 then -x else x
  have found : Variables.get? Variables.initial name = (builtinVariables.lookup name).map value :=
    lookup_map Function.injective_id value builtinVariables name
  rw [found, Option.isSome_map]
  exact known

/-- A variable that is set is there, and the others stay. -/
theorem Scope.KnowsBuiltins.set {sc : Scope K} (h : sc.KnowsBuiltins) (name : String) (value : K) :
    ({ sc with bindings := sc.bindings.set name value } : Scope K).KnowsBuiltins := by
  intro other known
  dsimp only
  by_cases hn : other = name
  · rw [hn, Variables.get?_set_self]
    rfl
  · rw [Variables.get?_set_of_ne value hn]
    exact h other known

/-! ## Registries -/

/-- Whether all scopes have the variables that scripts start with. -/
def Registry.KnowsBuiltins (r : Registry K) : Prop :=
  ∀ s < r.scopes.length, (r.scope s).KnowsBuiltins

namespace Registry

variable {r r' : Registry K} {s : Nat}

theorem KnowsBuiltins.of_scopes (h : r.KnowsBuiltins) (same : r'.scopes = r.scopes) :
    r'.KnowsBuiltins := by
  intro i hi
  rw [same] at hi
  rw [scope, same]
  exact h i hi

theorem KnowsBuiltins.modifyScope (h : r.KnowsBuiltins) {f : Scope K → Scope K}
    (hf : ∀ sc, sc.KnowsBuiltins → (f sc).KnowsBuiltins) : (r.modifyScope s f).KnowsBuiltins := by
  intro i hi
  have inside : i < r.scopes.length := List.length_modify .. ▸ hi
  rw [scope_modifyScope]
  split_ifs
  · exact hf _ (h i inside)
  · exact h i inside

/-- A new scope starts with the variables of the scope around it. -/
theorem KnowsBuiltins.openScope (h : r.KnowsBuiltins) (hs : s < r.scopes.length) :
    (r.openScope s).2.KnowsBuiltins := by
  intro i hi
  by_cases inside : i = r.scopes.length
  · rw [inside, scope_openScope_self]
    exact h s hs
  · rw [length_openScope] at hi
    rw [scope_openScope_of_ne r s inside]
    exact h i (by omega)

variable [Arith K]

theorem knowsBuiltins_initial : (Registry.initial : Registry K).KnowsBuiltins := by
  intro i hi
  obtain rfl : i = 0 := Nat.lt_one_iff.1 hi
  exact Scope.knowsBuiltins_initial

/-- Statements take no variable away. -/
theorem Evolves.knowsBuiltins (h : Evolves s r r') (hs : s < r.scopes.length)
    (known : r.KnowsBuiltins) : r'.KnowsBuiltins := by
  induction h with
  | refl => exact known
  | trans first _ ih ih' => exact ih' (hs.trans_le first.frame.scopes) (ih hs known)
  | assign s r name value => exact known.modifyScope fun sc hsc => hsc.set name value
  | place free p => exact known.modifyScope fun sc hsc => hsc
  | create s r cls direction => exact known.of_scopes rfl
  | declare new free => exact KnowsBuiltins.modifyScope (known.of_scopes rfl) fun sc hsc => hsc
  | body _ ih => exact ih (lt_openScope _ _) (known.openScope hs)
  | @group s r r' r'' o _ new free groups ih =>
    have inside := ih (lt_openScope _ _) (known.openScope hs)
    have enrolled : (r'.enroll s o).KnowsBuiltins :=
      KnowsBuiltins.modifyScope (inside.of_scopes rfl) fun sc hsc => hsc
    exact enrolled.of_scopes groups.scopes

end Registry

/-! ## Drawings -/

variable [Arith K] {t : Resources K} {d : Drawing K}

/-- All scopes of a drawing that a run can come to have the variables that scripts start with. -/
theorem Drawing.Reachable.knowsBuiltins (h : d.Reachable t) : d.registry.KnowsBuiltins := by
  induction h with
  | initial => exact Registry.knowsBuiltins_initial
  | execute reached s ih =>
    exact (execute_evolves s reached.scope_lt).registry.knowsBuiltins reached.scope_lt ih
  | enter reached _ ih => exact ih.openScope reached.scope_lt

/-- Whether the variables that scripts start with are seen. -/
def View.KnowsBuiltins (v : View K) : Prop :=
  ∀ name, isBuiltinVariable name = true → ∃ x, v.builtin name = .ok x

omit [Arith K] in
theorem Drawing.knowsBuiltins_view (known : d.registry.KnowsBuiltins)
    (hs : d.scope < d.registry.scopes.length) : (d.view t).KnowsBuiltins := by
  intro name hn
  obtain ⟨x, hx⟩ := Option.isSome_iff_exists.1 (known d.scope hs name hn)
  refine ⟨x, ?_⟩
  unfold View.builtin
  rw [show (d.view t).registry.lookupVariable (d.view t).scope name = some x from hx]

end DiagramScript
