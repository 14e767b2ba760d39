import DiagramScript.Proofs.RunFailures

/-!
# Ordinary failures

Two ways of failing are none for a script: asking for a variable that is always there and not
finding it, and using the path of an object that has none.  No statement fails like this, in
whatever drawing a run has come to.

* `Failure.IsOrdinary`, `FailsOrdinarily` — the other ways.
* `View.KnowsBuiltins.provides` — evaluation looks up nothing else that could be missing.
* `Drawing.Reachable.run_ordinary` — statements.
-/

namespace DiagramScript

/-! ## Failures -/

/-- Whether a failure is one of a script. -/
def Failure.IsOrdinary : Failure → Prop
  | .missing _ => False
  | .noPath => False
  | _ => True

instance : AdmitsMistakes Failure.IsOrdinary where
  mistake _ := trivial

/-- Whether a computation fails only in the ways of a script. -/
abbrev FailsOrdinarily {α : Type} (r : Except Failure α) : Prop := FailsBy Failure.IsOrdinary r

/-- Arithmetic fails in the ways of a script. -/
theorem liftFault_ordinary {α : Type} (r : Except Fault α) : FailsOrdinarily (liftFault r) := by
  cases r with
  | ok x => exact .of_ok trivial
  | error f => exact .of_error trivial

variable {K : Type}

/-! ## Looking things up -/

namespace Registry

variable (r : Registry K)

theorem object_ordinary (id : Nat) : FailsOrdinarily (r.object id) := by
  unfold object
  split
  · exact .of_ok trivial
  · exact .of_error trivial

theorem scopeOf_ordinary (id : Nat) : FailsOrdinarily (r.scopeOf id) := by
  unfold scopeOf
  split
  · exact .of_ok trivial
  · exact (r.object_ordinary id).andThen fun _ => .reference _

end Registry

namespace View

theorem follow_ordinary (r : Registry K) (s : Nat) (ref : ObjectRef) :
    FailsOrdinarily (follow r s ref) := by
  induction ref with
  | previous p => exact r.previous_failsBy s
  | select p sel => exact r.select_failsBy s false sel
  | member p group q sel ih =>
    exact ih.andThen fun id => (r.scopeOf_ordinary id).andThen fun inner =>
      r.select_failsBy inner true sel

theorem objectId_ordinary (v : View K) (ref : ObjectRef) : FailsOrdinarily (v.objectId ref) :=
  (follow_ordinary v.registry v.scope ref).locating ref.pos

variable [Arith K] {v : View K}

/-- Where the variables are that are always there, nothing else is missing. -/
theorem KnowsBuiltins.provides (h : v.KnowsBuiltins) : v.Provides Failure.IsOrdinary where
  builtins := h
  number ref := v.objectId_ordinary ref
  object ref := (v.objectId_ordinary ref).andThen fun _ => v.registry.object_ordinary _
  latest _ := v.registry.object_ordinary _
  heading _ := liftFault_ordinary _
  compass _ := liftFault_ordinary _
  paint _ := liftFault_ordinary _

end View

/-! ## Placement -/

section Placement

variable [Arith K] {s : Setting K} {d : Draft K}

theorem Setting.provides_ordinary (h : s.view.KnowsBuiltins) : s.Provides Failure.IsOrdinary where
  view := h.provides
  flow _ := s.view.registry.object_ordinary _

theorem Draft.isPlaceable_ordinary : d.IsPlaceable Failure.IsOrdinary s where
  text _ _ _ _ _ := liftFault_ordinary _
  points _ _ := mapError_failsBy (fun _ => trivial) _
  outlines _ _ := fun _ _ => (s.view.registry.object_ordinary _).andThen fun _ =>
    liftFault_ordinary _

end Placement

/-! ## Statements -/

variable [Arith K] {t : Resources K}

theorem Resources.provides_ordinary : t.Provides Failure.IsOrdinary fun _ => True where
  reached hd := Setting.provides_ordinary (Drawing.knowsBuiltins_view hd.knowsBuiltins hd.scope_lt)
  created {d inside} cls hd _ body := by
    have known := body.knowsBuiltins hd.scope_lt hd.knowsBuiltins
    have created : ((inside.leave d).create cls).2.registry.KnowsBuiltins := known.of_scopes rfl
    exact Setting.provides_ordinary
      (Drawing.knowsBuiltins_view created (hd.scope_lt.trans_le body.frame.scopes))
  placeable _ _ := fun _ _ => Draft.isPlaceable_ordinary

/-- Statements fail only in the ways of a script, wherever a run has come to. -/
theorem Drawing.Reachable.run_ordinary {d : Drawing K} (h : d.Reachable t) (ss : List Statement) :
    FailsOrdinarily (DiagramScript.run t d ss).1 :=
  run_failsBy Resources.provides_ordinary h ss fun _ _ => trivial

end DiagramScript
