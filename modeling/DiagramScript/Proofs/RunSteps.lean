import DiagramScript.Execution
import DiagramScript.Proofs.ReadingSteps

/-!
# Runs step by step

What every kind of statement does to a drawing is said here once.  A statement that draws nothing
leaves a note in the drawing at most; a group is its body, and then the group that is made of it.
Whatever relates a drawing to what each of these makes of it relates it to what a run makes of it.

* `Drawing.Notes`, `execute_notes_or_fails` — what statements that draw nothing do.
* `execute_group`, `exists_of_execute_group_eq_ok`, `exists_of_run_cons_eq_ok` — groups, and
  statements in a row, step by step.
* `Drawing.ContainsSteps`, `ContainsSteps.run` — from single steps to runs.
-/

namespace DiagramScript

variable {K : Type}

/-! ## Steps that succeed -/

theorem Outcome.of_locate {o : Outcome K} {p : SourcePos} {d : Drawing K}
    (h : o.locate p = (.ok (), d)) : o = (.ok (), d) := by
  obtain ⟨r, e⟩ := o
  cases r with
  | error f => cases h
  | ok u => exact h

theorem Drawing.of_attempt {d d' : Drawing K} {r : Except Failure (Drawing K)}
    (h : d.attempt r = (.ok (), d')) : r = .ok d' := by
  cases r with
  | error f => cases h
  | ok e => exact congrArg Except.ok (Prod.mk.inj h).2

variable [Arith K] {t : Resources K} {d : Drawing K}

/-! ## Statements that draw nothing -/

/-- Whether a statement declares an object. -/
def Statement.draws : Statement → Bool
  | .object .. => true
  | .group .. => true
  | _ => false

namespace Drawing

/-- What a statement that draws nothing makes of a drawing. -/
inductive Notes (t : Resources K) (d : Drawing K) : Statement → Drawing K → Prop where
  /-- It stays as it was: by an assertion, or by whatever fails. -/
  | same (s : Statement) : Notes t d s d
  /-- A variable of the scope has another value. -/
  | assign {p : SourcePos} {name : String} {op : AssignOp} {e : Scalar} {value result : K}
    (calculated : (d.view t).scalar e = .ok value)
    (settled : assigned (d.view t) name op value = .ok result) :
    Notes t d (.assign p name op e)
      { d with registry := d.registry.setVariable d.scope name result }
  /-- The cursor is turned. -/
  | direction (p : SourcePos) (dir : Direction) :
    Notes t d (.direction p dir) { d with cursor := { d.cursor with direction := dir } }
  /-- There is one more message. -/
  | print (p : SourcePos) (items : List PrintItem) (text : String) :
    Notes t d (.print p items) { d with messages := d.messages ++ [text] }
  /-- A point has a label that was free. -/
  | place {p : SourcePos} {label : String} {q : Position} (x : Point K)
    (free : (d.registry.scope d.scope).isTaken label = false) :
    Notes t d (.place p label q)
      { d with
        registry := d.registry.modifyScope d.scope fun sc =>
          { sc with places := sc.places ++ [(label, x)] }
        serial := d.serial + 1 }

theorem Notes.attempt {s : Statement} {r : Except Failure (Drawing K)}
    (h : Ensures (d.Notes t s) r) (p : SourcePos) :
    (∃ d', (d.attempt r).locate p = (.ok (), d') ∧ d.Notes t s d') ∨
      ∃ f, (d.attempt r).locate p = (.error f, d) := by
  cases r with
  | ok d' => exact .inl ⟨d', rfl, h d' rfl⟩
  | error f => exact .inr ⟨f.locate p, rfl⟩

theorem bindPlace_notes (p : SourcePos) (label : String) (q : Position) :
    Ensures (d.Notes t (.place p label q)) (d.bindPlace t label q) := by
  intro d' h
  obtain ⟨x, -, h⟩ := exists_of_bind_eq_ok h
  obtain ⟨r, hr, hd⟩ := exists_of_bind_eq_ok h
  obtain ⟨u, hu, hr⟩ := exists_of_bind_eq_ok hr
  cases hr
  cases hd
  refine .place _ ?_
  unfold Registry.requireFree at hu
  split_ifs at hu with taken
  exact Bool.eq_false_iff.2 taken

end Drawing

open Drawing

/-- A statement that draws nothing leaves a note, or fails and leaves the drawing as it was. -/
theorem execute_notes_or_fails (t : Resources K) (d : Drawing K) {s : Statement}
    (hs : s.draws = false) :
    (∃ d', execute t d s = (.ok (), d') ∧ d.Notes t s d') ∨
      ∃ f, execute t d s = (.error f, d) := by
  cases s with
  | object p cls label attributes => cases hs
  | group p body label attributes => cases hs
  | assign p name op e =>
    rw [execute]
    refine Notes.attempt (fun d' h => ?_) p
    obtain ⟨value, calculated, h⟩ := exists_of_bind_eq_ok h
    obtain ⟨result, settled, h⟩ := exists_of_bind_eq_ok h
    cases h
    exact .assign calculated settled
  | direction p dir =>
    rw [execute]
    exact .inl ⟨_, rfl, .direction p dir⟩
  | print p items =>
    rw [execute]
    exact Notes.attempt (.andThen fun texts => .ok (.print p items _)) p
  | assertScalars p left right =>
    rw [execute]
    exact Notes.attempt (.andThen fun _ => .andThen fun _ => .andThen fun _ => .andThen fun _ =>
      .ite (.ok (.same _)) (.error _)) p
  | assertPositions p left right =>
    rw [execute]
    exact Notes.attempt (.andThen fun _ => .andThen fun _ => .andThen fun _ => .andThen fun _ =>
      .ite (.ok (.same _)) (.error _)) p
  | place p label q =>
    rw [execute]
    exact Notes.attempt (bindPlace_notes p label q) p

/-- Statements that draw nothing, whether they succeed or fail. -/
theorem execute_notes (t : Resources K) (d : Drawing K) {s : Statement} (hs : s.draws = false) :
    d.Notes t s (execute t d s).2 := by
  rcases execute_notes_or_fails t d hs with ⟨d', he, notes⟩ | ⟨f, he⟩
  · rwa [he]
  · rw [he]
    exact .same s

/-- A statement that draws nothing, and succeeds. -/
theorem Drawing.Notes.of_execute {d' : Drawing K} {s : Statement}
    (h : execute t d s = (.ok (), d')) (hs : s.draws = false) : d.Notes t s d' := by
  have notes := execute_notes t d hs
  rwa [h] at notes

/-- A statement that draws nothing, and fails. -/
theorem execute_eq_of_error {s : Statement} {f : Failure} (h : (execute t d s).1 = .error f)
    (hs : s.draws = false) : (execute t d s).2 = d := by
  rcases execute_notes_or_fails t d hs with ⟨d', he, -⟩ | ⟨f', he⟩
  · rw [he] at h
    cases h
  · rw [he]

/-! ## Groups, and statements in a row -/

/-- A group whose body is drawn at some point. -/
theorem execute_group {p : SourcePos} {body : List Statement} {label : Option String}
    {attributes : List Attribute} {origin : Point K}
    (ho : stackingStart (d.setting t) true = .ok origin) :
    execute t d (.group p body label attributes) =
      (Outcome.andThen
        ((run t (d.enter origin) body).1, (run t (d.enter origin) body).2.leave d)
        fun after => after.group t d.registry.scopes.length origin label attributes).locate p := by
  rw [execute, ho]
  rfl

/-- A group that succeeds, step by step. -/
theorem exists_of_execute_group_eq_ok {d' : Drawing K} {p : SourcePos} {body : List Statement}
    {label : Option String} {attributes : List Attribute}
    (h : execute t d (.group p body label attributes) = (.ok (), d')) :
    ∃ origin inside, stackingStart (d.setting t) true = .ok origin ∧
      run t (d.enter origin) body = (.ok (), inside) ∧
      (inside.leave d).group t d.registry.scopes.length origin label attributes = (.ok (), d') := by
  cases ho : stackingStart (d.setting t) true with
  | error e =>
    rw [execute, ho] at h
    cases h
  | ok origin =>
    rw [execute_group ho] at h
    have h := Outcome.of_locate h
    rcases hr : run t (d.enter origin) body with ⟨_ | _, inside⟩
    · rw [hr] at h
      cases h
    · rw [hr] at h
      exact ⟨origin, inside, rfl, hr, h⟩

theorem exists_of_run_cons_eq_ok {d' : Drawing K} {s : Statement} {ss : List Statement}
    (h : run t d (s :: ss) = (.ok (), d')) :
    ∃ e, execute t d s = (.ok (), e) ∧ run t e ss = (.ok (), d') := by
  rw [run] at h
  rcases hs : execute t d s with ⟨_ | _, e⟩
  · rw [hs] at h
    cases h
  · rw [hs] at h
    exact ⟨e, rfl, h⟩

/-- Statements in a row succeed if the first ones do, and then the others. -/
theorem run_append_eq_ok {d' : Drawing K} {ss rest : List Statement} :
    run t d (ss ++ rest) = (.ok (), d') ↔
      ∃ e, run t d ss = (.ok (), e) ∧ run t e rest = (.ok (), d') := by
  rw [run_append]
  rcases run t d ss with ⟨_ | _, e⟩
  · simp [Outcome.andThen]
  · simp [Outcome.andThen]

/-! ## From single steps to runs -/

namespace Drawing

/-- Whether a relation holds between a drawing and whatever a single step of a run makes of it, a
step that fails included. -/
structure ContainsSteps (t : Resources K) (R : Drawing K → Drawing K → Prop) : Prop where
  /-- Nothing is done. -/
  refl : ∀ d, R d d
  /-- One step after another. -/
  trans : ∀ {d e f}, R d e → R e f → R d f
  /-- A statement draws nothing. -/
  notes : ∀ {d e s}, d.Notes t s e → R d e
  /-- An object is declared. -/
  declare : ∀ d cls label attributes, R d (d.declare t cls label attributes).2
  /-- The body of a group fails. -/
  body : ∀ {d inside origin}, R (d.enter origin) inside → R d (inside.leave d)
  /-- The body of a group is drawn, and then the group. -/
  group : ∀ {d inside origin body}, run t (d.enter origin) body = (.ok (), inside) →
    R (d.enter origin) inside → ∀ label attributes,
      R d ((inside.leave d).group t d.registry.scopes.length origin label attributes).2

variable {R : Drawing K → Drawing K → Prop}

mutual

/-- What every step keeps is kept by every statement, whether it succeeds or fails. -/
theorem ContainsSteps.execute (hR : ContainsSteps t R) (d : Drawing K) (s : Statement) :
    R d (DiagramScript.execute t d s).2 := by
  cases s with
  | object p cls label attributes =>
    rw [DiagramScript.execute]
    exact hR.declare d cls label attributes
  | group p body label attributes =>
    cases ho : stackingStart (d.setting t) true with
    | error e =>
      rw [DiagramScript.execute, ho]
      exact hR.refl d
    | ok origin =>
      have within := hR.run (d.enter origin) body
      rw [execute_group ho]
      rcases hr : DiagramScript.run t (d.enter origin) body with ⟨_ | _, inside⟩
      · rw [hr] at within
        exact hR.body within
      · rw [hr] at within
        exact hR.group hr within label attributes
  | _ => exact hR.notes (execute_notes t d rfl)

/-- And by statements in a row, as far as they go. -/
theorem ContainsSteps.run (hR : ContainsSteps t R) (d : Drawing K) (ss : List Statement) :
    R d (DiagramScript.run t d ss).2 := by
  cases ss with
  | nil =>
    rw [DiagramScript.run]
    exact hR.refl d
  | cons s ss =>
    have first := hR.execute d s
    rw [DiagramScript.run]
    cases hs : (DiagramScript.execute t d s).1 with
    | error e => exact first
    | ok u => exact hR.trans first (hR.run _ ss)

end

end Drawing

end DiagramScript
