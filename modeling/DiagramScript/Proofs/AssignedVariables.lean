import DiagramScript.Proofs.FiniteNumbers
import DiagramScript.Proofs.LeadingNumbers
import DiagramScript.Proofs.StatementSteps

/-!
# Variables that are assigned

A variable has the value that it was assigned last in its scope, whatever else is drawn or assigned
meanwhile.  The body of a group starts with the variables around it and gives none back.  Whatever
may be assigned to may also be named where a number is expected, but for three keywords that are
clauses as well; these may be assigned to and never read.

* `Statement.assigned?` — the variable that a statement sets.
* `Reader.exists_of_readStatement_eq_assign` — what is read as an assignment.
* `Reader.readsScalar_of_isAssignable`, `Reader.plain_readExpression_unreadable` — how its name is
  read where a number is expected.
* `Drawing.execute_variableValue`, `Drawing.execute_group_bindings` — what other statements do to a
  variable, and what a group does to all of them.
* `Drawing.After` — how a run may go on without setting a variable.
* `Drawing.Reachable.readsBack` — the name of an assigned variable, and its value from then on.
-/

namespace DiagramScript

/-- The variable of its own scope that a statement sets.  A group sets none, as its body has a scope
of its own. -/
def Statement.assigned? : Statement → Option String
  | .assign _ name _ _ => some name
  | _ => none

/-! ## Reading the name -/

namespace Reader

variable {g : Reader}

/-- Declarations set no variables. -/
theorem readDeclaration_assigned? (pos : SourcePos) (label : Option String) (ts : List Token) :
    Ensures (·.1.assigned? = none) (g.readDeclaration pos label ts).plain := by
  cases ts with
  | nil =>
    rw [plain_readDeclaration_nil]
    exact .error _
  | cons t ts =>
    rw [plain_readDeclaration_cons]
    split
    · exact .andThen fun _ => .andThen fun _ => .andThen fun _ => .ok rfl
    · exact .andThen fun _ => .andThen fun _ => .ok rfl
    · split
      · rw [plain_readObject]
        exact .andThen fun _ => .ok rfl
      · exact .error _

/-- Neither do assertions. -/
theorem readAssertion_assigned? (pos : SourcePos) (ts : List Token) :
    Ensures (·.1.assigned? = none) (g.readAssertion pos ts).plain := by
  have scalars : Ensures (·.1.assigned? = none) (g.plainComparedScalars pos ts) :=
    .andThen fun _ => .andThen fun _ => .andThen fun _ => .andThen fun _ => .ok rfl
  have positions : Ensures (·.1.assigned? = none) (g.plainComparedPositions pos ts) :=
    .andThen fun _ => .andThen fun _ => .andThen fun _ => .andThen fun _ => .ok rfl
  rw [plain_readAssertion]
  split
  · rename_i compared
    exact compared ▸ scalars
  · exact positions

/-- What is read as an assignment starts with a token that may be assigned to, and sets the variable
of that name. -/
theorem exists_of_readStatement_eq_assign {ts rest : List Token} {p : SourcePos} {name : String}
    {op : AssignOp} {e : Scalar}
    (h : (g.readStatement ts).plain = .ok (.assign p name op e, rest)) :
    ∃ target more, ts = target :: more ∧ isAssignable target = true ∧ target.text = name := by
  have unset {r : Except Diagnostic (Statement × List Token)}
      (other : Ensures (·.1.assigned? = none) r) (hr : r = .ok (.assign p name op e, rest)) :
      False := nomatch other _ hr
  cases ts with
  | nil =>
    rw [plain_readStatement_nil] at h
    cases h
  | cons t ts =>
    rw [plain_readStatement_cons] at h
    generalize (if t.kind = .word ∧ (g.peek ts).isTerminator = true
      then Direction.ofName? t.text else none) = direction at h
    by_cases labelled : t.kind = .label ∧ (g.peek ts).kind = .colon
    · rw [if_pos labelled] at h
      split_ifs at h
      · exact (unset (readDeclaration_assigned? _ _ _) h).elim
      · exact (unset (.andThen fun _ => .ok rfl) h).elim
    rw [if_neg labelled] at h
    cases direction with
    | some way => cases h
    | none =>
      dsimp only at h
      split_ifs at h with assignment
      · obtain ⟨e', -, h⟩ := exists_of_bind_eq_ok h
        cases h
        exact ⟨t, ts, rfl, assignment.2, rfl⟩
      · exact (unset (.andThen fun _ => .ok rfl) h).elim
      · exact (unset (.andThen fun _ => readAssertion_assigned? _ _) h).elim
      · exact (unset (readDeclaration_assigned? _ _ _) h).elim

/-- The keywords that may be assigned to although no number can be named by them. -/
def unreadableNames : List String := ["fill", "color", "thickness"]

/-- Whatever may be assigned to is a variable where a number is expected, but for three keywords. -/
theorem readsScalar_of_isAssignable {t : Token} (h : isAssignable t = true)
    (readable : t.kind = .word → t.text ∉ unreadableNames) :
    ReadsScalar g [t] (.var t.pos t.text) := by
  refine .single fun {rest} ends => ?_
  unfold isAssignable at h
  rw [plain_readSigned_cons]
  split at h
  · rename_i sigil
    rw [sigil]
    dsimp only
    rw [plain_readPrimary_cons, sigil]
  · rename_i word
    have noKeyword : isKeyword t.text = false := by
      have others := readable word
      simp only [unreadableNames, List.mem_cons, List.not_mem_nil, or_false, not_or] at others
      simpa [others] using h
    -- the name of a function is a variable too, unless it is called
    have uncalled : (g.peek rest).kind ≠ .lparen := fun paren => by
      rw [paren] at ends
      cases ends
    rw [word]
    dsimp only
    rw [plain_readPrimary_cons, word]
    dsimp only
    rw [if_neg fun call => uncalled call.2, noKeyword]
    rfl
  · cases h

/-- Those keywords are refused where a number is expected. -/
theorem plain_readExpression_unreadable {t : Token} (word : t.kind = .word)
    (unreadable : t.text ∈ unreadableNames) (rest : List Token) :
    (g.readExpression (t :: rest)).plain = .error (unexpected t .expression) := by
  have reserved : ∀ name ∈ unreadableNames, isFunctionName name = false ∧
      isKeyword name = true ∧ ¬ (name = "previous" ∨ name = "last") := by decide
  obtain ⟨noFunction, keyword, noReference⟩ := reserved t.text unreadable
  refine g.plain_readExpression_of_signed_error ?_
  rw [g.plain_readSigned_word word noFunction keyword, if_neg noReference]

end Reader

/-! ## What statements do to variables -/

variable {K : Type} [Arith K] {t : Resources K}

namespace Drawing

variable {d : Drawing K}

/-- The value of a variable. -/
def variableValue (d : Drawing K) (name : String) : Option K :=
  d.registry.lookupVariable d.scope name

omit [Arith K] in
theorem variableValue_of_bindings {d' : Drawing K} (scope : d'.scope = d.scope)
    (same : (d'.registry.scope d.scope).bindings = (d.registry.scope d.scope).bindings)
    (name : String) : d'.variableValue name = d.variableValue name := by
  rw [variableValue, variableValue, Registry.lookupVariable, Registry.lookupVariable, scope, same]

/-- A group leaves the variables around it as they are, whatever is assigned in its body, and even
if it fails. -/
theorem execute_group_bindings (hlt : d.scope < d.registry.scopes.length) (p : SourcePos)
    (body : List Statement) (label : Option String) (attributes : List Attribute) :
    ((execute t d (.group p body label attributes)).2.registry.scope d.scope).bindings =
      (d.registry.scope d.scope).bindings := by
  cases ho : stackingStart (d.setting t) true with
  | error e =>
    rw [execute, ho]
    rfl
  | ok origin =>
    -- the body has a scope of its own, and runs leave all other scopes alone
    have inside : (run t (d.enter origin) body).2.registry.scope d.scope =
        d.registry.scope d.scope := by
      have changes := run_evolves (t := t) (d := d.enter origin) body
        (d.registry.lt_openScope d.scope)
      exact (changes.registry.frame.openScope d.registry.scopes.length).elsewhere d.scope hlt
        (Nat.ne_of_lt hlt)
    rw [execute_group ho]
    rcases hr : run t (d.enter origin) body with ⟨_ | _, after⟩
    · rw [hr] at inside
      exact congrArg Scope.bindings inside
    · rw [hr] at inside
      exact ((after.leave d).group_keepsVariables _ origin label attributes d.scope).trans
        (congrArg Scope.bindings inside)

/-- A statement that draws nothing sets no variable but the one that it assigns to. -/
theorem Notes.variableValue {e : Drawing K} {s : Statement} (h : d.Notes t s e) {name : String}
    (other : s.assigned? ≠ some name) : e.variableValue name = d.variableValue name := by
  cases h with
  | @assign p assigned op value x result =>
    have ne : name ≠ assigned := fun same => other (congrArg some same.symm)
    unfold Drawing.variableValue Registry.lookupVariable Registry.setVariable
    rw [Registry.scope_modifyScope]
    split_ifs
    · exact Variables.get?_set_of_ne result ne
    · rfl
  | place =>
    unfold Drawing.variableValue Registry.lookupVariable
    rw [Registry.scope_modifyScope]
    split_ifs <;> rfl
  | same | direction | print => rfl

/-- A statement sets no variable but the one that it assigns to. -/
theorem execute_variableValue (hlt : d.scope < d.registry.scopes.length) {s : Statement}
    {name : String} (other : s.assigned? ≠ some name) :
    (execute t d s).2.variableValue name = d.variableValue name := by
  have here := (execute_evolves (t := t) s hlt).scope
  cases s with
  | group p body label attributes =>
    exact variableValue_of_bindings here (execute_group_bindings hlt p body label attributes) name
  | object p cls label attributes =>
    refine variableValue_of_bindings here ?_ name
    rw [execute]
    exact d.declare_keepsVariables cls label attributes d.scope
  | _ => exact (execute_notes t d rfl).variableValue other

omit [Arith K] in
/-- The body of a group starts with the variables around it. -/
theorem enter_variableValue (origin : Point K) (name : String) :
    (d.enter origin).variableValue name = d.variableValue name := by
  unfold variableValue Registry.lookupVariable
  change Variables.get? (Registry.scope (d.registry.openScope d.scope).2 _).bindings name = _
  rw [show (d.enter origin).scope = d.registry.scopes.length from rfl,
    Registry.scope_openScope_self]

/-! ## Going on -/

/-- How a run may go on from a drawing, into the bodies of groups too, without setting a variable.
What the body of a group assigns does not count once the group is drawn. -/
inductive After (t : Resources K) (name : String) (d : Drawing K) : Drawing K → Prop where
  /-- Not at all. -/
  | refl : After t name d d
  /-- By a statement that does not set the variable, whether it succeeds or fails. -/
  | execute {e : Drawing K} (h : After t name d e) {s : Statement}
    (other : s.assigned? ≠ some name) : After t name d (DiagramScript.execute t e s).2
  /-- Into the body of a group. -/
  | enter {e : Drawing K} (h : After t name d e) {origin : Point K}
    (ho : stackingStart (e.setting t) true = .ok origin) : After t name d (e.enter origin)

theorem After.reachable {name : String} {e : Drawing K} (h : d.After t name e)
    (reached : d.Reachable t) : e.Reachable t := by
  induction h with
  | refl => exact reached
  | execute _ _ ih => exact ih.execute _
  | enter _ ho ih => exact ih.enter ho

/-- The variable keeps its value meanwhile. -/
theorem After.variableValue {name : String} {e : Drawing K} (h : d.After t name e)
    (reached : d.Reachable t) : e.variableValue name = d.variableValue name := by
  induction h with
  | refl => rfl
  | execute before other ih =>
    exact (execute_variableValue (before.reachable reached).scope_lt other).trans ih
  | enter _ _ ih => exact (enter_variableValue _ _).trans ih

/-- Setting a variable to the value of an expression succeeds if the expression has a value. -/
theorem execute_assign_set (hlt : d.scope < d.registry.scopes.length) (p : SourcePos)
    (name : String) {e : Scalar} {x : K} (hx : (d.view t).scalar e = .ok x) :
    (DiagramScript.execute t d (.assign p name .set e)).1 = .ok () ∧
      (DiagramScript.execute t d (.assign p name .set e)).2.variableValue name = some x := by
  have done : d.assign t name .set e =
      .ok { d with registry := d.registry.setVariable d.scope name x } := by
    rw [assign, hx]
    rfl
  rw [DiagramScript.execute, done]
  refine ⟨rfl, ?_⟩
  change Variables.get? ((d.registry.setVariable d.scope name x).scope d.scope).bindings name = _
  rw [Registry.setVariable, Registry.scope_modifyScope, if_pos ⟨rfl, hlt⟩]
  exact Variables.get?_set_self ..

/-- The value of a variable is the value of its name, once it is known to be finite. -/
theorem scalar_var {name : String} {x : K} (known : d.variableValue name = some x)
    (finite : Arith.isFinite x = true) (q : SourcePos) :
    (d.view t).scalar (.var q name) = .ok x := by
  have found : (d.view t).variableValue name = .ok x := by
    rw [View.variableValue, show (d.view t).registry.lookupVariable (d.view t).scope name = some x
      from known]
  rw [View.scalar, found]
  simp only [View.settle, Except.bind, finite, if_true, locating_ok]

/-- The value of a name depends on the variable alone. -/
theorem scalar_var_congr {e : Drawing K} {name : String}
    (same : e.variableValue name = d.variableValue name) (q : SourcePos) :
    (e.view t).scalar (.var q name) = (d.view t).scalar (.var q name) := by
  rw [View.scalar, View.scalar, View.variableValue, View.variableValue]
  rw [show (e.view t).registry.lookupVariable (e.view t).scope name = _ from same]
  rfl

/-! ## The name from then on -/

/-- What the name of a token means after a value has been assigned to it. -/
structure ReadsBack (t : Resources K) (g : Reader) (d : Drawing K) (target : Token) (x : K) :
    Prop where
  /-- Where a number is expected, the name is the variable, unless it is one of three keywords. -/
  readable : ∀ u : Token, u.kind = target.kind → u.text = target.text →
    (target.kind = .word → target.text ∉ Reader.unreadableNames) →
    ReadsScalar g [u] (.var u.pos target.text)
  /-- Those keywords are refused there. -/
  refused : ∀ u : Token, u.kind = target.kind → u.text = target.text → target.kind = .word →
    target.text ∈ Reader.unreadableNames → ∀ rest,
    (g.readExpression (u :: rest)).plain = .error (unexpected u .expression)
  /-- The variable has the value until it is set again, in the bodies of groups too. -/
  value : ∀ e, After t target.text d e → ∀ q, (e.view t).scalar (.var q target.text) = .ok x

/-- A name that is assigned the value of an expression is accepted, and is read back as that value
unless it is one of three keywords; and no group changes what any name means after it. -/
theorem Reachable.readsBack (reached : d.Reachable t) {g : Reader} {ts rest : List Token}
    {p : SourcePos} {name : String} {e : Scalar} {x : K}
    (read : (g.readStatement ts).plain = .ok (.assign p name .set e, rest))
    (hx : (d.view t).scalar e = .ok x) :
    (∃ target more d', ts = target :: more ∧ target.text = name ∧
      DiagramScript.execute t d (.assign p name .set e) = (.ok (), d') ∧
      ReadsBack t g d' target x) ∧
    ∀ (q : SourcePos) (body : List Statement) (label : Option String)
      (attributes : List Attribute) (other : String),
      ((DiagramScript.execute t d (.group p body label attributes)).2.view t).scalar
        (.var q other) = (d.view t).scalar (.var q other) := by
  constructor
  · obtain ⟨target, more, rfl, assignable, rfl⟩ := Reader.exists_of_readStatement_eq_assign read
    obtain ⟨succeeds, set⟩ := execute_assign_set reached.scope_lt p target.text hx
    refine ⟨target, more, _, rfl, rfl, Prod.ext succeeds rfl, ?_, ?_, ?_⟩
    · intro u kind text readable
      have same : Reader.isAssignable u = true := by
        rw [Reader.isAssignable, kind, text]
        exact assignable
      rw [← kind, ← text] at readable
      rw [← text]
      exact Reader.readsScalar_of_isAssignable same readable
    · intro u kind text word unreadable
      exact Reader.plain_readExpression_unreadable (kind.trans word) (text ▸ unreadable)
    · intro later after q
      refine scalar_var ?_ (View.scalar_isFinite hx) q
      exact (after.variableValue (reached.execute (.assign p target.text .set e))).trans set
  · intro q body label attributes other
    have unset : (Statement.group p body label attributes).assigned? ≠ some other := by
      rintro ⟨⟩
    exact scalar_var_congr (execute_variableValue reached.scope_lt unset) q

/-- A variable that is assigned in a script, and then in the body of a group. -/
theorem Reachable.readsBack_total :
    let g : Reader := ⟨.standard, ⟨.eof, "", ⟨1, 12⟩⟩⟩
    let ts : List Token := [⟨.word, "total", ⟨1, 1⟩⟩, ⟨.assign, "=", ⟨1, 7⟩⟩,
      ⟨.number ⟨5, -1⟩ none, "0.5", ⟨1, 9⟩⟩]
    let half : Scalar := .number ⟨1, 9⟩ ⟨5, -1⟩ none
    let inner : Statement :=
      .group ⟨2, 1⟩ [.assign ⟨2, 3⟩ "total" .set (.number ⟨2, 11⟩ ⟨2, 0⟩ none)] none []
    let start : Drawing MachineNumber := Drawing.initial
    (g.readStatement ts).plain = .ok (.assign ⟨1, 1⟩ "total" .set half, []) ∧
    ∃ d : Drawing MachineNumber,
      DiagramScript.execute .standard start (.assign ⟨1, 1⟩ "total" .set half) = (.ok (), d) ∧
      ReadsScalar g [⟨.word, "total", ⟨3, 7⟩⟩] (.var ⟨3, 7⟩ "total") ∧
      ((DiagramScript.execute .standard d inner).2.view .standard).scalar (.var ⟨3, 7⟩ "total") =
        .ok (Arith.ofDecimal ⟨5, -1⟩) := by
  intro g ts half inner start
  have read : (g.readStatement ts).plain = .ok (.assign ⟨1, 1⟩ "total" .set half, []) := by
    cbv
  have value : (start.view Resources.standard).scalar half = .ok (Arith.ofDecimal ⟨5, -1⟩) := by
    rfl
  obtain ⟨target, more, d, started, name, done, back⟩ :=
    (Reachable.initial.readsBack read value).1
  obtain ⟨rfl, -⟩ := List.cons.inj (show ts = target :: more from started)
  have unset : inner.assigned? ≠ some "total" := by
    rintro ⟨⟩
  exact ⟨read, d, done, back.readable ⟨.word, "total", ⟨3, 7⟩⟩ rfl rfl fun _ => by decide,
    back.value _ (After.refl.execute unset) _⟩

end Drawing

/-- The thickness of outlines may be assigned to and cannot be printed. -/
theorem Program.ofSource_thickness :
    Program.ofSource .standard "thickness = 0.05" =
      .ok [.assign ⟨1, 1⟩ "thickness" .set (.number ⟨1, 13⟩ ⟨5, -2⟩ none)] ∧
    Program.ofSource .standard "thickness = 0.05\nprint thickness" =
      .error (.mistake ⟨.parse (.unexpected .expression (.token "thickness")), some ⟨2, 7⟩⟩) := by
  constructor
  · cbv
  · cbv

end DiagramScript
