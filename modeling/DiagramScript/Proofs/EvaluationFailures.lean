import DiagramScript.Proofs.BuiltinVariables

/-!
# How evaluation can fail

What evaluation looks up is said once: variables that are always there, objects that references
mean, and the vectors of directions.  Where all of this is there, evaluation and clauses fail only
by mistakes of a script; where it is not, they fail as looking it up fails.

* `AdmitsMistakes`, `FailsBy` — ways of failing among which all mistakes are.
* `View.Provides` — what evaluation looks up.
* `View.scalar_failsBy`, `View.position_failsBy` — evaluation.
* `Draft.IsWhole` — a draft has a path if its class is one of paths; `Draft.begin_failsBy`,
  `Draft.applyClause_failsBy`, `Draft.applyAll_failsBy` — drafts.
-/

namespace DiagramScript

/-! ## Failures -/

/-- Ways of failing among which all mistakes are. -/
class AdmitsMistakes (E : Failure → Prop) : Prop where
  /-- A mistake is one of them. -/
  mistake : ∀ d, E (.mistake d)

section

variable {α β : Type} {E : Failure → Prop} {Q : α → Prop}

/-- Whether a computation fails only in some ways. -/
abbrev FailsBy (E : Failure → Prop) (r : Except Failure α) : Prop := Settles E (fun _ => True) r

theorem FailsBy.andThen {R : β → Prop} {r : Except Failure α} {next : α → Except Failure β}
    (h : FailsBy E r) (hn : ∀ x, Settles E R (next x)) : Settles E R (r >>= next) :=
  h.bind fun x _ => hn x

/-- A computation that fails only in some ways, and whose results are known. -/
theorem FailsBy.gives {r : Except Failure α} (h : FailsBy E r) (hq : Ensures Q r) :
    Settles E Q r := ⟨hq, h.error⟩

/-- A computation whose errors become failures. -/
theorem mapError_failsBy {ε : Type} {f : ε → Failure} (h : ∀ e, E (f e)) (r : Except ε α) :
    FailsBy E (r.mapError f) := by
  cases r with
  | ok x => exact .of_ok trivial
  | error e => exact .of_error (h e)

variable [AdmitsMistakes E]

theorem Settles.ofCause (c : Cause) : Settles E Q (.error (.ofCause c)) :=
  .of_error (AdmitsMistakes.mistake _)

theorem Settles.eval (e : EvalError) : Settles E Q (.error (.eval e)) := .ofCause _

theorem Settles.reference (e : ReferenceError) : Settles E Q (.error (.reference e)) := .ofCause _

/-- A mistake stays one when it is given a place. -/
theorem Settles.locating {r : Except Failure α} (h : Settles E Q r) (p : SourcePos) :
    Settles E Q (DiagramScript.locating p r) := by
  cases r with
  | ok x => exact h
  | error f =>
    refine .of_error ?_
    cases f with
    | mistake d => exact AdmitsMistakes.mistake _
    | _ => exact h.error _ rfl

end

variable {K : Type} {E : Failure → Prop}

/-! ## Looking things up -/

namespace Registry

variable (r : Registry K) [AdmitsMistakes E]

theorem resolveLabel_failsBy (s : Nat) (label : String) ( localOnly : Bool) :
    FailsBy E (r.resolveLabel s label localOnly) :=
  mapError_failsBy (fun _ => AdmitsMistakes.mistake _) _

theorem resolveOrdinal_failsBy (s : Nat) (cls : ObjectClass) (n : Int) (fromLast : Bool) :
    FailsBy E (r.resolveOrdinal s cls n fromLast) := by
  unfold resolveOrdinal
  dsimp only
  split
  · exact .of_ok trivial
  · exact .reference _

theorem previous_failsBy (s : Nat) : FailsBy E (r.previous s) := by
  unfold previous
  split
  · exact .of_ok trivial
  · exact .reference _

theorem select_failsBy (s : Nat) ( localOnly : Bool) (sel : Selector) :
    FailsBy E (View.select r s localOnly sel) := by
  cases sel with
  | label name => exact r.resolveLabel_failsBy s name localOnly
  | ordinal cls n fromLast => exact r.resolveOrdinal_failsBy s cls n fromLast

end Registry

/-- What evaluation looks up in a view: it is there, or evaluation fails in one of some ways. -/
structure View.Provides [Arith K] (E : Failure → Prop) (v : View K) : Prop where
  /-- The variables that are always there. -/
  builtins : v.KnowsBuiltins
  /-- The number of an object that a reference means. -/
  number : ∀ ref, FailsBy E (v.objectId ref)
  /-- The object itself. -/
  object : ∀ ref, FailsBy E (v.object ref)
  /-- The latest object of a class. -/
  latest : ∀ {cls id}, v.registry.resolveOrdinal v.scope cls 1 true = .ok id →
    FailsBy E (v.registry.object id)
  /-- The vector of an angle that has been calculated. -/
  heading : ∀ {x : K}, Arith.isFinite x = true → FailsBy E (liftFault (headingVector x))
  /-- The vector of a point of the compass. -/
  compass : ∀ c, FailsBy E (liftFault (compassVector c : Except Fault (Point K)))
  /-- The colour that a variable stands for. -/
  paint : ∀ {name x}, v.builtin name = .ok x → FailsBy E (liftFault (Paint.ofNumber x))

/-- A finite number has a nearest integer. -/
theorem Arith.nearest_of_isFinite [Arith K] {x : K} (h : Arith.isFinite x = true) :
    Arith.nearest x = .ok (Arith.roundAt 0 x) := by
  unfold nearest finite
  rw [if_pos h]
  rfl

/-- A finite number has an integer part. -/
theorem Arith.truncate_of_isFinite [Arith K] {x : K} (h : Arith.isFinite x = true) :
    Arith.truncate x = .ok (Arith.integerPart x) := by
  unfold truncate finite
  rw [if_pos h]
  rfl

namespace View

section

variable [AdmitsMistakes E] {v : View K}

variable (v) in
theorem variableValue_failsBy (name : String) : FailsBy E (v.variableValue name) := by
  unfold variableValue
  split
  · exact .of_ok trivial
  · exact .eval _

variable (v) in
theorem colorNumber_failsBy [Arith K] (name : String) : FailsBy E (v.colorNumber name) := by
  unfold colorNumber
  split
  · exact .of_ok trivial
  · exact .eval _

variable [Arith K]

omit [AdmitsMistakes E] in
theorem wholeObject_failsBy (hv : v.Provides E) (q : Position) : FailsBy E (v.wholeObject q) := by
  unfold wholeObject
  split
  · split
    · exact .of_ok trivial
    · exact (hv.number _).map fun _ _ => trivial
  · exact .of_ok trivial

theorem vertexOf_failsBy (hv : v.Provides E) (n : Nat) (ref : ObjectRef) (fromLast : Bool) :
    FailsBy E (v.vertexOf n ref fromLast) := by
  refine (hv.object ref).andThen fun o => .ite (.eval _) ?_
  dsimp only
  split
  · exact .of_ok trivial
  · exact .eval _

/-! ## Numbers and points -/

theorem settle_failsBy {r : Except Failure K} (h : FailsBy E r) (p : SourcePos) :
    FailsBy E (settle p r) :=
  (h.andThen fun _ => .ite (.of_ok trivial) (.eval _)).locating p

theorem operate_failsBy (op : BinaryOp) (a b : K) : FailsBy E (operate op a b) := by
  cases op with
  | div => exact .ite (.eval _) (.of_ok trivial)
  | _ => exact .of_ok trivial

/-- Functions are applied to finite numbers only. -/
theorem apply_failsBy (hv : v.Provides E) (f : ScalarFunction) {xs : List K}
    (finite : ∀ x ∈ xs, Arith.isFinite x = true) : FailsBy E (apply f xs) := by
  have vector : ∀ {x} (coordinate : Point K → K), Arith.isFinite x = true →
      FailsBy E (liftFault ((headingVector x).map coordinate)) := by
    intro x coordinate hx
    have known := hv.heading hx
    cases hr : headingVector x with
    | ok u => exact .of_ok trivial
    | error e =>
      rw [hr] at known
      exact .of_error (known.error _ rfl)
  unfold apply
  split
  · exact .of_ok trivial
  · exact vector _ (finite _ List.mem_cons_self)
  · exact vector _ (finite _ List.mem_cons_self)
  · exact .ite (.eval _) (.of_ok trivial)
  · rw [Arith.truncate_of_isFinite (finite _ List.mem_cons_self)]
    exact .of_ok trivial
  · exact .of_ok trivial
  · exact .of_ok trivial
  · exact .eval _

theorem objectPlace_failsBy (hv : v.Provides E) (ref : ObjectRef) (anchor : Option Anchor) :
    FailsBy E (v.objectPlace ref anchor) := by
  unfold objectPlace
  split
  · exact .of_ok trivial
  · exact .eval _
  · exact (hv.object _).map fun _ _ => trivial
  · exact (hv.object _).map fun _ _ => trivial

end

section

variable [Arith K] {v : View K}

mutual

/-- Evaluation fails by mistakes, or as looking things up fails. -/
theorem scalar_failsBy [AdmitsMistakes E] (hv : v.Provides E) (e : Scalar) :
    FailsBy E (v.scalar e) := by
  cases e with
  | number p value unit =>
    rw [scalar]
    exact settle_failsBy (mapError_failsBy (fun _ => AdmitsMistakes.mistake _) _) p
  | percent p value =>
    rw [scalar]
    exact settle_failsBy (.eval _) p
  | var p name =>
    rw [scalar]
    exact settle_failsBy (v.variableValue_failsBy name) p
  | color p name =>
    rw [scalar]
    exact settle_failsBy (v.colorNumber_failsBy name) p
  | neg p e =>
    rw [scalar]
    exact settle_failsBy ((scalar_failsBy hv e).andThen fun _ => .of_ok trivial) p
  | binary p op a b =>
    rw [scalar]
    exact settle_failsBy ((scalar_failsBy hv a).andThen fun x =>
      (scalar_failsBy hv b).andThen fun y => operate_failsBy op x y) p
  | call p f args =>
    rw [scalar]
    exact settle_failsBy (.ite (.eval _) ((scalars_failsBy hv args).bind fun _ finite =>
      apply_failsBy hv f finite)) p
  | dist p args =>
    rw [scalar]
    refine settle_failsBy (.ite (.eval _) ((positions_failsBy hv args).andThen fun ps => ?_)) p
    split
    · exact .of_ok trivial
    · exact .eval _
  | coordinate p q axis =>
    rw [scalar]
    exact settle_failsBy ((position_failsBy hv q).andThen fun _ => .of_ok trivial) p
  | property p ref what =>
    rw [scalar]
    exact settle_failsBy ((hv.object ref).andThen fun _ => .of_ok trivial) p

/-- Several values are all finite. -/
theorem scalars_failsBy [AdmitsMistakes E] (hv : v.Provides E) (es : List Scalar) :
    Settles E (fun xs => ∀ x ∈ xs, Arith.isFinite x = true) (v.scalars es) := by
  cases es with
  | nil =>
    rw [scalars]
    exact .of_ok nofun
  | cons e es =>
    rw [scalars]
    refine ((scalar_failsBy hv e).gives fun _ => scalar_isFinite).bind fun x finite => ?_
    refine (scalars_failsBy hv es).bind fun xs others => .of_ok fun y hy => ?_
    rcases List.mem_cons.1 hy with rfl | hy
    · exact finite
    · exact others y hy

theorem positions_failsBy [AdmitsMistakes E] (hv : v.Provides E) (qs : List Position) :
    FailsBy E (v.positions qs) := by
  cases qs with
  | nil =>
    rw [positions]
    exact .of_ok trivial
  | cons q qs =>
    rw [positions]
    exact (position_failsBy hv q).andThen fun _ => (positions_failsBy hv qs).andThen fun _ =>
      .of_ok trivial

/-- So does the evaluation of positions. -/
theorem position_failsBy [AdmitsMistakes E] (hv : v.Provides E) (q : Position) :
    FailsBy E (v.position q) := by
  cases q with
  | pair p x y =>
    rw [position]
    exact ((scalar_failsBy hv x).andThen fun _ => (scalar_failsBy hv y).andThen fun _ =>
      .of_ok trivial).locating p
  | object p ref anchor =>
    rw [position]
    exact (objectPlace_failsBy hv ref anchor).locating p
  | vertex p n ref fromLast =>
    rw [position]
    exact (vertexOf_failsBy hv n ref fromLast).locating p
  | offset p base dx dy backward =>
    rw [position]
    exact ((position_failsBy hv base).andThen fun _ => (scalar_failsBy hv dx).andThen fun _ =>
      (scalar_failsBy hv dy).andThen fun _ => .of_ok trivial).locating p
  | mix p a b =>
    rw [position]
    exact ((position_failsBy hv a).andThen fun _ => (position_failsBy hv b).andThen fun _ =>
      .of_ok trivial).locating p
  | relative p distance side base =>
    rw [position]
    exact ((scalar_failsBy hv distance).andThen fun _ => (position_failsBy hv base).andThen fun _ =>
      (hv.compass side).andThen fun _ => .of_ok trivial).locating p
  | heading p distance angle base =>
    rw [position]
    exact ((scalar_failsBy hv distance).andThen fun _ =>
      ((scalar_failsBy hv angle).gives fun _ => scalar_isFinite).bind fun _ finite =>
        (position_failsBy hv base).andThen fun _ => (hv.heading finite).andThen fun _ =>
          .of_ok trivial).locating p
  | between p fraction a b =>
    cases fraction with
    | none =>
      rw [position]
      exact ((position_failsBy hv a).andThen fun _ => (position_failsBy hv b).andThen fun _ =>
        .of_ok trivial).locating p
    | some f =>
      rw [position]
      exact ((scalar_failsBy hv f).andThen fun _ => (position_failsBy hv a).andThen fun _ =>
        (position_failsBy hv b).andThen fun _ => .of_ok trivial).locating p

end

theorem size_failsBy [AdmitsMistakes E] (hv : v.Provides E) (e : Scalar) (reference : K) :
    FailsBy E (v.size e reference) := by
  unfold size
  split
  · exact .of_ok trivial
  · exact scalar_failsBy hv e

/-- A value that has been calculated stands for a colour. -/
theorem paint_failsBy [AdmitsMistakes E] (hv : v.Provides E) (e : Scalar) {R : Paint → Prop}
    (hR : ∀ c, R c) : Settles E R (do
      let x ← v.scalar e
      liftFault (Paint.ofNumber x)) := by
  refine ((scalar_failsBy hv e).gives fun _ => scalar_isFinite).bind fun x finite => ?_
  unfold Paint.ofNumber
  rw [Arith.truncate_of_isFinite finite]
  exact .of_ok (hR _)

end

/-! ## Variables that are always there -/

variable {v : View K}

/-- A variable that is always there is found. -/
theorem builtin_failsBy (hv : v.KnowsBuiltins) {name : String}
    (h : isBuiltinVariable name = true) : FailsBy E (v.builtin name) := by
  obtain ⟨x, hx⟩ := hv name h
  rw [hx]
  exact .of_ok trivial

theorem builtinOr_failsBy (hv : v.KnowsBuiltins) {name : Option String}
    (h : ∀ n, name = some n → isBuiltinVariable n = true) (otherwise : K) :
    FailsBy E (v.builtinOr name otherwise) := by
  cases name with
  | none => exact .of_ok trivial
  | some n => exact builtin_failsBy hv (h n rfl)

theorem builtin_getD_failsBy (hv : v.KnowsBuiltins) {name : Option String}
    (h : ∀ n, name = some n → isBuiltinVariable n = true) {usual : String}
    (hu : isBuiltinVariable usual = true) : FailsBy E (v.builtin (name.getD usual)) := by
  cases name with
  | none => exact builtin_failsBy hv hu
  | some n => exact builtin_failsBy hv (h n rfl)

end View

/-! ## Drafts -/

namespace ObjectClass

variable {cls : ObjectClass}

theorem isBuiltin_width {name : String} (h : (sizeVariables cls).width = some name) :
    isBuiltinVariable name = true :=
  isBuiltin_of_size cls _ (by simp) name h

theorem isBuiltin_height {name : String} (h : (sizeVariables cls).height = some name) :
    isBuiltinVariable name = true :=
  isBuiltin_of_size cls _ (by simp) name h

theorem isBuiltin_radius {name : String} (h : (sizeVariables cls).radius = some name) :
    isBuiltinVariable name = true :=
  isBuiltin_of_size cls _ (by simp) name h

/-- Only paths take clauses that describe a path. -/
theorem isLine_of_contains_pathClauses {word : String} (hw : pathClauses.contains word = true)
    (h : (acceptedClauses cls).contains word = true) : cls.isLine = true := by
  have all : ∀ word ∈ pathClauses,
      (acceptedClauses cls).contains word = true → cls.isLine = true := by
    cases cls <;> decide +kernel
  exact all word (List.contains_iff_mem.1 hw) h

end ObjectClass

namespace Draft

/-- Whether a draft has a path if its class is one of paths. -/
def IsWhole (d : Draft K) : Prop := d.object.cls.isLine = true → d.path.isSome = true

variable {v : View K} {d : Draft K}

theorem pathUnit_failsBy (hv : v.KnowsBuiltins) (cls : ObjectClass) :
    FailsBy E (pathUnit v cls) :=
  (View.builtin_getD_failsBy hv (fun _ => ObjectClass.isBuiltin_width) (by decide)).andThen
    fun _ => (View.builtin_getD_failsBy hv (fun _ => ObjectClass.isBuiltin_height)
      (by decide)).andThen fun _ => .of_ok trivial

theorem usualRadius_failsBy (hv : v.KnowsBuiltins) : FailsBy E (d.usualRadius v) :=
  View.builtinOr_failsBy hv (fun _ => ObjectClass.isBuiltin_radius) _

variable [Arith K]

theorem usualWidth_failsBy (hv : v.KnowsBuiltins) : FailsBy E (d.usualWidth v) := by
  unfold usualWidth
  split
  · exact View.builtin_failsBy hv (ObjectClass.isBuiltin_width ‹_›)
  · exact (View.builtin_failsBy hv (ObjectClass.isBuiltin_radius ‹_›)).map fun _ _ => trivial
  · exact .of_ok trivial

theorem usualHeight_failsBy (hv : v.KnowsBuiltins) : FailsBy E (d.usualHeight v) := by
  unfold usualHeight
  split
  · exact View.builtin_failsBy hv (ObjectClass.isBuiltin_height ‹_›)
  · exact (View.builtin_failsBy hv (ObjectClass.isBuiltin_radius ‹_›)).map fun _ _ => trivial
  · exact .of_ok trivial

theorem setFlag_isWhole (h : d.IsWhole) (f : Flag) : (d.setFlag f).IsWhole := by
  cases f with
  | close => exact fun line => Option.isSome_map.trans (h line)
  | _ => exact h

theorem defaultStyle_failsBy (hv : v.Provides E) (cls : ObjectClass) :
    FailsBy E (defaultStyle v cls) := by
  have known : ∀ {name}, isBuiltinVariable name = true →
      Settles E (fun x => v.builtin name = .ok x) (v.builtin name) :=
    fun h => (View.builtin_failsBy hv.builtins h).gives fun _ hx => hx
  exact (known (by decide)).bind fun color hc => (known (by decide)).bind fun fill hf =>
    (View.builtin_failsBy hv.builtins (by decide)).andThen fun _ => (hv.paint hc).andThen fun _ =>
      (hv.paint hf).andThen fun _ => .of_ok trivial

/-- A new draft. -/
theorem begin_failsBy (hv : v.Provides E) (id : Nat) (cls : ObjectClass)
    (direction : Direction) : Settles E IsWhole (Draft.begin v id cls direction) := by
  refine (View.builtinOr_failsBy hv.builtins (fun _ => ObjectClass.isBuiltin_radius) _).andThen
    fun _ => (View.builtinOr_failsBy hv.builtins
      (fun _ => ObjectClass.isBuiltin_width) _).andThen fun _ =>
    (View.builtinOr_failsBy hv.builtins (fun _ => ObjectClass.isBuiltin_height) _).andThen fun _ =>
    (defaultStyle_failsBy hv cls).andThen fun _ => ?_
  dsimp only
  split
  · exact (pathUnit_failsBy hv.builtins cls).andThen fun _ => .of_ok fun _ => rfl
  · rename_i noLine
    exact .of_ok fun line => absurd line noLine

variable [AdmitsMistakes E]

theorem setDimension_failsBy (hv : v.Provides E) (h : d.IsWhole) (what : Dimension)
    (value : Scalar) : Settles E IsWhole (d.setDimension v what value) := by
  cases what with
  | width =>
    refine (usualWidth_failsBy hv.builtins).andThen fun _ =>
      (View.size_failsBy hv _ _).andThen fun x => .of_ok ?_
    unfold setWidth
    split <;> exact h
  | height =>
    refine (usualHeight_failsBy hv.builtins).andThen fun _ =>
      (View.size_failsBy hv _ _).andThen fun x => .of_ok ?_
    unfold setHeight
    split <;> exact h
  | radius =>
    refine (usualRadius_failsBy hv.builtins).andThen fun _ =>
      (View.size_failsBy hv _ _).andThen fun x => .of_ok ?_
    unfold setRadius
    split <;> exact h
  | diameter =>
    exact (usualRadius_failsBy hv.builtins).andThen fun _ =>
      (View.size_failsBy hv _ _).andThen fun x => .of_ok h

theorem dashLength_failsBy (hv : v.Provides E) (gap : Option Scalar) :
    FailsBy E (dashLength v gap) := by
  cases gap with
  | none => exact View.builtin_failsBy hv.builtins (by decide)
  | some e => exact View.scalar_failsBy hv e

theorem sourceOf_failsBy (hv : v.Provides E) (source : Option ObjectRef) :
    FailsBy E (d.sourceOf v source) := by
  cases source with
  | some ref => exact hv.object ref
  | none =>
    unfold sourceOf
    dsimp only
    split
    · exact hv.latest ‹_›
    · exact .reference _

omit [Arith K] [AdmitsMistakes E] in
/-- What is done with a path that is there. -/
theorem onPath_failsBy (h : d.path.isSome = true) {f : Path K → Except Failure (Path K)}
    (hf : ∀ p, FailsBy E (f p)) : Settles E IsWhole (d.onPath f) := by
  obtain ⟨p, hp⟩ := Option.isSome_iff_exists.1 h
  unfold onPath
  rw [hp]
  exact (hf p).andThen fun _ => .of_ok fun _ => rfl

/-- The effect of a clause that the class takes. -/
theorem applyClause_failsBy (hv : v.Provides E) (h : d.IsWhole) {c : Clause}
    (hc : d.object.cls.accepts c = true) : Settles E IsWhole (d.applyClause v c) := by
  have onPath : pathClauses.contains c.keyword = true → ∀ {f : Path K → Except Failure (Path K)},
      (∀ p, FailsBy E (f p)) → Settles E IsWhole (d.onPath f) :=
    fun hw _ hf => onPath_failsBy (h (ObjectClass.isLine_of_contains_pathClauses hw hc)) hf
  have painted : ∀ e {next : Paint → Draft K}, (∀ c, (next c).IsWhole) → Settles E IsWhole (do
      let x ← v.scalar e
      let paint ← liftFault (Paint.ofNumber x)
      .ok (next paint)) := fun e next hn => by
    have paint := View.paint_failsBy hv e (fun c => hn c)
    rw [← bind_assoc]
    exact paint.bind fun c hc => .of_ok hc
  cases c with
  | text line => exact .of_ok h
  | arrow heads => exact .of_ok h
  | size what value => exact setDimension_failsBy hv h what value
  | thickness value =>
    exact (View.builtin_failsBy hv.builtins (by decide)).andThen fun _ =>
      (View.size_failsBy hv _ _).andThen fun _ => .of_ok h
  | flag what => exact .of_ok (setFlag_isWhole h what)
  | dotted gap => exact (dashLength_failsBy hv gap).andThen fun _ => .of_ok h
  | dashed gap => exact (dashLength_failsBy hv gap).andThen fun _ => .of_ok h
  | fill value => exact painted value fun _ => h
  | color value => exact painted value fun _ => h
  | same source => exact (sourceOf_failsBy hv source).andThen fun _ => .of_ok h
  | located q => exact (View.position_failsBy hv q).andThen fun _ => .of_ok h
  | anchored anchor q => exact (View.position_failsBy hv q).andThen fun _ => .of_ok h
  | start q =>
    refine (View.position_failsBy hv q).andThen fun _ =>
      (onPath rfl fun _ => .of_ok trivial).bind fun _ h' => ?_
    exact (View.wholeObject_failsBy hv q).andThen fun _ => .of_ok h'
  | target q =>
    refine (View.position_failsBy hv q).andThen fun point => .ite ?_ ?_
    · exact (View.wholeObject_failsBy hv q).andThen fun _ => .of_ok h
    · refine (onPath rfl fun _ => .of_ok trivial).bind fun _ h' => ?_
      exact (View.wholeObject_failsBy hv q).andThen fun _ => .of_ok h'
  | next =>
    refine onPath rfl fun p => ?_
    split
    · exact .of_ok trivial
    · exact .ofCause _
  | direction dir length =>
    cases length with
    | none => exact onPath rfl fun _ => .of_ok trivial
    | some e =>
      exact onPath rfl fun _ => (View.size_failsBy hv _ _).andThen fun _ => .of_ok trivial
  | directionUntil dir q =>
    exact onPath rfl fun _ => (View.position_failsBy hv q).andThen fun _ => .of_ok trivial
  | heading angle length =>
    cases length with
    | none =>
      exact onPath rfl fun _ => (View.scalar_failsBy hv _).andThen fun _ => .of_ok trivial
    | some e =>
      exact onPath rfl fun _ => (View.scalar_failsBy hv _).andThen fun _ =>
        (View.scalar_failsBy hv _).andThen fun _ => .of_ok trivial
  | untilEven q =>
    exact onPath rfl fun _ => (View.position_failsBy hv q).andThen fun _ => .of_ok trivial
  | distance value =>
    exact onPath rfl fun _ => (View.size_failsBy hv _ _).andThen fun _ => .of_ok trivial

theorem apply_failsBy (hv : v.Provides E) (h : d.IsWhole) (a : Attribute) :
    Settles E IsWhole (d.apply v a) := by
  refine Settles.locating ?_ a.pos
  split
  · exact applyClause_failsBy hv h ‹_›
  · exact .ofCause _

theorem applyAll_failsBy (hv : v.Provides E) (h : d.IsWhole) (as : List Attribute) :
    Settles E IsWhole (Draft.applyAll v d as) := by
  induction as generalizing d with
  | nil => exact .of_ok h
  | cons a as ih =>
    rw [applyAll, List.foldlM_cons]
    exact (apply_failsBy hv h a).bind fun _ h' => ih h'

end Draft

end DiagramScript
