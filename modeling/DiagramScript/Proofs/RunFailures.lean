import DiagramScript.Proofs.EvaluationFailures
import DiagramScript.Proofs.FailedStatements
import DiagramScript.Proofs.Declarations

/-!
# How runs can fail

Besides what evaluation looks up, placing an object needs the object placed before it, the extent of
a text, the points of a path, and the places where a path is cut off.  A run fails by the mistakes
of its script, or as one of these fails.

* `Setting.Provides`, `Draft.IsPlaceable` — what placing looks up and computes;
  `Draft.place_failsBy`.
* `Drawing.sketch` — a draft before it is placed.
* `Drawing.declare_failsBy`, `Drawing.group_failsBy` and their like — one statement.
* `Resources.Provides` — what is there wherever a run comes to; `run_failsBy` — runs.
-/

namespace DiagramScript

variable {K : Type} [Arith K] {E : Failure → Prop}

/-! ## Placement -/

/-- What placement looks up: it is there, or placement fails in one of some ways. -/
structure Setting.Provides (E : Failure → Prop) (s : Setting K) : Prop where
  /-- What evaluation looks up. -/
  view : s.view.Provides E
  /-- The object placed last. -/
  flow : ∀ {id}, s.cursor.flow = some id → FailsBy E (s.view.registry.object id)

/-- What placing a draft computes: there is a result, or placing fails in one of some ways. -/
structure Draft.IsPlaceable (E : Failure → Prop) (s : Setting K) (d : Draft K) : Prop where
  /-- The extent of the text of a frame that is sized by it. -/
  text : d.object.cls.isLine = false → d.object.text ≠ [] → (d.fit = true ∨ d.object.cls = .text) →
    ∀ charHeight fontScale : K,
      FailsBy E (liftFault (textBlockSize s.measure d.object.text charHeight fontScale))
  /-- The points of a path. -/
  points : ∀ {path}, d.path = some path → ∀ origin,
    FailsBy E (((path.setOrigin origin).build origin).mapError (.fault ·.fault))
  /-- The outlines at which a path is cut off. -/
  outlines : d.object.cls.isLine = true → d.chop = true → ∀ {id},
    d.fromObject = some id ∨ d.toObject = some id →
      ∀ toward, FailsBy E (boundary s.view.registry id toward)

theorem stackingStart_failsBy {s : Setting K} (hs : s.Provides E) (framed : Bool) :
    FailsBy E (stackingStart s framed) := by
  unfold stackingStart
  split
  · exact .of_ok trivial
  · refine (hs.flow ‹_›).andThen fun _ => .ite (.of_ok trivial) ?_
    refine (View.builtin_failsBy hs.view.builtins (by decide)).andThen fun _ => ?_
    exact .ite (.of_ok trivial) (.of_ok trivial)

namespace Draft

variable {s : Setting K} {d : Draft K}

theorem sizeToText_failsBy (hs : s.Provides E) (h : d.IsPlaceable E s)
    (frame : d.object.cls.isLine = false) : FailsBy E (d.sizeToText s) := by
  unfold sizeToText
  split
  · exact .of_ok trivial
  · rename_i sized
    rw [not_or, List.isEmpty_iff] at sized
    obtain ⟨nonempty, sized⟩ := sized
    have asks : d.fit = true ∨ d.object.cls = .text := by
      simpa [Decidable.or_iff_not_imp_left] using sized
    refine (View.builtin_failsBy hs.view.builtins (by decide)).andThen fun _ =>
      (View.builtin_failsBy hs.view.builtins (by decide)).andThen fun _ =>
        (h.text frame nonempty asks _ _).andThen fun _ => ?_
    refine .ite (FailsBy.andThen ?_ fun _ => .of_ok trivial) (.of_ok trivial)
    exact (View.builtin_failsBy hs.view.builtins (by decide)).andThen fun _ => .of_ok trivial

theorem placeFramed_failsBy (hs : s.Provides E) : FailsBy E (d.placeFramed s) := by
  unfold placeFramed
  split
  · exact .of_ok trivial
  · exact (stackingStart_failsBy hs true).andThen fun _ => .of_ok trivial

theorem pathPoints_failsBy (h : d.IsPlaceable E s) {path : Path K} (hp : d.path = some path)
    (start : Point K) (serial : Nat) : FailsBy E (d.pathPoints path start serial) := by
  unfold pathPoints
  dsimp only
  split
  · exact .of_ok trivial
  · split
    · exact .of_ok trivial
    · exact h.points hp _

theorem chopStart_failsBy {r : Registry K} {whole : Option Nat}
    (h : ∀ {id}, whole = some id → ∀ toward, FailsBy E (boundary r id toward))
    (points : List (Point K)) : FailsBy E (chopStart r whole points) := by
  unfold chopStart
  split
  · exact (h rfl _).andThen fun _ => .of_ok trivial
  · exact .of_ok trivial

theorem placePath_failsBy (hs : s.Provides E) (h : d.IsPlaceable E s)
    (line : d.object.cls.isLine = true) (whole : d.path.isSome = true) :
    FailsBy E (d.placePath s) := by
  obtain ⟨path, hp⟩ := Option.isSome_iff_exists.1 whole
  unfold placePath
  rw [hp]
  refine (stackingStart_failsBy hs false).andThen fun start =>
    (pathPoints_failsBy h hp start s.serial).andThen fun built => ?_
  by_cases chop : d.chop = true
  · rw [if_pos chop]
    have cut : FailsBy E (d.chopEnds s.view.registry built.1) :=
      (chopStart_failsBy (fun starts => h.outlines line chop (.inl starts)) _).andThen fun _ =>
        (chopStart_failsBy (fun ends => h.outlines line chop (.inr ends)) _).andThen fun _ =>
          .of_ok trivial
    refine cut.andThen fun _ => ?_
    dsimp only
    split <;> exact .of_ok trivial
  · rw [if_neg chop]
    dsimp only [ok_bind]
    split <;> exact .of_ok trivial

/-- Placing a draft fails as what it computes fails. -/
theorem place_failsBy (hs : s.Provides E) (h : d.IsPlaceable E s) (whole : d.IsWhole) :
    FailsBy E (d.place s) := by
  unfold place
  split
  · exact placePath_failsBy hs h ‹_› (whole ‹_›)
  · rename_i frame
    exact (sizeToText_failsBy hs h (Bool.not_eq_true _ ▸ frame)).andThen fun _ =>
      (placeFramed_failsBy hs).andThen fun _ => .of_ok trivial

end Draft

/-! ## Statements -/

/-- A finite number has a numeral. -/
theorem numberText_failsBy [AdmitsMistakes E] (x : K) : FailsBy E (numberText x) := by
  unfold numberText
  split
  · rename_i finite
    unfold Arith.compact
    rw [Arith.nearest_of_isFinite finite, ok_bind]
    split <;> exact .of_ok trivial
  · exact .eval _

theorem pointText_failsBy [AdmitsMistakes E] (p : Point K) : FailsBy E (Drawing.pointText p) :=
  (numberText_failsBy p.x).andThen fun _ => (numberText_failsBy p.y).andThen fun _ =>
    .of_ok trivial

omit [Arith K] in
theorem Registry.requireFree_failsBy [AdmitsMistakes E] (r : Registry K) (s : Nat)
    (label : String) : FailsBy E (r.requireFree s label) :=
  .ite (.reference _) (.of_ok trivial)

namespace Drawing

variable {t : Resources K} {d : Drawing K}

omit [Arith K] in
theorem attempt_failsBy {r : Except Failure (Drawing K)} (h : FailsBy E r) :
    FailsBy E (d.attempt r).1 := by
  cases r with
  | ok next => exact .of_ok trivial
  | error e => exact .of_error (h.error e rfl)

/-! ### Objects -/

/-- The draft of an object before it is placed. -/
def sketch (d : Drawing K) (t : Resources K) (id : Nat) (cls : ObjectClass)
    (attributes : List Attribute) : Except Failure (Draft K) := do
  let plain ← Draft.begin (d.view t) id cls d.cursor.direction
  plain.applyAll (d.view t) attributes

theorem draft_eq (id : Nat) (cls : ObjectClass) (attributes : List Attribute) :
    d.draft t id cls attributes =
      d.sketch t id cls attributes >>= fun full => full.place (d.setting t) :=
  (bind_assoc _ _ _).symm

variable [AdmitsMistakes E]

theorem sketch_failsBy (hv : (d.view t).Provides E) (id : Nat) (cls : ObjectClass)
    (attributes : List Attribute) :
    Settles E Draft.IsWhole (d.sketch t id cls attributes) :=
  (Draft.begin_failsBy hv id cls d.cursor.direction).bind fun _ plain =>
    Draft.applyAll_failsBy hv plain attributes

theorem draft_failsBy (hs : (d.setting t).Provides E) {id : Nat} {cls : ObjectClass}
    {attributes : List Attribute}
    (hp : Ensures (Draft.IsPlaceable E (d.setting t)) (d.sketch t id cls attributes)) :
    FailsBy E (d.draft t id cls attributes) := by
  have sketched := sketch_failsBy hs.view id cls attributes
  rw [draft_eq]
  cases h : d.sketch t id cls attributes with
  | error e => exact .of_error (sketched.error e h)
  | ok full => exact Draft.place_failsBy hs (hp full h) (sketched.ok full h)

/-- Finishing an object fails only if its label is taken. -/
theorem finish_failsBy {draft : Draft K} (h : draft.object.id < d.registry.arena.length)
    (exit : Option Direction) (label : Option String) :
    FailsBy E (d.finish draft exit label).1 := by
  cases hf : (d.finish draft exit label).1 with
  | ok u => exact .of_ok trivial
  | error f =>
    obtain ⟨name, -, -, rfl, -⟩ := finish_error (List.getElem?_eq_getElem h) hf
    exact .reference _

theorem declare_failsBy {cls : ObjectClass} {attributes : List Attribute}
    (hs : ((d.create cls).2.setting t).Provides E)
    (hp : Ensures (Draft.IsPlaceable E ((d.create cls).2.setting t))
      ((d.create cls).2.sketch t (d.create cls).1 cls attributes)) (label : Option String) :
    FailsBy E (d.declare t cls label attributes).1 := by
  have drawn := draft_failsBy hs hp
  unfold declare
  dsimp only
  split
  · exact .of_error (drawn.error _ ‹_›)
  · rename_i draft exit drafted
    have number : draft.object.id = d.registry.arena.length :=
      congrArg Standing.id (draft_standing _ _ _ _ drafted)
    have count := d.store_create_length cls draft
    exact finish_failsBy (by omega) exit label

/-! ### Groups -/

theorem groupDraft_failsBy (hs : (d.setting t).Provides E) (id inner : Nat) (origin : Point K)
    (attributes : List Attribute) : FailsBy E (d.groupDraft t id inner origin attributes) := by
  refine (Draft.begin_failsBy hs.view id .container d.cursor.direction).bind fun plain whole => ?_
  have enclosing : (enclose plain origin (scopeBox d.registry inner)).IsWhole := by
    unfold enclose
    split <;> exact whole
  refine (Draft.applyAll_failsBy hs.view enclosing attributes).bind fun _ _ => ?_
  exact (Draft.placeFramed_failsBy hs).andThen fun _ => .of_ok trivial

theorem group_failsBy (hs : ((d.create .container).2.setting t).Provides E) (inner : Nat)
    (origin : Point K) (label : Option String) (attributes : List Attribute) :
    FailsBy E (d.group t inner origin label attributes).1 := by
  have drawn := groupDraft_failsBy hs (d.create .container).1 inner origin attributes
  unfold group
  dsimp only
  split
  · exact .of_error (drawn.error _ ‹_›)
  · rename_i full placed drafted
    have number : placed.object.id = d.registry.arena.length :=
      congrArg Standing.id (groupDraft_standing _ _ _ _ _ drafted)
    have count := (d.assemble_counts inner full placed).1
    exact finish_failsBy (d := d.assemble inner full placed) (by omega) none label

/-! ### Other statements -/

theorem assign_failsBy (hv : (d.view t).Provides E) (name : String) (op : AssignOp) (e : Scalar) :
    FailsBy E (d.assign t name op e) := by
  refine (View.scalar_failsBy hv e).andThen fun value =>
    FailsBy.andThen ?_ fun _ => .of_ok trivial
  unfold assigned
  split
  · exact .of_ok trivial
  · split
    · exact .eval _
    · exact (View.operate_failsBy _ _ _).andThen fun _ => .ite (.of_ok trivial) (.eval _)

theorem print_failsBy (hv : (d.view t).Provides E) (items : List PrintItem) :
    FailsBy E (d.print t items) := by
  refine FailsBy.andThen ?_ fun _ => .of_ok trivial
  induction items with
  | nil => exact .of_ok trivial
  | cons i items ih =>
    rw [List.mapM_cons]
    refine FailsBy.andThen ?_ fun _ => ih.andThen fun _ => .of_ok trivial
    cases i with
    | text s => exact .of_ok trivial
    | value e => exact (View.scalar_failsBy hv e).andThen fun x => numberText_failsBy x

theorem assertScalars_failsBy (hv : (d.view t).Provides E) (left right : Scalar) :
    FailsBy E (d.assertScalars t left right) :=
  (View.scalar_failsBy hv left).andThen fun a => (View.scalar_failsBy hv right).andThen fun b =>
    (numberText_failsBy a).andThen fun _ => (numberText_failsBy b).andThen fun _ =>
      .ite (.of_ok trivial) (.eval _)

theorem assertPositions_failsBy (hv : (d.view t).Provides E) (left right : Position) :
    FailsBy E (d.assertPositions t left right) :=
  (View.position_failsBy hv left).andThen fun a => (View.position_failsBy hv right).andThen fun b =>
    (pointText_failsBy a).andThen fun _ => (pointText_failsBy b).andThen fun _ =>
      .ite (.of_ok trivial) (.eval _)

theorem bindPlace_failsBy (hv : (d.view t).Provides E) (label : String) (q : Position) :
    FailsBy E (d.bindPlace t label q) :=
  (View.position_failsBy hv q).andThen fun _ => FailsBy.andThen
    ((d.registry.requireFree_failsBy d.scope label).andThen fun _ => .of_ok trivial)
      fun _ => .of_ok trivial

end Drawing

/-! ## Runs -/

/-- What the statements of a script look up and compute, wherever a run comes to.  `asked` tells
which declarations the script has. -/
structure Resources.Provides (t : Resources K) (E : Failure → Prop)
    (asked : Declaration → Prop) : Prop where
  /-- What a statement looks up. -/
  reached : ∀ {d : Drawing K}, d.Reachable t → (d.setting t).Provides E
  /-- What is looked up while an object is drafted; before a group is, its body is run. -/
  created : ∀ {d inside : Drawing K} (cls : ObjectClass), d.Reachable t → inside.Reachable t →
    Registry.Evolves d.scope d.registry inside.registry →
      (((inside.leave d).create cls).2.setting t).Provides E
  /-- What placing an object computes. -/
  placeable : ∀ {d : Drawing K} {cls : ObjectClass} {label : Option String}
    {attributes : List Attribute}, d.Reachable t → asked ⟨cls, label, attributes⟩ →
      Ensures (Draft.IsPlaceable E ((d.create cls).2.setting t))
        ((d.create cls).2.sketch t (d.create cls).1 cls attributes)

section Runs

variable {t : Resources K} {asked : Declaration → Prop}

mutual

/-- A statement fails by mistakes, or as what it looks up or computes fails. -/
theorem execute_failsBy [AdmitsMistakes E] (ht : t.Provides E asked) {d : Drawing K}
    (hd : d.Reachable t) (s : Statement) (hs : ∀ decl ∈ s.declarations, asked decl) :
    FailsBy E (execute t d s).1 := by
  have here : (d.setting t).Provides E := ht.reached hd
  cases s with
  | object p cls label attributes =>
    have asks : asked ⟨cls, label, attributes⟩ :=
      hs _ (by rw [Statement.declarations]; exact List.mem_singleton_self _)
    have drawn := Drawing.declare_failsBy (ht.created cls hd hd (.refl _ _))
      (ht.placeable hd asks) label
    rw [execute]
    exact drawn.locating p
  | group p body label attributes =>
    have within : ∀ decl ∈ declarationsOf body, asked decl := fun decl hm =>
      hs decl (by rw [Statement.declarations]; exact List.mem_append_left _ hm)
    cases ho : stackingStart (d.setting t) true with
    | error e =>
      have starts := stackingStart_failsBy here true
      rw [execute, ho]
      exact (Settles.of_error (starts.error e ho) : FailsBy E (.error e)).locating p
    | ok origin =>
      have drawn := run_failsBy ht (hd.enter ho) body within
      have evolves := run_evolves (t := t) body (hd.enter ho).scope_lt
      have reached := (hd.enter ho).run body
      rw [execute_group ho]
      rcases hr : run t (d.enter origin) body with ⟨e | u, inside⟩
      · rw [hr] at drawn
        exact (Settles.of_error (drawn.error e rfl) : FailsBy E (.error e)).locating p
      · rw [hr] at evolves reached
        have around := ht.created .container hd reached (.body evolves.registry)
        exact (Drawing.group_failsBy around d.registry.scopes.length origin label
          attributes).locating p
  | assign p name op value =>
    rw [execute]
    exact (Drawing.attempt_failsBy (Drawing.assign_failsBy here.view name op value)).locating p
  | direction p dir =>
    rw [execute]
    exact .of_ok trivial
  | print p items =>
    rw [execute]
    exact (Drawing.attempt_failsBy (Drawing.print_failsBy here.view items)).locating p
  | assertScalars p left right =>
    rw [execute]
    exact (Drawing.attempt_failsBy (Drawing.assertScalars_failsBy here.view left right)).locating p
  | assertPositions p left right =>
    rw [execute]
    exact (Drawing.attempt_failsBy
      (Drawing.assertPositions_failsBy here.view left right)).locating p
  | place p label q =>
    rw [execute]
    exact (Drawing.attempt_failsBy (Drawing.bindPlace_failsBy here.view label q)).locating p

/-- So do several. -/
theorem run_failsBy [AdmitsMistakes E] (ht : t.Provides E asked) {d : Drawing K}
    (hd : d.Reachable t) (ss : List Statement) (hs : ∀ decl ∈ declarationsOf ss, asked decl) :
    FailsBy E (run t d ss).1 := by
  cases ss with
  | nil =>
    rw [run]
    exact .of_ok trivial
  | cons s ss =>
    rw [declarationsOf, List.forall_mem_append] at hs
    have first := execute_failsBy ht hd s hs.1
    rw [run]
    cases h : (execute t d s).1 with
    | error e => exact .of_error (first.error e h)
    | ok u => exact run_failsBy ht (hd.execute s) ss hs.2

end

end Runs

end DiagramScript
