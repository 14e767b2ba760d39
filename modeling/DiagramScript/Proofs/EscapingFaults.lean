import DiagramScript.Proofs.CompleteExpansion
import DiagramScript.Proofs.FiniteNumbers
import DiagramScript.Proofs.FoundObjects
import DiagramScript.Proofs.RoundObjects
import DiagramScript.Proofs.RunFailures

/-!
# Faults that escape

A script that cannot be drawn should say what is wrong with it.  Evaluation looks at all numbers
before they are used, and references mean finished objects, so that neither evaluation nor the
building of a path fails in another way.  But two computations go on with numbers that nobody has
looked at: a path is cut off at a round outline however far away it comes from, and a frame is sized
by its text whatever size the letters have.

* `FiniteAngles` — numbers among which sines and cosines are finite; `MachineNumber.finiteAngles` —
  what that asks of the machine.
* `Path.build_succeeds` — paths with finite angles have points.
* `Declaration.MayCause` — the faults that a declaration can cause.
* `View.provides`, `Setting.provides` — what a run looks up is there.
* `Draft.Sketched` — what clauses make of a draft; `Draft.Sketched.isPlaceable` — placing it.
* `Resources.standard_provides` — the same wherever a run comes to.
* `Diagram.compile_error` — how a script can fail to have a diagram.
-/

namespace DiagramScript

variable {K : Type}

/-! ## Angles -/

/-- Numbers among which those that scripts start with are finite, and so are the sine and the cosine
of a finite angle. -/
class FiniteAngles (K : Type) [Arith K] : Prop extends FiniteStart K where
  /-- The sine of a finite angle is finite. -/
  sine : ∀ x : K, Arith.isFinite x = true → Arith.isFinite (Arith.sinDegrees x) = true
  /-- So is its cosine. -/
  cosine : ∀ x : K, Arith.isFinite x = true → Arith.isFinite (Arith.cosDegrees x) = true
  /-- The angles of a compass are finite. -/
  compass : ∀ c : Compass, Arith.isFinite (Arith.num c.degrees : K) = true

instance [ExactNumber K] : FiniteAngles K where
  toFiniteStart := inferInstance
  sine _ _ := rfl
  cosine _ _ := rfl
  compass _ := rfl

/-- For machine numbers these laws say that the sine and the cosine of finitely many degrees are
finite, which is up to the library that calculates them. -/
theorem MachineNumber.finiteAngles
    (sine : ∀ x : Float, x.isFinite = true →
      (Float.sin (x * Binary64.radiansPerDegree)).isFinite = true)
    (cosine : ∀ x : Float, x.isFinite = true →
      (Float.cos (x * Binary64.radiansPerDegree)).isFinite = true) :
    FiniteAngles MachineNumber where
  toFiniteStart := inferInstance
  sine x hx := sine x.value hx
  cosine x hx := cosine x.value hx
  compass c := by cases c <;> decide +kernel

variable [Arith K]

/-- A finite number can be snapped. -/
theorem exists_snap_eq_ok {x : K} (h : Arith.isFinite x = true) : ∃ y, snap x = .ok y := by
  unfold snap
  rw [Arith.nearest_of_isFinite h, ok_bind]
  split <;> exact ⟨_, rfl⟩

/-- A finite angle has a vector. -/
theorem exists_headingVector_eq_ok [FiniteAngles K] {x : K} (h : Arith.isFinite x = true) :
    ∃ v, headingVector x = .ok v := by
  obtain ⟨a, ha⟩ := exists_snap_eq_ok (FiniteAngles.sine x h)
  obtain ⟨b, hb⟩ := exists_snap_eq_ok (FiniteAngles.cosine x h)
  unfold headingVector
  rw [h, Bool.true_or, if_pos rfl, ha, ok_bind, hb]
  exact ⟨_, rfl⟩

/-! ## Paths -/

namespace Path

variable [FiniteAngles K] (p : Path K)

theorem step_succeeds (start : Point K) (r : Reach K) {m : Move K}
    (h : ∀ x ∈ m.headings, Arith.isFinite x = true) : Succeeds (p.step start r m) := by
  cases m with
  | heading degrees distance =>
    obtain ⟨v, hv⟩ := exists_headingVector_eq_ok (h degrees (List.mem_singleton_self _))
    unfold step
    dsimp only
    rw [hv]
    exact .of_ok trivial
  | straight d distance => exact .of_ok trivial
  | untilEven d target => exact .of_ok trivial

theorem resolveMoves_succeeds (start : Point K) (exit : Option Direction) {ms : List (Move K)}
    (h : ∀ m ∈ ms, ∀ x ∈ m.headings, Arith.isFinite x = true) :
    Succeeds (p.resolveMoves start exit ms) := by
  refine Settles.bind (Q := fun _ => True) ?_ fun _ _ => .of_ok trivial
  generalize (⟨Arith.num 0, Arith.num 0, exit⟩ : Reach K) = r
  induction ms generalizing r with
  | nil => exact .of_ok trivial
  | cons m ms ih =>
    rw [List.foldlM_cons]
    rw [List.forall_mem_cons] at h
    exact (p.step_succeeds start r h.1).bind fun r' _ => ih h.2 r'

theorem follow_succeeds (here : Point K) (exit : Option Direction) {ss : List (Segment K)}
    (h : ∀ s ∈ ss, ∀ x ∈ s.headings, Arith.isFinite x = true) :
    Succeeds (p.follow here exit ss) := by
  induction ss generalizing here exit with
  | nil => exact .of_ok trivial
  | cons s ss ih =>
    rw [List.forall_mem_cons] at h
    match s with
    | .target q => exact (ih q none h.2).bind fun _ _ => .of_ok trivial
    | .moves [] => exact ih here exit h.2
    | .moves (m :: ms) =>
      have finite : ∀ m' ∈ (m :: ms).reverse, ∀ x ∈ m'.headings, Arith.isFinite x = true :=
        fun m' hm x hx => h.1 x (List.mem_flatMap.2 ⟨m', List.mem_reverse.1 hm, hx⟩)
      exact (p.resolveMoves_succeeds here exit finite).bind fun q _ =>
        (ih q.1 q.2 h.2).bind fun _ _ => .of_ok trivial

/-- A path all of whose angles are finite has points. -/
theorem build_succeeds (h : ∀ x ∈ p.headings, Arith.isFinite x = true) (start : Point K) :
    Succeeds (p.build start) := by
  have finite : ∀ s ∈ p.segments, ∀ x ∈ s.headings, Arith.isFinite x = true :=
    fun s hs x hx => h x (List.mem_flatMap.2 ⟨s, hs, hx⟩)
  exact (p.follow_succeeds (p.origin.getD start) none finite).bind fun _ _ =>
    .ite (.of_ok trivial) (.of_ok trivial)

end Path

/-! ## Declarations -/

/-- Whether a clause has the ends of a path cut off. -/
def Clause.cutsOff : Clause → Bool
  | .flag .chop => true
  | _ => false

namespace Declaration

/-- Whether a path is cut off at the outlines of the objects that it joins. -/
def isCutOff (decl : Declaration) : Bool :=
  decl.cls.isLine && decl.attributes.any (·.clause.cutsOff)

/-- Whether a frame is sized by its text. -/
def isSizedByText (decl : Declaration) : Bool :=
  !decl.cls.isLine && !decl.lines.isEmpty &&
    (decide (decl.cls = .text) || decl.attributes.any (·.clause.asksFit))

/-- The faults that placing the object of a declaration can come upon. -/
def MayCause (decl : Declaration) : Fault → Prop
  | .squareOverflow => decl.isCutOff = true
  | .divisionByZero => decl.isCutOff = true
  | .infinityToInteger => decl.isSizedByText = true
  | .nanToInteger => decl.isSizedByText = true
  | .domain => False
  | .tooManyDigits _ => False

end Declaration

section Faults

variable {E : Failure → Prop}

/-- A computation whose faults become failures. -/
theorem liftFault_settles {α : Type} {P : Fault → Prop} {Q : α → Prop} {r : Except Fault α}
    (h : Settles P Q r) (hE : ∀ f, P f → E (.fault f)) : Settles E Q (liftFault r) := by
  cases r with
  | ok x => exact .of_ok (h.ok x rfl)
  | error f => exact .of_error (hE f (h.error f rfl))

/-- Whether a number cannot be turned into an integer. -/
def Fault.IsConversion (f : Fault) : Prop := f = .infinityToInteger ∨ f = .nanToInteger

/-- Whether a line toward an ellipse cannot be cut off. -/
def Fault.IsCrossing (f : Fault) : Prop := f = .squareOverflow ∨ f = .divisionByZero

theorem standardMeasurer_settles (text : String) (size : K) (mono bold : Bool) :
    Settles Fault.IsConversion (fun _ => True) (standardMeasurer text size mono bold) := by
  unfold standardMeasurer Arith.nearest Arith.finite
  dsimp only
  split
  · exact .of_ok trivial
  · split
    · exact .of_error (.inr rfl)
    · exact .of_error (.inl rfl)

theorem textBlockSize_settles (lines : List TextLine) (charHeight fontScale : K) :
    Settles Fault.IsConversion (fun _ => True)
      (textBlockSize standardMeasurer lines charHeight fontScale) := by
  unfold textBlockSize
  generalize ((Arith.num 0, Arith.num 0) : K × K) = block
  induction lines generalizing block with
  | nil => exact .of_ok trivial
  | cons line lines ih => exact (standardMeasurer_settles _ _ _ _).bind fun _ _ => ih _

theorem outlinePoint_settles (center : Point K) (width height : K) (toward : Point K)
    ( isRound : Bool) (box : Box K) : Settles Fault.IsCrossing (fun _ => True)
      (outlinePoint center width height toward isRound box) := by
  have square : ∀ x : K, Settles Fault.IsCrossing (fun _ => True) (Arith.square x) := fun x =>
    .ite (.of_error (.inl rfl)) (.of_ok trivial)
  have reciprocal : ∀ x : K, Settles Fault.IsCrossing (fun _ => True) (Arith.reciprocal x) :=
    fun x => .ite (.of_error (.inr rfl)) (.of_ok trivial)
  refine .ite (.ite (.of_ok trivial) ?_) (.of_ok trivial)
  exact (square _).bind fun _ _ => (square _).bind fun _ _ => (reciprocal _).bind fun _ _ =>
    .of_ok trivial

end Faults

/-! ## What evaluation looks up -/

section Evaluation

variable {E : Failure → Prop} {v : View K}

/-- A finished object is there. -/
theorem Registry.object_failsBy {r : Registry K} {id : Nat} (h : ∃ o, r.Finished id o) :
    FailsBy E (r.object id) := by
  obtain ⟨o, ho, -⟩ := h
  rw [Registry.object_eq_ok.2 ho]
  exact .of_ok trivial

namespace View

/-- A reference means a finished object, or there is a mistake in it. -/
theorem follow_settles [AdmitsMistakes E] {r : Registry K} (h : r.IsSound) (s : Nat)
    (ref : ObjectRef) : Settles E (fun id => ∃ o, r.Finished id o) (follow r s ref) := by
  refine FailsBy.gives ?_ fun id => h.exists_finished_of_follow
  induction ref with
  | previous p => exact r.previous_failsBy s
  | select p sel => exact r.select_failsBy s false sel
  | member p group q sel ih =>
    refine (FailsBy.gives ih fun id => h.exists_finished_of_follow).bind fun id known => ?_
    refine FailsBy.andThen ?_ fun inner => r.select_failsBy inner true sel
    -- what has no members is there all the same, so that its class can be told
    unfold Registry.scopeOf
    split
    · exact .of_ok trivial
    · exact (Registry.object_failsBy known).andThen fun _ => .reference _

theorem objectId_settles [AdmitsMistakes E] (h : v.registry.IsSound) (ref : ObjectRef) :
    Settles E (fun id => ∃ o, v.registry.Finished id o) (v.objectId ref) :=
  (follow_settles h v.scope ref).locating ref.pos

omit [Arith K] in
/-- The object that a position means is finished. -/
theorem wholeObject_finished (h : v.registry.IsSound) (q : Position) :
    Ensures (fun whole => ∀ id, whole = some id → ∃ o, v.registry.Finished id o)
      (v.wholeObject q) := by
  unfold wholeObject
  split
  · split
    · exact .ok nofun
    · refine .map (.locating (fun id => h.exists_finished_of_follow) _) fun id known => ?_
      rintro i ⟨⟩
      exact known
  · exact .ok nofun

/-- What evaluation looks up is there, or there is a mistake in the script. -/
theorem provides [FiniteAngles K] [AdmitsMistakes E] (sound : v.registry.IsSound)
    (known : v.KnowsBuiltins) (finite : v.registry.FiniteVariables) : v.Provides E where
  builtins := known
  number ref := (objectId_settles sound ref).imp fun _ _ => trivial
  object ref := (objectId_settles sound ref).bind fun _ => Registry.object_failsBy
  latest {cls id} found := by
    obtain ⟨-, known, -⟩ := (sound.counted.lookups v.scope).own id (.inr ⟨cls, 1, true, found⟩)
    exact Registry.object_failsBy known
  heading hx := by
    obtain ⟨u, hu⟩ := exists_headingVector_eq_ok hx
    rw [hu]
    exact .of_ok trivial
  compass c := by
    obtain ⟨u, hu⟩ := exists_headingVector_eq_ok (FiniteAngles.compass (K := K) c)
    rw [compassVector, hu]
    exact .of_ok trivial
  paint hx := by
    unfold Paint.ofNumber
    rw [Arith.truncate_of_isFinite (Draft.builtin_isFinite finite _ _ hx)]
    exact .of_ok trivial

end View

end Evaluation

/-! ## Drafts -/

namespace Draft

variable {v : View K} {d d' : Draft K} {as : List Attribute}

/-- What a draft says of its path, and whether it fits its text. -/
def route (d : Draft K) : Option (Path K) × Option Nat × Option Nat × Bool × Bool :=
  (d.path, d.fromObject, d.toObject, d.chop, d.fit)

theorem resize_route (what : Dimension) (x : K) : (d.resize what x).route = d.route := by
  obtain ⟨_, _, _, _, _, h⟩ := d.exists_resize_eq what x
  rw [h]
  rfl

/-- What clauses make of a draft, as far as placing it depends on that. -/
structure Sketched (v : View K) (as : List Attribute) (d : Draft K) : Prop where
  /-- The angles of its path are finite. -/
  headings : ∀ x ∈ d.headings, Arith.isFinite x = true
  /-- It starts at a finished object, if at any. -/
  starts : ∀ id, d.fromObject = some id → ∃ o, v.registry.Finished id o
  /-- It ends at one. -/
  ends : ∀ id, d.toObject = some id → ∃ o, v.registry.Finished id o
  /-- It is cut off only if a clause says so. -/
  chop : d.chop = true → as.any (·.clause.cutsOff) = true
  /-- It fits its text only if a clause says so. -/
  fit : d.fit = true → as.any (·.clause.asksFit) = true

theorem begin_sketched (v : View K) (id : Nat) (cls : ObjectClass) (direction : Direction) :
    Ensures (Sketched v []) (Draft.begin v id cls direction) := by
  refine .andThen fun _ => .andThen fun _ => .andThen fun _ => .andThen fun _ => .ite ?_ ?_
  · exact .andThen fun _ => .ok ⟨nofun, nofun, nofun, nofun, nofun⟩
  · exact .ok ⟨nofun, nofun, nofun, nofun, nofun⟩

theorem Sketched.of_route (h : d.Sketched v as) (a : Attribute) (same : d'.route = d.route) :
    d'.Sketched v (as ++ [a]) := by
  obtain ⟨path, starts, ends, chop, fit⟩ : d'.path = d.path ∧ d'.fromObject = d.fromObject ∧
      d'.toObject = d.toObject ∧ d'.chop = d.chop ∧ d'.fit = d.fit := by
    simpa only [route, Prod.mk.injEq] using same
  refine ⟨?_, starts ▸ h.starts, ends ▸ h.ends, fun hc => ?_, fun hf => ?_⟩
  · rw [Draft.headings, path]
    exact h.headings
  · rw [List.any_append, h.chop (chop ▸ hc), Bool.true_or]
  · rw [List.any_append, h.fit (fit ▸ hf), Bool.true_or]

theorem setFlag_sketched (h : d.Sketched v as) {a : Attribute} {f : Flag}
    (ha : a.clause = .flag f) : (d.setFlag f).Sketched v (as ++ [a]) := by
  have kept : d.Sketched v (as ++ [a]) := h.of_route a rfl
  cases f with
  | chop =>
    refine { kept with chop := fun _ => ?_ }
    simp [ha, Clause.cutsOff]
  | fit =>
    refine { kept with fit := fun _ => ?_ }
    simp [ha, Clause.asksFit]
  | close =>
    refine { kept with headings := fun x hx => h.headings x ?_ }
    unfold Draft.headings at hx ⊢
    rw [show (d.setFlag .close).path = d.path.map Path.close from rfl, Option.map_map] at hx
    exact hx
  | _ => exact h.of_route a rfl

/-- The effect of a clause.  Angles are finite because expressions are, and the objects that a path
joins are finished because positions mean no others. -/
theorem Effect.sketched {a : Attribute} (effect : d.Effect v a.clause d')
    (sound : v.registry.IsSound) (h : d.Sketched v as) : d'.Sketched v (as ++ [a]) := by
  have kept : d.Sketched v (as ++ [a]) := h.of_route a rfl
  generalize ha : a.clause = c at effect
  cases effect with
  | size usual given => exact h.of_route a (d.resize_route _ _)
  | flag what => exact setFlag_sketched h ha
  | path leads headings starts ends =>
    refine ⟨fun x hx => ?_, fun id hid => ?_, fun id hid => ?_, kept.chop, kept.fit⟩
    · rcases headings x hx with before | ⟨e, calculated⟩
      · exact h.headings x before
      · exact View.scalar_isFinite calculated
    · rcases starts with same | ⟨q, whole⟩
      · exact h.starts id (same ▸ hid)
      · exact View.wholeObject_finished sound q _ whole id hid
    · rcases ends with same | ⟨q, whole⟩
      · exact h.ends id (same ▸ hid)
      · exact View.wholeObject_finished sound q _ whole id hid
  | _ => exact h.of_route a rfl

theorem applyAll_sketched (sound : v.registry.IsSound) (h : d.Sketched v []) (as : List Attribute) :
    Ensures (Sketched v as) (Draft.applyAll v d as) :=
  applyAll_induct v d h (fun _ _ _ _ hn _ effect => effect.sketched sound hn) as

/-! ### Placing drafts -/

variable {E : Failure → Prop} {s : Setting K}

/-- Placing a draft fails only by the faults that its declaration can cause. -/
theorem Sketched.isPlaceable [FiniteAngles K] {decl : Declaration}
    (h : d.Sketched s.view decl.attributes) (cls : d.object.cls = decl.cls)
    (text : d.object.text = decl.lines) (measure : s.measure = standardMeasurer)
    (admits : ∀ f, decl.MayCause f → E (.fault f)) : d.IsPlaceable E s where
  text frame nonempty asks charHeight fontScale := by
    have sized : decl.isSizedByText = true := by
      have lines : decl.lines.isEmpty = false := by
        rw [← text]
        exact List.isEmpty_eq_false_iff.2 nonempty
      have asked :
          (decide (decl.cls = .text) || decl.attributes.any (·.clause.asksFit)) = true := by
        rcases asks with fits | isText
        · rw [h.fit fits, Bool.or_true]
        · rw [← cls, isText]
          rfl
      rw [Declaration.isSizedByText, lines, asked, ← cls, frame]
      rfl
    rw [measure]
    refine liftFault_settles (textBlockSize_settles _ _ _) fun f hf => admits f ?_
    rcases hf with rfl | rfl <;> exact sized
  points {path} hp origin := by
    have finite : ∀ x ∈ path.headings, Arith.isFinite x = true := by
      simpa [Draft.headings, hp] using h.headings
    obtain ⟨built, hb, -⟩ := ((path.setOrigin origin).build_succeeds finite origin).exists_eq_ok
    rw [hb]
    exact .of_ok trivial
  outlines line chop {id} joins toward := by
    have cut : decl.isCutOff = true := by
      rw [Declaration.isCutOff, ← cls, line, h.chop chop]
      rfl
    have known := joins.elim (h.starts id) (h.ends id)
    refine (Registry.object_failsBy known).andThen fun o => ?_
    refine liftFault_settles (outlinePoint_settles ..) fun f hf => admits f ?_
    rcases hf with rfl | rfl <;> exact cut

end Draft

/-! ## Runs -/

/-- Whether a failure is a mistake, or a fault that one of some declarations can cause. -/
def Failure.IsExplained (decls : List Declaration) (e : Failure) : Prop :=
  (∃ m, e = .mistake m) ∨ ∃ decl ∈ decls, ∃ f, decl.MayCause f ∧ e = .fault f

instance (decls : List Declaration) : AdmitsMistakes (Failure.IsExplained decls) where
  mistake m := .inl ⟨m, rfl⟩

section Runs

variable {E : Failure → Prop} {t : Resources K} {d : Drawing K}

/-- What a statement looks up is there. -/
theorem Setting.provides [FiniteAngles K] [AdmitsMistakes E] (sound : d.registry.IsSound)
    (known : d.registry.KnowsBuiltins) (finite : d.registry.FiniteVariables)
    (hs : d.scope < d.registry.scopes.length) (flow : d.FlowFinished) :
    (d.setting t).Provides E where
  view := View.provides sound (Drawing.knowsBuiltins_view known hs) finite
  flow hid := Registry.object_failsBy (flow _ hid)

/-- What a draft is before it is placed. -/
theorem Drawing.sketch_sketched (sound : (d.view t).registry.IsSound) (id : Nat)
    (decl : Declaration) : Ensures (fun full => full.Sketched (d.view t) decl.attributes ∧
      full.object.cls = decl.cls ∧ full.object.text = decl.lines)
      (d.sketch t id decl.cls decl.attributes) := by
  intro full hf
  obtain ⟨plain, hp, ha⟩ := exists_of_bind_eq_ok hf
  have started := Draft.begin_sketched _ _ _ _ plain hp
  have standing := (plain.applyAll_keeps _ _ full ha).trans (Draft.begin_standing _ _ _ _ plain hp)
  have lines := Draft.applyAll_text _ plain _ full ha
  rw [Draft.begin_text _ _ _ _ plain hp, List.nil_append] at lines
  exact ⟨Draft.applyAll_sketched sound started _ full ha, congrArg Standing.cls standing, lines⟩

/-- Wherever a run comes to, what it looks up is there, and what it computes fails only by faults
that its declarations can cause. -/
theorem Resources.standard_provides [FiniteAngles K] (decls : List Declaration) :
    (Resources.standard : Resources K).Provides (Failure.IsExplained decls) (· ∈ decls) where
  reached hd := Setting.provides hd.isSound hd.knowsBuiltins hd.finiteVariables hd.scope_lt
    hd.flow_finished
  created {d inside} cls hd hin body := by
    have evolves : Registry.Evolves d.scope d.registry ((inside.leave d).create cls).2.registry :=
      body.trans (.create d.scope inside.registry cls d.cursor.direction)
    exact Setting.provides (hd.isSound_of_evolves evolves)
      (evolves.knowsBuiltins hd.scope_lt hd.knowsBuiltins)
      (hin.finiteVariables.keeps (.of_scopes rfl)) (hd.scope_lt.trans_le evolves.frame.scopes)
      (hd.flow_finished.of_older rfl evolves.frame.objects)
  placeable {d cls label attributes} hd asked := by
    intro full hf
    obtain ⟨sketched, same, lines⟩ := Drawing.sketch_sketched (d := (d.create cls).2)
      (hd.create_isSound cls) _ ⟨cls, label, attributes⟩ full hf
    exact sketched.isPlaceable same lines rfl fun f causes => .inr ⟨_, asked, f, causes, rfl⟩

end Runs

/-! ## Diagrams -/

/-- Reading the statements of a script fails for a mistake in it, or for an ordinal number of too
many digits. -/
theorem Program.ofSource_error {colors : ColorTable} {source : String} {e : Failure}
    (h : ofSource colors source = .error e) :
    (∃ m, e = .mistake m) ∨ ∃ n, e = .fault (.tooManyDigits n) := by
  unfold ofSource at h
  cases tokens : tokenize colors source with
  | error f =>
    rw [tokens] at h
    cases h
    exact (tokenize_error tokens).imp_left fun ⟨_, _, hf⟩ => ⟨_, hf⟩
  | ok ts =>
    rw [tokens, ok_bind, expandTokens] at h
    cases expanded : expandWith colors maxExpansionDepth [] ts with
    | error f =>
      rw [expanded] at h
      cases h
      cases (expandWith_settles_expands colors maxExpansionDepth [] ts).error _ expanded with
      | digits n => exact .inr ⟨n, rfl⟩
      | _ => exact .inl ⟨_, rfl⟩
    | ok out =>
      rw [expanded, show (Except.ok out : Except Failure _).map Prod.fst = .ok out.1 from rfl,
        ok_bind] at h
      cases read : ofTokens colors out.1 with
      | ok ss =>
        rw [read] at h
        cases h
      | error m =>
        rw [read] at h
        cases h
        exact .inl ⟨m, rfl⟩

namespace Diagram

/-- A script that cannot be drawn has a mistake in it, which is reported, or an ordinal number of
too many digits, or a declaration of a path that is cut off or of a frame that is sized by its text.
Nothing else fails. -/
theorem compile_error [FiniteAngles K] {source : String} {e : Failure}
    (h : compile (Resources.standard : Resources K) source = .error e) :
    (∃ m, e = .mistake m) ∨
      (∃ n, e = .fault (.tooManyDigits n) ∧ Program.ofSource .standard source = .error e) ∨
        ∃ ss, Program.ofSource .standard source = .ok ss ∧ ∃ decl ∈ declarationsOf ss,
          ∃ f, decl.MayCause f ∧ e = .fault f := by
  unfold compile at h
  rw [show (Resources.standard : Resources K).colors = .standard from rfl] at h
  cases read : Program.ofSource .standard source with
  | error f =>
    rw [read] at h
    cases h
    rcases Program.ofSource_error read with mistake | ⟨n, rfl⟩
    · exact .inl mistake
    · exact .inr (.inl ⟨n, rfl, rfl⟩)
  | ok ss =>
    rw [read, ok_bind] at h
    have drawn := run_failsBy (Resources.standard_provides (K := K) (declarationsOf ss)) .initial ss
      fun _ asked => asked
    unfold ofStatements at h
    rcases hr : run (Resources.standard : Resources K) Drawing.initial ss with ⟨f | u, d⟩
    · rw [hr] at h drawn
      cases h
      exact (drawn.error _ rfl).imp_right fun explained => .inr ⟨ss, rfl, explained⟩
    · rw [hr] at h
      cases h

/-- A script whose statements are known fails as they do. -/
theorem compile_eq_error {t : Resources K} {source : String} {ss : List Statement} {e : Failure}
    (read : Program.ofSource t.colors source = .ok ss)
    (stops : (run t Drawing.initial ss).1 = .error e) : compile t source = .error e := by
  rw [compile, read, ok_bind, ofStatements]
  rcases hr : run t Drawing.initial ss with ⟨f | u, d⟩
  · rw [hr] at stops
    cases stops
    rfl
  · rw [hr] at stops
    cases stops

/-- A path from near the center of a large circle: with twelve decimal places, the distance vanishes
against the radius. -/
theorem compile_error_vanishing :
    let source := "circle radius 1e6 at 0, 0\narrow from 1e-7, 0 to last circle chop"
    compile (Resources.standard : Resources ℚ) source = .error (.fault .divisionByZero) ∧
      ∃ ss, Program.ofSource .standard source = .ok ss ∧ ∃ decl ∈ declarationsOf ss,
        ∃ f, decl.MayCause f ∧ Failure.fault .divisionByZero = .fault f := by
  intro source
  let ss : List Statement := [
    .object ⟨1, 1⟩ .circle none [⟨⟨1, 8⟩, .size .radius (.number ⟨1, 15⟩ ⟨1, 6⟩ none)⟩,
      ⟨⟨1, 19⟩, .located (.pair ⟨1, 22⟩ (.number ⟨1, 22⟩ ⟨0, 0⟩ none)
        (.number ⟨1, 25⟩ ⟨0, 0⟩ none))⟩],
    .object ⟨2, 1⟩ .arrow none [
      ⟨⟨2, 7⟩, .start (.pair ⟨2, 12⟩ (.number ⟨2, 12⟩ ⟨1, -7⟩ none)
        (.number ⟨2, 18⟩ ⟨0, 0⟩ none))⟩,
      ⟨⟨2, 20⟩, .target (.object ⟨2, 23⟩ (.select ⟨2, 23⟩ (.ordinal .circle 1 true)) none)⟩,
      ⟨⟨2, 35⟩, .flag .chop⟩]]
  have read : Program.ofSource .standard
      "circle radius 1e6 at 0, 0\narrow from 1e-7, 0 to last circle chop" = .ok ss := by
    cbv
  have compiled : compile (Resources.standard : Resources ℚ) source =
      .error (.fault .divisionByZero) :=
    compile_eq_error read (by decide +kernel)
  refine ⟨compiled, ?_⟩
  rcases compile_error compiled with ⟨m, mistake⟩ | ⟨n, digits, -⟩ | explained
  · cases mistake
  · cases digits
  · exact explained

/-- A path from far away to a circle, one from near the center of a large circle, and a text in very
large letters. -/
theorem compile_faults_escape :
    compile (Resources.standard : Resources MachineNumber)
      "circle\narrow from 1e200, 0 to last circle chop" = .error (.fault .squareOverflow) ∧
    compile (Resources.standard : Resources MachineNumber)
      "circle radius 1e170 at 0, 0\narrow from 1, 0 to last circle chop" =
        .error (.fault .divisionByZero) ∧
    compile (Resources.standard : Resources MachineNumber)
      "charht = 1e298*1e10\ntext \"x\"" = .error (.fault .infinityToInteger) := by
  let across (p q : SourcePos) (x : Decimal) : Position :=
    .pair p (.number p x none) (.number q ⟨0, 0⟩ none)
  let last (p : SourcePos) : Position := .object p (.select p (.ordinal .circle 1 true)) none
  let far : List Statement := [.object ⟨1, 1⟩ .circle none [],
    .object ⟨2, 1⟩ .arrow none [⟨⟨2, 7⟩, .start (across ⟨2, 12⟩ ⟨2, 19⟩ ⟨1, 200⟩)⟩,
      ⟨⟨2, 21⟩, .target (last ⟨2, 24⟩)⟩, ⟨⟨2, 36⟩, .flag .chop⟩]]
  let near : List Statement := [
    .object ⟨1, 1⟩ .circle none [⟨⟨1, 8⟩, .size .radius (.number ⟨1, 15⟩ ⟨1, 170⟩ none)⟩,
      ⟨⟨1, 21⟩, .located (across ⟨1, 24⟩ ⟨1, 27⟩ ⟨0, 0⟩)⟩],
    .object ⟨2, 1⟩ .arrow none [⟨⟨2, 7⟩, .start (across ⟨2, 12⟩ ⟨2, 15⟩ ⟨1, 0⟩)⟩,
      ⟨⟨2, 17⟩, .target (last ⟨2, 20⟩)⟩, ⟨⟨2, 32⟩, .flag .chop⟩]]
  let tokens : List Token := [⟨.word, "charht", ⟨1, 1⟩⟩, ⟨.assign, "=", ⟨1, 8⟩⟩,
    ⟨.number ⟨1, 298⟩ none, "1e298", ⟨1, 10⟩⟩, ⟨.star, "*", ⟨1, 15⟩⟩,
    ⟨.number ⟨1, 10⟩ none, "1e10", ⟨1, 16⟩⟩, ⟨.eol, "\n", ⟨1, 20⟩⟩, ⟨.word, "text", ⟨2, 1⟩⟩,
    ⟨.str "x", "\"x\"", ⟨2, 6⟩⟩, ⟨.eof, "", ⟨2, 9⟩⟩]
  let large : List Statement := [
    .assign ⟨1, 1⟩ "charht" .set (.binary ⟨1, 15⟩ .mul (.number ⟨1, 10⟩ ⟨1, 298⟩ none)
      (.number ⟨1, 16⟩ ⟨1, 10⟩ none)),
    .object ⟨2, 1⟩ .text none [⟨⟨2, 6⟩, .text { text := "x" }⟩]]
  have readFar : Program.ofSource .standard "circle\narrow from 1e200, 0 to last circle chop" =
      .ok far := by
    cbv
  have readNear : Program.ofSource .standard
      "circle radius 1e170 at 0, 0\narrow from 1, 0 to last circle chop" = .ok near := by
    cbv
  have scanned : tokenize .standard "charht = 1e298*1e10\ntext \"x\"" = .ok tokens := by
    rw [tokenize_eq_steps]
    decide +kernel
  have parsed : Program.ofTokens .standard tokens = .ok large := by
    cbv
  have readLarge := (Program.ofSource_eq_ok scanned (by decide)).2 parsed
  exact ⟨compile_eq_error readFar (by decide +kernel),
    compile_eq_error readNear (by decide +kernel), compile_eq_error readLarge (by decide +kernel)⟩

end Diagram

end DiagramScript
