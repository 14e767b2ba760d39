import DiagramScript.Proofs.BracketedDrawing
import DiagramScript.Proofs.ClauseEffects
import DiagramScript.Proofs.ExactNumbers
import DiagramScript.Proofs.RunEvolution

/-!
# Numbers that stay finite

A number that a script calculates is looked at before it is used, and refused unless it is finite.
So no variable is ever infinite, and neither is a size or a place that is written with numbers.
Percentages, and places that are written with other places, are not looked at again: what they give
may be infinite although all that they are made of is finite.

* `FiniteStart` — numbers among which those that scripts start with are finite.
* `Registry.FiniteVariables`, `Drawing.Reachable.finiteVariables` — no variable is infinite.
* `Scalar.isPercentage`, `Position.isWritten`, `Clause.isPlain` — what is written with numbers.
* `Draft.place_plain`, `Draft.applyAll_located` — sizes and places that are written so.
* `Drawing.StaysFinite`, `Drawing.Reachable.staysFinite` — the drawings that a run can come to.
-/

namespace DiagramScript

variable {K : Type}

/-! ## Finite numbers -/

/-- Numbers among which those that scripts start with are finite. -/
class FiniteStart (K : Type) [Arith K] : Prop where
  /-- Zero is finite. -/
  zero : Arith.isFinite (Arith.num 0 : K) = true
  /-- The variables of a new script are finite. -/
  initial : ∀ e ∈ (Variables.initial : Variables K), Arith.isFinite e.2 = true

instance : FiniteStart MachineNumber where
  zero := by decide +kernel
  initial := by decide +kernel

instance [ExactNumber K] : FiniteStart K where
  zero := rfl
  initial _ _ := rfl

/-- Whether both coordinates of a point are finite. -/
def Point.IsFinite [Arith K] (p : Point K) : Prop :=
  Arith.isFinite p.x = true ∧ Arith.isFinite p.y = true

/-! ## Variables -/

namespace Registry

/-- Whether the scopes of a registry have the variables that they have in another. -/
def KeepsVariables (r r' : Registry K) : Prop :=
  ∀ s, (r'.scope s).bindings = (r.scope s).bindings

variable {r r' r'' : Registry K}

theorem KeepsVariables.trans (h : r.KeepsVariables r') (h' : r'.KeepsVariables r'') :
    r.KeepsVariables r'' := fun s => (h' s).trans (h s)

theorem KeepsVariables.of_scopes (h : r'.scopes = r.scopes) : r.KeepsVariables r' := fun s => by
  rw [scope, scope, h]

theorem KeepsVariables.modifyScope {f : Scope K → Scope K} (s : Nat)
    (hf : ∀ sc, (f sc).bindings = sc.bindings := by exact fun _ => rfl) :
    r.KeepsVariables (r.modifyScope s f) := fun i => by
  rw [scope_modifyScope]
  split_ifs
  · exact hf _
  · rfl

theorem finalize_keepsVariables (s id : Nat) :
    Ensures r.KeepsVariables (r.finalize s id) :=
  .andThen fun _ => .ok (.modifyScope s)

theorem bindLabel_keepsVariables (s : Nat) (label : String) (id : Nat) :
    r.KeepsVariables (r.bindLabel s label id).2 := by
  unfold bindLabel
  split
  · exact .of_scopes rfl
  · exact .modifyScope s

theorem attachScope_keepsVariables (id s : Nat) : r.KeepsVariables (r.attachScope id s) := by
  refine .of_scopes ?_
  unfold attachScope adopt
  split_ifs
  · dsimp only
    rw [foldl_modifyObject]
    rfl
  · rfl

variable [Arith K]

/-- Whether all variables of all scopes are finite. -/
def FiniteVariables (r : Registry K) : Prop :=
  ∀ s name x, r.lookupVariable s name = some x → Arith.isFinite x = true

theorem FiniteVariables.keeps (h : r.FiniteVariables) (same : r.KeepsVariables r') :
    r'.FiniteVariables := fun s name x hx => by
  rw [lookupVariable, same s] at hx
  exact h s name x hx

theorem FiniteVariables.initial [FiniteStart K] : (initial : Registry K).FiniteVariables := by
  intro s name x hx
  cases s with
  | zero =>
    obtain ⟨before, after, here, -⟩ := List.lookup_eq_some_iff.1 hx
    refine FiniteStart.initial (name, x) ?_
    rw [show (Variables.initial : Variables K) = before ++ (name, x) :: after from here]
    exact List.mem_append_right before List.mem_cons_self
  | succ s => cases hx

theorem FiniteVariables.setVariable (h : r.FiniteVariables) (s : Nat) (name : String) {value : K}
    (finite : Arith.isFinite value = true) : (r.setVariable s name value).FiniteVariables := by
  intro i other x hx
  unfold lookupVariable Registry.setVariable at hx
  rw [scope_modifyScope] at hx
  split_ifs at hx
  · by_cases hn : other = name
    · rw [hn, Variables.get?_set_self] at hx
      cases hx
      exact finite
    · rw [Variables.get?_set_of_ne value hn] at hx
      exact h i other x hx
  · exact h i other x hx

/-- A new scope starts with the variables of the scope around it. -/
theorem FiniteVariables.openScope (h : r.FiniteVariables) (s : Nat) :
    (r.openScope s).2.FiniteVariables := by
  intro i name x hx
  unfold lookupVariable at hx
  by_cases hi : i = r.scopes.length
  · rw [hi, scope_openScope_self] at hx
    exact h s name x hx
  · rw [scope_openScope_of_ne r s hi] at hx
    exact h i name x hx

end Registry

namespace Drawing

open Registry

variable [Arith K] {t : Resources K} (d : Drawing K)

theorem finish_keepsVariables (draft : Draft K) (exit : Option Direction) (label : Option String) :
    d.registry.KeepsVariables (d.finish draft exit label).2.registry := by
  unfold finish
  split
  · exact .of_scopes rfl
  · rename_i r finalized
    have kept := finalize_keepsVariables _ _ r finalized
    split
    · exact kept
    · rename_i l
      have labelled := bindLabel_keepsVariables (r := r) d.scope l draft.object.id
      split
      · rename_i bound
        rw [bound] at labelled
        exact kept.trans labelled
      · rename_i bound
        rw [bound] at labelled
        exact kept.trans labelled

theorem declare_keepsVariables (cls : ObjectClass) (label : Option String)
    (attributes : List Attribute) :
    d.registry.KeepsVariables (d.declare t cls label attributes).2.registry := by
  unfold declare
  dsimp only
  split
  · exact .of_scopes rfl
  · exact (KeepsVariables.of_scopes rfl).trans (finish_keepsVariables _ _ _ _)

theorem moveMembers_keepsVariables (id : Nat) (dx dy : K) :
    d.registry.KeepsVariables (d.moveMembers id dx dy).registry := by
  unfold moveMembers
  split_ifs
  · exact .of_scopes rfl
  · dsimp only
    rw [foldl_modifyObject]
    exact .of_scopes rfl

theorem group_keepsVariables (inner : Nat) (origin : Point K) (label : Option String)
    (attributes : List Attribute) :
    d.registry.KeepsVariables (d.group t inner origin label attributes).2.registry := by
  unfold group
  dsimp only
  split
  · exact .of_scopes rfl
  · refine KeepsVariables.trans ?_ (finish_keepsVariables _ _ _ _)
    refine KeepsVariables.trans ?_ (moveMembers_keepsVariables _ _ _ _)
    exact (KeepsVariables.of_scopes rfl).trans (attachScope_keepsVariables _ _)

/-- What is calculated for a variable is looked at first. -/
theorem assigned_isFinite (v : View K) (name : String) (op : AssignOp) {value : K}
    (finite : Arith.isFinite value = true) :
    Ensures (Arith.isFinite · = true) (assigned v name op value) := by
  unfold assigned
  split
  · exact .ok finite
  · split
    · exact .error _
    · refine .andThen fun result x hx => ?_
      split_ifs at hx with settled
      cases hx
      exact settled

end Drawing

section Runs

variable [Arith K] {t : Resources K}

open Registry

/-- What a statement calculates for a variable is finite. -/
theorem Drawing.Notes.finiteVariables {d e : Drawing K} {s : Statement} (h : d.Notes t s e)
    (finite : d.registry.FiniteVariables) : e.registry.FiniteVariables := by
  cases h with
  | same => exact finite
  | direction => exact finite
  | print => exact finite
  | assign calculated settled =>
    refine finite.setVariable d.scope _ (Drawing.assigned_isFinite _ _ _ ?_ _ settled)
    exact View.scalar_isFinite calculated
  | place => exact finite.keeps (.modifyScope d.scope)

/-- No step of a run makes a variable infinite, whether it succeeds or fails. -/
theorem Drawing.containsSteps_finiteVariables (t : Resources K) :
    ContainsSteps t fun d e : Drawing K =>
      d.registry.FiniteVariables → e.registry.FiniteVariables where
  refl _ h := h
  trans h h' finite := h' (h finite)
  notes := Notes.finiteVariables
  declare d cls label attributes h := h.keeps (d.declare_keepsVariables cls label attributes)
  body {d _ _} within h := within (h.openScope d.scope)
  group {d inside origin _} _ within label attributes h :=
    (within (h.openScope d.scope)).keeps
      ((inside.leave d).group_keepsVariables _ origin label attributes)

/-- The variables of all drawings that a run can come to are finite. -/
theorem Drawing.Reachable.finiteVariables [FiniteStart K] {d : Drawing K} (h : d.Reachable t) :
    d.registry.FiniteVariables := by
  induction h with
  | initial => exact .initial
  | execute reached s ih => exact (Drawing.containsSteps_finiteVariables t).execute _ s ih
  | enter reached _ ih => exact ih.openScope _

end Runs

/-! ## What is written with numbers -/

/-- Whether an expression is a percentage. -/
def Scalar.isPercentage : Scalar → Bool
  | .percent _ _ => true
  | _ => false

/-- Whether a position is written with numbers: as a pair of them, or with one coordinate of each
of two such pairs. -/
def Position.isWritten : Position → Bool
  | .pair _ _ _ => true
  | .mix _ a b => a.isWritten && b.isWritten
  | _ => false

/-- Whether a clause gives its object no size, or one that is written with numbers. -/
def Clause.isPlain : Clause → Bool
  | .size _ value => !value.isPercentage
  | .thickness value => !value.isPercentage
  | .flag what => what ≠ .thick && what ≠ .thin && what ≠ .fit
  | .same _ => false
  | _ => true

/-- Whether a clause gives its object no place, or one that is written with numbers. -/
def Clause.placesWritten : Clause → Bool
  | .located q => q.isWritten
  | .anchored _ q => q.isWritten
  | _ => true

/-- Whether objects of the class are frames with a width and a height of their own. -/
def ObjectClass.isFrame (cls : ObjectClass) : Bool :=
  !cls.isLine && !cls.keepsAspect && cls ≠ .text && cls ≠ .container

section Values

variable [Arith K]

/-- A size is finite unless it is a percentage. -/
theorem View.size_isFinite (v : View K) {e : Scalar} (h : e.isPercentage = false) (reference : K) :
    Ensures (Arith.isFinite · = true) (v.size e reference) := by
  intro x hx
  unfold size at hx
  split at hx
  · cases h
  · exact scalar_isFinite hx

/-- A place that is written with numbers is finite. -/
theorem View.position_isFinite (v : View K) (q : Position) (h : q.isWritten = true) :
    Ensures Point.IsFinite (v.position q) := by
  match q with
  | .pair p x y =>
    rw [position]
    refine .locating (fun point hp => ?_) p
    obtain ⟨a, ha, hp⟩ := exists_of_bind_eq_ok hp
    obtain ⟨b, hb, hp⟩ := exists_of_bind_eq_ok hp
    cases hp
    exact ⟨scalar_isFinite ha, scalar_isFinite hb⟩
  | .mix p a b =>
    rw [Position.isWritten, Bool.and_eq_true] at h
    rw [position]
    refine .locating (.bind (v.position_isFinite a h.1) fun first hf => ?_) p
    exact .bind (v.position_isFinite b h.2) fun second hs => .ok ⟨hf.1, hs.2⟩

/-- Whether the size of an object and the thickness of its outline are finite. -/
structure Object.HasFiniteSize (o : Object K) : Prop where
  /-- Its width. -/
  width : Arith.isFinite o.width = true
  /-- Its height. -/
  height : Arith.isFinite o.height = true
  /-- Its radius. -/
  radius : Arith.isFinite o.radius = true
  /-- Its outline. -/
  thickness : Arith.isFinite o.style.thickness = true

namespace Draft

variable {v : View K}

theorem builtin_isFinite (finite : v.registry.FiniteVariables) (name : String) :
    Ensures (Arith.isFinite · = true) (v.builtin name) := by
  intro x hx
  unfold View.builtin at hx
  split at hx
  · rename_i found
    cases hx
    exact finite _ _ _ found
  · cases hx

theorem builtinOr_isFinite [FiniteStart K] (finite : v.registry.FiniteVariables)
    (name : Option String) :
    Ensures (Arith.isFinite · = true) (v.builtinOr name (Arith.num 0)) := by
  cases name with
  | none => exact .ok FiniteStart.zero
  | some name => exact builtin_isFinite finite name

/-- What plain clauses make of a frame. -/
structure Plain (cls : ObjectClass) (d : Draft K) : Prop where
  /-- Its class stays. -/
  cls : d.object.cls = cls
  /-- It does not fit its text. -/
  fit : d.fit = false
  /-- Its size is finite. -/
  size : d.object.HasFiniteSize

/-- A new frame has the size that the variables say. -/
theorem begin_plain [FiniteStart K] (finite : v.registry.FiniteVariables) (id : Nat)
    {cls : ObjectClass} (frame : cls.isFrame = true) (direction : Direction) :
    Ensures (Plain cls) (Draft.begin v id cls direction) := by
  have shape : cls.isLine = false ∧ cls.keepsAspect = false := by
    cases cls <;> first | exact ⟨rfl, rfl⟩ | cases frame
  refine .bind (builtinOr_isFinite finite _) fun radius hr => ?_
  refine .bind (builtinOr_isFinite finite _) fun width hw => ?_
  refine .bind (builtinOr_isFinite finite _) fun height hh => ?_
  have outline : Ensures (fun s => Arith.isFinite s.thickness = true) (defaultStyle v cls) :=
    .andThen fun _ => .andThen fun _ => .bind (builtin_isFinite finite _) fun _ ht =>
      .andThen fun _ => .andThen fun _ => .ok ht
  refine .bind outline fun style hs => ?_
  rw [shape.1, shape.2]
  exact .ok ⟨rfl, rfl, hw, hh, hr, hs⟩

/-- A plain clause keeps the size of a frame finite. -/
theorem Effect.plain {d d' : Draft K} {c : Clause} {cls : ObjectClass} (effect : d.Effect v c d')
    (frame : cls.isFrame = true) (accepted : d.object.cls.accepts c = true)
    (plain : c.isPlain = true) (h : d.Plain cls) : d'.Plain cls := by
  obtain ⟨rfl, fit, size⟩ := h
  cases effect with
  | text line => exact ⟨rfl, fit, size.width, size.height, size.radius, size.thickness⟩
  | @size what value reference x usual given =>
    have finite := v.size_isFinite (Bool.not_eq_true' _ ▸ plain) reference x given
    have single : d.object.cls.keepsAspect = false := by
      cases cls : d.object.cls <;> first | rfl | (rw [cls] at frame; cases frame)
    cases what with
    | width =>
      rw [resize, setWidth, if_neg (by rw [single]; exact Bool.false_ne_true)]
      exact ⟨rfl, fit, finite, size.height, size.radius, size.thickness⟩
    | height =>
      rw [resize, setHeight, if_neg (by rw [single]; exact Bool.false_ne_true)]
      exact ⟨rfl, fit, size.width, finite, size.radius, size.thickness⟩
    | radius =>
      rw [resize, setRadius, if_neg (by rw [single]; exact Bool.false_ne_true)]
      exact ⟨rfl, fit, size.width, size.height, finite, size.thickness⟩
    | diameter =>
      -- only circles and dots have a diameter
      have apart : d.object.cls.accepts (.size .diameter value) = false := by
        cases cls : d.object.cls <;> first | rfl | (rw [cls] at frame; cases frame)
      cases apart.symm.trans accepted
  | @thickness value reference x usual given =>
    have finite := v.size_isFinite (Bool.not_eq_true' _ ▸ plain) reference x given
    exact ⟨rfl, fit, size.width, size.height, size.radius, finite⟩
  | flag what =>
    cases what with
    | thick => cases plain
    | thin => cases plain
    | fit => cases plain
    | _ => exact ⟨rfl, fit, size.width, size.height, size.radius, size.thickness⟩
  | style restyles keeps =>
    exact ⟨rfl, fit, size.width, size.height, size.radius, (keeps _).symm ▸ size.thickness⟩
  | same source => cases plain
  | located place => exact ⟨rfl, fit, size⟩
  | anchored place => exact ⟨rfl, fit, size⟩
  | path leads headings starts ends => exact ⟨rfl, fit, size⟩

theorem applyAll_plain {d : Draft K} {cls : ObjectClass} (frame : cls.isFrame = true)
    (h : d.Plain cls) {as : List Attribute} (plain : ∀ a ∈ as, a.clause.isPlain = true) :
    Ensures (Plain cls) (Draft.applyAll v d as) := by
  intro full hf
  refine applyAll_induct v d (P := fun as d' => (∀ a ∈ as, a.clause.isPlain = true) →
    d'.Plain cls) (fun _ => h) (fun as a d d' hd accepted effect plain => ?_) as full hf plain
  have before := hd fun b hb => plain b (List.mem_append_left _ hb)
  exact effect.plain frame accepted (plain a (List.mem_append_right _ List.mem_cons_self)) before

/-- Placing a frame leaves its size alone. -/
theorem place_plain {d : Draft K} {cls : ObjectClass} (frame : cls.isFrame = true)
    (h : d.Plain cls) (s : Setting K) :
    Ensures (fun p => p.1.object.HasFiniteSize) (d.place s) := by
  obtain ⟨rfl, fit, size⟩ := h
  have shape : d.object.cls.isLine = false ∧ d.object.cls ≠ .text ∧ d.object.cls ≠ .dot := by
    cases cls : d.object.cls <;> rw [cls] at frame <;>
      first | (cases frame; done) | exact ⟨rfl, nofun, nofun⟩
  obtain ⟨frame, text, dot⟩ := shape
  have sized : d.sizeToText s = .ok d := if_pos (.inr ⟨by rw [fit]; rfl, text⟩)
  have filled : d.fillDot = d := if_neg fun h => dot h.1
  rw [place, frame, sized, ok_bind, filled]
  refine .bind (d.placeFramed_recenters s) fun placed hp => .ok ?_
  obtain ⟨center, rfl⟩ := hp
  exact ⟨size.width, size.height, size.radius, size.thickness⟩

/-- An object lies at a finite place if this is written with numbers. -/
theorem applyAll_located {d : Draft K} (none : d.located = none) {as : List Attribute}
    (written : ∀ a ∈ as, a.clause.placesWritten = true) :
    Ensures (fun full => ∀ p, full.located = some p → p.IsFinite) (Draft.applyAll v d as) := by
  intro full hf
  refine applyAll_induct v d (P := fun as d' => (∀ a ∈ as, a.clause.placesWritten = true) →
    ∀ p, d'.located = some p → p.IsFinite) (fun _ p hp => nomatch none.symm.trans hp)
    (fun as a d d' hd _ effect written => ?_) as full hf written
  have before := hd fun b hb => written b (List.mem_append_left _ hb)
  have here := written a (List.mem_append_right _ List.mem_cons_self)
  generalize a.clause = c at effect here
  cases effect with
  | @size what value reference x usual given =>
    obtain ⟨_, _, _, _, _, sized⟩ := d.exists_resize_eq what x
    rw [sized]
    exact before
  | flag what => cases what <;> exact before
  | located place =>
    rintro p ⟨⟩
    exact v.position_isFinite _ here _ place
  | anchored place =>
    rintro p ⟨⟩
    exact v.position_isFinite _ here _ place
  | _ => exact before

end Draft

end Values

/-! ## Drawings -/

namespace Drawing

variable [Arith K] {t : Resources K} {d : Drawing K}

/-- What is finite in a drawing. -/
structure StaysFinite (t : Resources K) (d : Drawing K) : Prop where
  /-- All variables of all scopes. -/
  bindings : d.registry.FiniteVariables
  /-- The values of all expressions. -/
  scalars : ∀ e, Ensures (Arith.isFinite · = true) ((d.view t).scalar e)
  /-- All sizes but percentages. -/
  sizes : ∀ e reference, e.isPercentage = false →
    Ensures (Arith.isFinite · = true) ((d.view t).size e reference)
  /-- All places that are written with numbers. -/
  positions : ∀ q, q.isWritten = true → Ensures Point.IsFinite ((d.view t).position q)
  /-- The size of a new frame whose clauses are plain. -/
  frames : ∀ cls attributes, cls.isFrame = true → (∀ a ∈ attributes, a.clause.isPlain = true) →
    Ensures (fun p => p.1.object.HasFiniteSize)
      ((d.create cls).2.draft t (d.create cls).1 cls attributes)
  /-- The place of an object whose clauses give it one that is written with numbers. -/
  places : ∀ (draft : Draft K) attributes, draft.located = none →
    (∀ a ∈ attributes, a.clause.placesWritten = true) →
    Ensures (fun full => ∀ p, full.located = some p → p.IsFinite)
      (Draft.applyAll (d.view t) draft attributes)

/-- In all drawings that a run can come to, no variable is infinite, and no number, size or place
that is written without percentages and without other places. -/
theorem Reachable.staysFinite [FiniteStart K] (h : d.Reachable t) : d.StaysFinite t where
  bindings := h.finiteVariables
  scalars _ _ hx := View.scalar_isFinite hx
  sizes _ reference plain := (d.view t).size_isFinite plain reference
  positions q written := (d.view t).position_isFinite q written
  frames cls attributes frame plain := by
    have finite : ((d.create cls).2.view t).registry.FiniteVariables :=
      h.finiteVariables.keeps (.of_scopes rfl)
    refine .bind (Draft.begin_plain finite _ frame _) fun draft hd => ?_
    refine .bind (Draft.applyAll_plain frame hd plain) fun full hf => ?_
    exact Draft.place_plain frame hf _
  places _ _ none written := Draft.applyAll_located none written

/-- After an assignment of a large number, and of ten times as much, which is refused. -/
theorem Reachable.staysFinite_large : ∃ d : Drawing MachineNumber, d.Reachable Resources.standard ∧
    (d.registry.lookupVariable 0 "boxwid").map Arith.isFinite = some true ∧
    (d.registry.lookupVariable 0 "boxwid").map (Arith.isFinite <| Arith.num 10 * ·) = some false ∧
    d.StaysFinite Resources.standard := by
  let large : Statement := .assign ⟨1, 1⟩ "boxwid" .set (.number ⟨1, 10⟩ ⟨1, 308⟩ none)
  let larger : Statement := .assign ⟨2, 1⟩ "boxwid" .mul (.number ⟨2, 11⟩ ⟨10, 0⟩ none)
  have reached := (Reachable.initial (K := MachineNumber) (t := Resources.standard)).run
    [large, larger]
  exact ⟨_, reached, by decide +kernel, by decide +kernel, reached.staysFinite⟩

end Drawing

namespace Diagram

/-- A percentage of a large width is infinite, and so are the sum of two places far away and twice
a large radius. -/
theorem compile_overflows :
    (∃ d : Diagram MachineNumber,
      compile Resources.standard "[box width 1e298] width 1e20%" = .ok d ∧
      ∃ o ∈ d.allObjects, Arith.isFinite o.width = false) ∧
    (∃ d : Diagram MachineNumber,
      compile Resources.standard "box at (1e298*1e10, 0) + (1e298*1e10, 0)" = .ok d ∧
      ∃ o ∈ d.allObjects, Arith.isFinite o.center.x = false) ∧
    ∃ d : Diagram MachineNumber,
      compile Resources.standard "circle radius 1e298*1e10" = .ok d ∧
      ∃ o ∈ d.allObjects, Arith.isFinite o.width = false := by
  have infinite : ∀ {source : String} {ss : List Statement}
      {f : Object MachineNumber → MachineNumber}, Program.ofSource .standard source = .ok ss →
      ((ofStatements (Resources.standard : Resources MachineNumber) ss).toOption.map fun d =>
        d.allObjects.any fun o => !Arith.isFinite (f o)) = some true →
      ∃ d : Diagram MachineNumber, compile Resources.standard source = .ok d ∧
        ∃ o ∈ d.allObjects, Arith.isFinite (f o) = false := by
    intro source ss f statements drawn
    obtain ⟨d, compiled, known⟩ :=
      exists_compile_eq_ok (t := Resources.standard) statements drawn
    obtain ⟨o, ho, unbounded⟩ := List.any_eq_true.1 known
    exact ⟨d, compiled, o, ho, Bool.not_eq_true' _ ▸ unbounded⟩
  let large : SourcePos → SourcePos → SourcePos → Scalar := fun p sign q =>
    .binary sign .mul (.number p ⟨1, 298⟩ none) (.number q ⟨1, 10⟩ none)
  let share : List Statement := [.group ⟨1, 1⟩
    [.object ⟨1, 2⟩ .box none [⟨⟨1, 6⟩, .size .width (.number ⟨1, 12⟩ ⟨1, 298⟩ none)⟩]] none
    [⟨⟨1, 19⟩, .size .width (.percent ⟨1, 25⟩ ⟨1, 20⟩)⟩]]
  let sum : List Statement := [.object ⟨1, 1⟩ .box none [⟨⟨1, 5⟩, .located (.offset ⟨1, 24⟩
    (.pair ⟨1, 9⟩ (large ⟨1, 9⟩ ⟨1, 14⟩ ⟨1, 15⟩) (.number ⟨1, 21⟩ ⟨0, 0⟩ none))
    (large ⟨1, 27⟩ ⟨1, 32⟩ ⟨1, 33⟩) (.number ⟨1, 39⟩ ⟨0, 0⟩ none) false)⟩]]
  let twice : List Statement := [.object ⟨1, 1⟩ .circle none
    [⟨⟨1, 8⟩, .size .radius (large ⟨1, 15⟩ ⟨1, 20⟩ ⟨1, 21⟩)⟩]]
  have shared : Program.ofSource .standard "[box width 1e298] width 1e20%" = .ok share := by
    cbv
  have added :
      Program.ofSource .standard "box at (1e298*1e10, 0) + (1e298*1e10, 0)" = .ok sum := by
    cbv
  have doubled : Program.ofSource .standard "circle radius 1e298*1e10" = .ok twice := by
    cbv
  exact ⟨infinite shared (by decide +kernel), infinite added (by decide +kernel),
    infinite doubled (by decide +kernel)⟩

end Diagram

end DiagramScript
