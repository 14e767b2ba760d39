import DiagramScript.Proofs.DeclaredObjects
import DiagramScript.Proofs.LineMarks
import DiagramScript.Proofs.ObjectForest
import DiagramScript.Proofs.Routes

/-!
# Contrary marks

An outline is dashed or dotted, not both; a line of text stands above the middle or below it, starts
or ends at the middle, and is larger or smaller, never both of two.  Clauses and copies keep to
that, and what one declaration says of its text no other takes back.

* `Style.IsUnmixed`, `Declaration.unmixed_keeps` — the outlines of all objects.
* `Drawing.Precedes` — a run comes to one drawing, and then to another.
* `Drawing.Precedes.keepsTexts` — whatever happens in between, objects keep their texts.
* `Diagram.compile_marksAgree` — the outlines and lines of every diagram.
-/

namespace DiagramScript

variable {K : Type}

/-! ## Outlines -/

/-- Whether an outline is not dashed and dotted at once. -/
def Style.IsUnmixed (s : Style K) : Prop := ¬(s.dashed.isSome ∧ s.dotted.isSome)

/-- An outline without dashes is unmixed. -/
theorem Style.IsUnmixed.of_dashed {s : Style K} (h : s.dashed = none) : s.IsUnmixed := by
  simp [IsUnmixed, h]

/-- So is one without dots. -/
theorem Style.IsUnmixed.of_dotted {s : Style K} (h : s.dotted = none) : s.IsUnmixed := by
  simp [IsUnmixed, h]

/-- Filling an object leaves its outline unmixed. -/
theorem Style.IsUnmixed.fill {s : Style K} (h : s.IsUnmixed) (paint : Paint) :
    ({ s with fill := paint } : Style K).IsUnmixed := h

variable [Arith K]

namespace Draft

variable {v : View K} {d : Draft K}

/-- A new object has a plain outline. -/
theorem begin_unmixed (v : View K) (id : Nat) (cls : ObjectClass) (direction : Direction) :
    Ensures (fun d => d.object.style.IsUnmixed) (Draft.begin v id cls direction) := by
  have plain : Ensures Style.IsUnmixed (Draft.defaultStyle v cls) := by
    refine .andThen fun color => .andThen fun fill => .andThen fun thickness => ?_
    exact .andThen fun color => .andThen fun fill => .ok (.of_dashed rfl)
  refine .andThen fun radius => .andThen fun width => .andThen fun height => ?_
  exact .bind plain fun style h => .ite (.andThen fun unit => .ok h) (.ok h)

/-- A single word takes gaps out of an outline, or leaves them as they are. -/
theorem setFlag_unmixed (h : d.object.style.IsUnmixed) (what : Flag) :
    (d.setFlag what).object.style.IsUnmixed := by
  cases what with
  | solid => exact .of_dashed rfl
  | _ => exact h

/-- A clause keeps the outline unmixed, also one that copies another object. -/
theorem applyClause_unmixed (sound : v.registry.IsSound)
    (old : ∀ id o, v.registry.Finished id o → o.style.IsUnmixed) (h : d.object.style.IsUnmixed)
    (c : Clause) : Ensures (fun d' => d'.object.style.IsUnmixed) (d.applyClause v c) := by
  cases leads : c.leads with
  | true =>
    intro d' hd
    cases d.applyClause_leads v leads d' hd <;> exact h
  | false =>
    cases c with
    | text | arrow => exact .ok h
    | size what value =>
      rw [applyClause, setDimension_eq]
      refine .andThen fun _ => .andThen fun x => .ok ?_
      obtain ⟨_, _, _, _, _, resized⟩ := d.exists_resize_eq what x
      rw [resized]
      exact h
    | flag what => exact .ok (setFlag_unmixed h what)
    | dotted => exact .andThen fun _ => .ok (.of_dashed rfl)
    | dashed => exact .andThen fun _ => .ok (.of_dotted rfl)
    | thickness | fill | color => exact .andThen fun _ => .andThen fun _ => .ok h
    | located | anchored => exact .andThen fun _ => .ok h
    | same ref =>
      refine .bind (d.sourceOf_finished sound ref) fun o known => .ok ?_
      obtain ⟨⟨id, finished⟩, -⟩ := known
      exact old id o finished
    | _ => cases leads

/-- So do all clauses of a declaration. -/
theorem applyAll_unmixed (sound : v.registry.IsSound)
    (old : ∀ id o, v.registry.Finished id o → o.style.IsUnmixed) (h : d.object.style.IsUnmixed)
    (as : List Attribute) :
    Ensures (fun d' => d'.object.style.IsUnmixed) (Draft.applyAll v d as) :=
  d.applyAll_steps v (P := fun _ d' => d'.object.style.IsUnmixed) h
    (fun _ a _ before _ => applyClause_unmixed sound old before a.clause) as

end Draft

/-- The outlines of all objects are unmixed. -/
theorem Declaration.unmixed_keeps (t : Resources K) :
    Declaration.Keeps t (fun _ => True) (fun o => o.style.IsUnmixed) where
  moved _ _ _ h := h
  stamped _ h := h
  known _ _ _ _ _ h := h
  declared {d cls label attributes} sound old _ := by
    have older : ∀ id o, (d.create cls).2.registry.Finished id o → o.style.IsUnmixed :=
      fun _ o known => old o (List.mem_of_getElem? known.of_create.2)
    refine .bind (Draft.begin_unmixed _ _ cls _) fun plain begun => ?_
    refine .bind (Draft.applyAll_unmixed sound older begun attributes) fun full applied => ?_
    intro p hp
    obtain ⟨paint, style⟩ := (full.place_redraws _ p hp).exists_style
    rw [style]
    exact applied.fill paint
  grouped {d inner origin label attributes} sound old _ := by
    have older : ∀ id o, (d.create .container).2.registry.Finished id o → o.style.IsUnmixed :=
      fun _ o known => old o (List.mem_of_getElem? known.of_create.2)
    refine .bind (Draft.begin_unmixed _ _ .container _) fun plain begun => ?_
    have enclosing : ∀ box, (Drawing.enclose plain origin box).object.style.IsUnmixed :=
      fun box => by cases box <;> exact begun
    refine .bind (Draft.applyAll_unmixed sound older (enclosing _) attributes) ?_
    intro full applied
    refine .bind (full.placeFramed_recenters _) fun placed hp => .ok ?_
    obtain ⟨center, rfl⟩ := hp
    exact applied

/-! ## Texts -/

/-- Whether a run that comes to one drawing may come to another afterwards.  A drawing in the body
of a group comes before the group. -/
inductive Drawing.Precedes (t : Resources K) (d : Drawing K) : Drawing K → Prop where
  /-- Nothing happens. -/
  | refl : Precedes t d d
  /-- A statement is executed. -/
  | execute {e : Drawing K} (h : Precedes t d e) (reached : e.Reachable t) (s : Statement) :
    Precedes t d (DiagramScript.execute t e s).2
  /-- The body of a group starts. -/
  | enter {e : Drawing K} (h : Precedes t d e) {origin : Point K}
    (ho : stackingStart (e.setting t) true = .ok origin) : Precedes t d (e.enter origin)
  /-- A group is put around what its body has drawn. -/
  | close {outer inside e : Drawing K} {origin : Point K} {pos : SourcePos} {body : List Statement}
    {label : Option String} {attributes : List Attribute} (h : Precedes t d inside)
    (reached : outer.Reachable t) (ho : stackingStart (outer.setting t) true = .ok origin)
    (hr : run t (outer.enter origin) body = (.ok (), inside))
    (closed : DiagramScript.execute t outer (.group pos body label attributes) = (.ok (), e)) :
    Precedes t d e

/-- Whether all objects of a registry are in another one, with the same texts. -/
def Registry.KeepsTexts (r r' : Registry K) : Prop :=
  ∀ (i : Nat) (o : Object K), r.arena[i]? = some o → ∃ o', r'.arena[i]? = some o' ∧ o'.text = o.text

namespace Drawing.Precedes

variable {t : Resources K} {d e : Drawing K}

/-- A run that has come to a drawing goes on from there. -/
theorem run (h : d.Precedes t e) (reached : e.Reachable t) (ss : List Statement) :
    d.Precedes t (DiagramScript.run t e ss).2 := by
  induction ss generalizing e with
  | nil =>
    rw [DiagramScript.run]
    exact h
  | cons s ss ih =>
    rw [DiagramScript.run]
    cases (DiagramScript.execute t e s).1 with
    | error f => exact h.execute reached s
    | ok u => exact ih (h.execute reached s) (reached.execute s)

/-- Objects keep their texts, whatever is declared after them. -/
theorem keepsTexts (h : d.Precedes t e) : d.registry.KeepsTexts e.registry := by
  intro i o ho
  induction h with
  | refl => exact ⟨o, ho, rfl⟩
  | @execute e _ reached s ih =>
    obtain ⟨o', ho', same⟩ := ih
    have older := (execute_evolves (t := t) s reached.scope_lt).registry.frame.objects
    exact ⟨o', (older i (List.getElem?_eq_some_iff.1 ho').1).trans ho', same⟩
  | enter _ _ ih => exact ih
  | close _ reached start inside closed ih =>
    obtain ⟨o', ho', same⟩ := ih
    obtain ⟨origin', inside', start', ran, hg⟩ := exists_of_execute_group_eq_ok closed
    cases start.symm.trans start'
    cases inside.symm.trans ran
    obtain ⟨full, placed, n, -, -, wraps⟩ := exists_wraps reached.isOrdered ran hg
    obtain ⟨o'', ho'', figure⟩ := wraps.exists_figure ho'
    exact ⟨o'', ho'', (congrArg (·.2.2.2.2) figure).trans same⟩

end Drawing.Precedes

/-! ## Diagrams -/

namespace Diagram

variable {t : Resources K}

/-- What holds of the marks of all objects in the diagram of some statements. -/
structure MarksAgree (d : Diagram K) (ss : List Statement) : Prop where
  /-- No outline is dashed and dotted at once. -/
  outlines : ∀ o ∈ d.allObjects, ¬(o.style.dashed.isSome ∧ o.style.dotted.isSome)
  /-- No line of text bears two contrary marks. -/
  lines : ∀ o ∈ d.allObjects, ∀ line ∈ o.text,
    ¬(line.ljust ∧ line.rjust) ∧ ¬(line.above ∧ line.below) ∧ ¬(line.big ∧ line.small)
  /-- The text of an object is what its own declaration says. -/
  declared : ∀ o ∈ d.allObjects, ∃ decl, (declarationsOf ss)[o.id]? = some decl ∧
    o.cls = decl.cls ∧ o.label = decl.label ∧ o.text = decl.lines

/-- No object of a diagram bears two contrary marks, whatever its clauses are and whatever it
copies.  Its text is that of its own declaration, and at no point of the run after that has it been
another. -/
theorem compile_marksAgree {source : String} {d : Diagram K} (h : compile t source = .ok d) :
    ∃ ss e, Program.ofSource t.colors source = .ok ss ∧ run t Drawing.initial ss = (.ok (), e) ∧
      d = ofDrawing e ∧ d.MarksAgree ss ∧
      ∀ before : Drawing K, before.Precedes t e → before.registry.KeepsTexts d.registry := by
  obtain ⟨ss, e, statements, hr, rfl⟩ := compile_eq_ok.1 h
  have forest := isForest_of_run hr
  obtain ⟨_, statements', -, texts⟩ := compile_objects (Registry.hasLines_settles t) h
  cases statements.symm.trans statements'
  obtain ⟨_, statements', unmixed⟩ := compile_keeps (Declaration.unmixed_keeps t) h
  cases statements.symm.trans statements'
  have declared : ∀ o ∈ (ofDrawing e).allObjects, ∃ decl, (declarationsOf ss)[o.id]? = some decl ∧
      o.cls = decl.cls ∧ o.label = decl.label ∧ o.text = decl.lines := by
    intro o ho
    obtain ⟨decl, hdecl, cls, label, here, _, found, text⟩ := texts o ho
    cases here.symm.trans found
    exact ⟨decl, hdecl, cls, label, text⟩
  refine ⟨ss, e, statements, hr, rfl, ⟨fun o ho => ?_, fun o ho line hl => ?_, declared⟩, ?_⟩
  · exact unmixed (fun _ _ => trivial) o (forest.each.mem_iff.1 ho)
  · obtain ⟨decl, hdecl, -, -, text⟩ := declared o ho
    have consistent := Program.ofSource_consistent _ _ ss statements
    rw [text] at hl
    exact consistent decl (List.mem_of_getElem? hdecl) line hl
  · exact fun before precedes => precedes.keepsTexts

/-- A box with contrary marks, a circle in a group, and a copy of the box. -/
theorem compile_marksAgree_copied : ∃ (d : Diagram MachineNumber) (ss : List Statement)
    (before : Drawing MachineNumber), compile Resources.standard
      "box \"a\" ljust rjust big small dashed dotted; [circle \"b\" above below]; box same" = .ok d ∧
    (d.allObjects.map fun o => (o.style.dashed.isSome, o.style.dotted.isSome, o.text)) =
      [(false, true, [{ text := "a", rjust := true, small := true }]), (false, false, []),
        (false, false, [{ text := "b", below := true }]), (false, true, [])] ∧
    d.MarksAgree ss ∧ before.registry.arena.length = 1 ∧
    before.registry.KeepsTexts d.registry := by
  let box : Statement := .object ⟨1, 1⟩ .box none
    [⟨⟨1, 5⟩, .text { text := "a", rjust := true, small := true }⟩, ⟨⟨1, 31⟩, .dashed none⟩,
      ⟨⟨1, 38⟩, .dotted none⟩]
  let rest : List Statement :=
    [.group ⟨1, 46⟩ [.object ⟨1, 47⟩ .circle none
        [⟨⟨1, 54⟩, .text { text := "b", below := true }⟩]] none [],
      .object ⟨1, 72⟩ .box none [⟨⟨1, 76⟩, .same none⟩]]
  have statements : Program.ofSource .standard
      "box \"a\" ljust rjust big small dashed dotted; [circle \"b\" above below]; box same" =
        .ok (box :: rest) := by
    cbv
  have drawn : ((ofStatements (Resources.standard : Resources MachineNumber)
      (box :: rest)).toOption.map fun d =>
        d.allObjects.map fun o => (o.style.dashed.isSome, o.style.dotted.isSome, o.text)) =
      some [(false, true, [{ text := "a", rjust := true, small := true }]), (false, false, []),
        (false, false, [{ text := "b", below := true }]), (false, true, [])] := by
    decide +kernel
  obtain ⟨d, compiled, listed⟩ :=
    exists_compile_eq_ok (t := Resources.standard) statements drawn
  obtain ⟨ss, e, same, ran, rfl, agree, lasting⟩ := compile_marksAgree compiled
  cases statements.symm.trans same
  obtain ⟨before, drew, goesOn⟩ := exists_of_run_cons_eq_ok ran
  have reached : (execute Resources.standard (Drawing.initial : Drawing MachineNumber)
      box).2.Reachable Resources.standard := Drawing.Reachable.initial.execute box
  have one : (execute (Resources.standard : Resources MachineNumber)
      Drawing.initial box).2.registry.arena.length = 1 := by
    decide +kernel
  rw [drew] at reached one
  have precedes : before.Precedes Resources.standard (run Resources.standard before rest).2 :=
    Drawing.Precedes.refl.run reached rest
  rw [goesOn] at precedes
  exact ⟨_, _, before, compiled, listed, agree, one, lasting before precedes⟩

end Diagram

end DiagramScript
