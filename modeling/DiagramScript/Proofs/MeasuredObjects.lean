import DiagramScript.Proofs.VisitedObjects

/-!
# What a diagram is measured by

The bounding box of a diagram is taken over all objects but groups and invisible ones.  An object in
an invisible group is among them, although the document passes over the group with all that is in
it.

* `Diagram.measured` — the objects that the box is taken over.
* `Diagram.MeasuresVisited` — which of them the document comes to, and what the box has to do with
  these.
* `Diagram.compile_measuresVisited` — this is so for every script.
* `Diagram.compile_measures_hidden` — a diagram with a box of which nothing is to be seen.
-/

namespace DiagramScript

variable {K : Type}

namespace Diagram

/-- The objects that the box of a diagram is taken over. -/
def measured (d : Diagram K) : List (Object K) := d.allObjects.filter isDrawn

theorem isDrawn_iff {o : Object K} :
    isDrawn o = true ↔ o.cls ≠ .container ∧ o.style.invisible = false := by
  simp [isDrawn]

variable [Arith K]

/-- What the box of a diagram has to do with the objects that the document comes to. -/
structure MeasuresVisited (d : Diagram K) : Prop where
  /-- The document shows what it comes to, and nothing else. -/
  document : ∀ scale margin, Ensures (Svg.Shows (Svg.Canvas.ofDiagram d scale margin) d.visited)
    (Svg.document d scale margin)
  /-- The box is that of all objects that are measured. -/
  box : d.box = Box.mergeAll none (d.measured.map (·.box))
  /-- Groups are not measured, and neither are invisible objects. -/
  drawn : ∀ o ∈ d.measured, o.cls ≠ .container ∧ o.style.invisible = false
  /-- Everything else that the document comes to is measured. -/
  visited : ∀ o ∈ d.visited, o.cls ≠ .container → o.style.invisible = false → o ∈ d.measured
  /-- The document comes to what is measured exactly if no group around it is invisible. -/
  reached : ∀ o ∈ d.measured, o ∈ d.visited ↔
    ∀ g ∈ d.allObjects, Relation.TransGen d.IsMember o.id g.id → g.style.invisible = false
  /-- If that is so for all of it, the box is that of what the document shows. -/
  shown : (∀ o ∈ d.measured, o ∈ d.visited) →
    d.box = Box.mergeAll none ((d.visited.filter isDrawn).map (·.box))

theorem IsForest.measuresVisited {d : Diagram K} (h : d.IsForest) : d.MeasuresVisited where
  document := Svg.document_shows d
  box := rfl
  drawn o ho := isDrawn_iff.1 (List.mem_filter.1 ho).2
  visited o ho group invisible :=
    List.mem_filter.2 ⟨d.visited_sublist.subset ho, isDrawn_iff.2 ⟨group, invisible⟩⟩
  reached o ho := by
    obtain ⟨listed, drawn⟩ := List.mem_filter.1 ho
    have shows : o.hides = false := by
      simp [Object.hides, (isDrawn_iff.1 drawn).2]
    rw [h.mem_visited_iff]
    constructor
    · rintro ⟨-, -, above⟩ g hg
      exact above g (h.each.mem_iff.1 hg)
    · intro above
      exact ⟨h.each.mem_iff.1 listed, shows, fun g hg => above g (h.each.mem_iff.2 hg)⟩
  shown all := by
    -- both are parts of the list of all objects, in the same order
    have part : (d.visited.filter isDrawn).Sublist d.measured := d.visited_sublist.filter _
    have whole : d.measured ⊆ d.visited.filter isDrawn := fun o ho =>
      List.mem_filter.2 ⟨all o ho, (List.mem_filter.1 ho).2⟩
    have once : d.measured.Nodup := h.nodup_allObjects.filter _
    rw [part.eq_of_length_le (once.subperm whole).length_le]
    rfl

variable {t : Resources K} {source : String} {d : Diagram K}

/-- The box of a diagram is taken over all that is visible by itself; the document shows it except
where a group around it is invisible. -/
theorem compile_measuresVisited (h : compile t source = .ok d) : d.MeasuresVisited := by
  obtain ⟨_, _, -, hr, rfl⟩ := compile_eq_ok.1 h
  exact (isForest_of_run hr).measuresVisited

/-- A group with a box, an invisible box, and an invisible group with a circle.  The circle is
measured, and the document does not come to it. -/
theorem compile_measuresVisited_nested : ∃ d : Diagram MachineNumber,
    compile Resources.standard "[box; box invisible; [circle] invisible]" = .ok d ∧
    d.measured.map (·.id) = [0, 2] ∧ d.visited.map (·.id) = [4, 0, 1] ∧ d.MeasuresVisited := by
  let unseen : Nat → List Attribute := fun column => [⟨⟨1, column⟩, .flag .invisible⟩]
  let ss : List Statement := [.group ⟨1, 1⟩ [.object ⟨1, 2⟩ .box none [],
    .object ⟨1, 7⟩ .box none (unseen 11),
    .group ⟨1, 22⟩ [.object ⟨1, 23⟩ .circle none []] none (unseen 31)] none []]
  have statements : Program.ofSource .standard "[box; box invisible; [circle] invisible]" =
      .ok ss := by
    cbv
  have drawn : ((ofStatements (Resources.standard : Resources MachineNumber) ss).toOption.map
      fun d => (d.measured.map (·.id), d.visited.map (·.id))) = some ([0, 2], [4, 0, 1]) := by
    decide +kernel
  obtain ⟨d, compiled, listed⟩ :=
    exists_compile_eq_ok (t := Resources.standard) statements drawn
  obtain ⟨measured, visited⟩ := Prod.mk.inj listed
  exact ⟨d, compiled, measured, visited, compile_measuresVisited compiled⟩

/-- An invisible group with a box: the document comes to nothing, but the diagram has a bounding
box. -/
theorem compile_measures_hidden : ∃ d : Diagram MachineNumber,
    compile Resources.standard "[ box ] invisible" = .ok d ∧ d.visited = [] ∧
    d.measured.map (·.id) = [0] ∧ d.box.isSome = true ∧ ¬∀ o ∈ d.measured, o ∈ d.visited := by
  let ss : List Statement :=
    [.group ⟨1, 1⟩ [.object ⟨1, 3⟩ .box none []] none [⟨⟨1, 9⟩, .flag .invisible⟩]]
  have statements : Program.ofSource .standard "[ box ] invisible" = .ok ss := by
    cbv
  have drawn : ((ofStatements (Resources.standard : Resources MachineNumber) ss).toOption.map
      fun d => (d.visited.map (·.id), d.measured.map (·.id), d.box.isSome)) =
        some ([], [0], true) := by
    decide +kernel
  obtain ⟨d, compiled, listed⟩ :=
    exists_compile_eq_ok (t := Resources.standard) statements drawn
  obtain ⟨visited, rest⟩ := Prod.mk.inj listed
  obtain ⟨measured, boxed⟩ := Prod.mk.inj rest
  have nothing : d.visited = [] := List.map_eq_nil_iff.1 visited
  refine ⟨d, compiled, nothing, measured, boxed, fun all => ?_⟩
  cases hm : d.measured with
  | nil =>
    rw [hm] at measured
    cases measured
  | cons o os =>
    have found := all o (hm ▸ List.mem_cons_self)
    rw [nothing] at found
    cases found

end Diagram

end DiagramScript
