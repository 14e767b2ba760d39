import DiagramScript.Proofs.ObjectForest

/-!
# What later statements leave alone

Statements may copy objects, run lines to them and move whole groups, yet they only ever write to
objects of their own.  Whatever comes after some statements adds to what these have drawn and
printed, and changes nothing in it.

* `run_messages` — nothing that was printed is taken back.
* `Planted.trees_append_right` — objects that are added later are in no tree that is there.
* `Diagram.ofStatements_append` — the diagram of some statements is the first part of the diagram of
  these and others after them.
-/

namespace DiagramScript

variable {K : Type} [Arith K]

/-! ## Messages -/

namespace Drawing

variable (d : Drawing K) (t : Resources K)

theorem finish_messages (draft : Draft K) (exit : Option Direction) (label : Option String) :
    (d.finish draft exit label).2.messages = d.messages := by
  unfold finish
  split
  · rfl
  · split
    · rfl
    · split <;> rfl

/-- Declarations print nothing. -/
theorem declare_messages (cls : ObjectClass) (label : Option String)
    (attributes : List Attribute) : (d.declare t cls label attributes).2.messages = d.messages := by
  unfold declare
  dsimp only
  split
  · rfl
  · rw [finish_messages]
    rfl

/-- Making a group prints nothing. -/
theorem group_messages (inner : Nat) (origin : Point K) (label : Option String)
    (attributes : List Attribute) :
    (d.group t inner origin label attributes).2.messages = d.messages := by
  unfold group
  dsimp only
  split
  · rfl
  · rw [finish_messages, moveMembers_messages]
    rfl

end Drawing

open Drawing

variable (t : Resources K)

/-- Every step of a run prints after what was printed before, if anything. -/
theorem containsSteps_messages :
    ContainsSteps t fun d e : Drawing K => d.messages <+: e.messages where
  refl _ := List.prefix_rfl
  trans h h' := h.trans h'
  notes h := by
    cases h with
    | print => exact List.prefix_append ..
    | _ => exact List.prefix_rfl
  declare d cls label attributes := (d.declare_messages t cls label attributes) ▸ List.prefix_rfl
  body within := within
  group _ within label attributes := by
    rw [group_messages]
    exact within

/-- Statements print after what was printed before. -/
theorem run_messages (d : Drawing K) (ss : List Statement) :
    d.messages <+: (run t d ss).2.messages :=
  (containsSteps_messages t).run d ss

/-! ## Trees -/

/-- Objects that are added later are in none of the trees that are there. -/
theorem Planted.trees_append_right {sh added : Shape} {roots : List Nat} (h : Planted 0 sh roots) :
    (sh ++ added).trees roots = sh.trees roots := by
  refine List.flatMap_congr fun id hid => ?_
  have hlt := h.mem_roots id hid
  rw [Shape.below_congr h.isOrdered fun i hi => ?_]
  rw [Shape.members, Shape.members, List.getElem?_append_left (by omega)]

omit [Arith K] in
/-- Objects that stay as they are, and more after them. -/
theorem Registry.objects_prefix {r r' : Registry K} {ids more : List Nat}
    (h : ∀ i ∈ ids, r'.arena[i]? = r.arena[i]?) :
    r.objects ids <+: r'.objects (ids ++ more) := by
  have same : r'.objects ids = r.objects ids := List.filterMap_congr h
  rw [show r'.objects (ids ++ more) = r'.objects ids ++ r'.objects more from
    List.filterMap_append .., same]
  exact List.prefix_append ..

/-! ## Diagrams -/

namespace Diagram

variable {t}

theorem ofStatements_eq_ok {ss : List Statement} {d : Diagram K} :
    ofStatements t ss = .ok d ↔ ∃ e, run t Drawing.initial ss = (.ok (), e) ∧ d = ofDrawing e := by
  unfold ofStatements
  rcases run t Drawing.initial ss with ⟨_ | _, e⟩
  · simp
  · simp [eq_comm]

/-- Statements after others leave what these have drawn and printed as it is.  If all of them
succeed, so do the first ones alone, and the objects of these, each followed by those in it, are the
first objects of all. -/
theorem ofStatements_append {ss rest : List Statement} {whole : Diagram K}
    (h : ofStatements t (ss ++ rest) = .ok whole) :
    ∃ part, ofStatements t ss = .ok part ∧ part.allObjects <+: whole.allObjects ∧
      part.messages <+: whole.messages := by
  obtain ⟨e', hall, rfl⟩ := ofStatements_eq_ok.1 h
  rw [run_append, Outcome.andThen] at hall
  rcases hr : run t Drawing.initial ss with ⟨_ | _, e⟩
  · rw [hr] at hall
    cases hall
  rw [hr] at hall
  change run t e rest = (.ok (), e') at hall
  refine ⟨ofDrawing e, ofStatements_eq_ok.2 ⟨e, hr, rfl⟩, ?_, ?_⟩
  · obtain ⟨added, roots, first⟩ := run_grows hr Nat.one_pos
    have standing : e.scope < e.registry.scopes.length :=
      first.scope.symm ▸ Nat.one_pos.trans_le first.count
    obtain ⟨more, moreRoots, later⟩ := run_grows hall standing
    have planted : Planted 0 e.registry.shape roots := by
      rw [first.shape]
      exact first.planted
    have everything := first.trans later
    have planted' : Planted 0 e'.registry.shape (roots ++ moreRoots) := by
      rw [everything.shape]
      exact everything.planted
    have before : (ofDrawing e).allObjects =
        e.registry.objects (e.registry.shape.trees roots) := by
      rw [← Registry.trees_eq planted, ← show (e.registry.scope 0).members = roots from first.here]
      rfl
    have after : (ofDrawing e').allObjects = e'.registry.objects
        (e.registry.shape.trees roots ++ e'.registry.shape.trees moreRoots) := by
      rw [← planted.trees_append_right, ← later.shape, ← Shape.trees_append,
        ← Registry.trees_eq planted',
        ← show (e'.registry.scope 0).members = roots ++ moreRoots from everything.here]
      rfl
    -- the later statements may read the objects in these trees, but write to none of them
    have untouched :
        ∀ i < e.registry.arena.length, e'.registry.arena[i]? = e.registry.arena[i]? := by
      have evolved := run_evolves (t := t) rest standing
      rw [hall] at evolved
      exact evolved.registry.frame.objects
    rw [before, after]
    refine Registry.objects_prefix fun i hi => untouched i ?_
    have inside := List.mem_range.1 (planted.perm_range.mem_iff.1 hi)
    rwa [Registry.length_shape] at inside
  · have printed := run_messages t e rest
    rw [hall] at printed
    exact printed

/-- A box and a group with a circle; and after them a copy of the box, a line to the group, a group
that is moved, and a message. -/
theorem ofStatements_append_copies :
    let box : ObjectRef := .select ⟨1, 1⟩ (.label "B")
    let group : ObjectRef := .select ⟨6, 17⟩ (.label "G")
    let ss : List Statement :=
      [.object ⟨1, 1⟩ .box (some "B") [⟨⟨1, 8⟩, .flag .thick⟩], .print ⟨2, 1⟩ [.text "one"],
        .group ⟨3, 1⟩ [.object ⟨3, 2⟩ .circle none []] (some "G") []]
    let rest : List Statement :=
      [.object ⟨4, 1⟩ .box none [⟨⟨4, 5⟩, .same (some box)⟩], .print ⟨5, 1⟩ [.text "two"],
        .object ⟨6, 1⟩ .arrow none [⟨⟨6, 7⟩, .start (.object ⟨6, 12⟩ box none)⟩,
          ⟨⟨6, 14⟩, .target (.object ⟨6, 17⟩ group none)⟩],
        .group ⟨7, 1⟩ [.object ⟨7, 2⟩ .box none []] none
          [⟨⟨7, 6⟩, .located (.object ⟨7, 9⟩ box none)⟩]]
    ∃ whole : Diagram MachineNumber, ofStatements Resources.standard (ss ++ rest) = .ok whole ∧
      whole.allObjects.map (·.id) = [0, 2, 1, 3, 4, 6, 5] ∧ whole.messages = ["one", "two"] ∧
      ∃ part, ofStatements Resources.standard ss = .ok part ∧
        part.allObjects <+: whole.allObjects ∧ part.messages <+: whole.messages := by
  intro box group ss rest
  have drawn : ((ofStatements (Resources.standard : Resources MachineNumber)
      (ss ++ rest)).toOption.map fun d => (d.allObjects.map (·.id), d.messages)) =
        some ([0, 2, 1, 3, 4, 6, 5], ["one", "two"]) := by
    decide +kernel
  obtain ⟨whole, succeeds, seen⟩ := exists_ofStatements_eq_ok drawn
  obtain ⟨order, printed⟩ := Prod.mk.inj seen
  exact ⟨whole, succeeds, order, printed, ofStatements_append succeeds⟩

end Diagram

end DiagramScript
