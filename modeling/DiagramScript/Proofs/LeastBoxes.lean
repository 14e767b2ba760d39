import DiagramScript.Proofs.BoxHulls
import DiagramScript.Proofs.MachineOrder

/-!
# The least box around a diagram

The bounding box of a diagram is the least that holds everything visible, as long as nothing in it
is given a negative width or height.  Nothing keeps a declaration from doing so, and then the box
may be the wrong way round.  All this is so whether numbers are rounded or not; a side that is
undefined is neither before nor behind anything.

* `Declaration.gives` — whether the extent of an object is its own, and not that of its path or of
  its members.
* `Object.upright_invariant`, `Registry.spansUpright_settles` — the extents of paths, and of groups
  around members whose extents are not negative.
* `Diagram.GivesUpright`, `Diagram.ungiven_upright` — an extent that is taken from somewhere is not
  negative if none of the others is.
* `Diagram.BoxAgrees`, `Diagram.compile_boxAgrees` — the bounding box of every diagram.
* `Diagram.compile_box_reversed` — a diagram with a box of negative width.
-/

namespace DiagramScript

variable {K : Type}

/-- Whether an object with a declaration has an extent of its own along an axis.  That of a path is
the extent of its points, and that of a group is the extent of its members unless a clause gives it
another. -/
def Declaration.gives (decl : Declaration) (axis : Axis) : Bool :=
  !decl.cls.isLine && (decl.cls ≠ .container || decl.resizesAlong axis)

variable [Arith K] [OrderedNumber K]

/-! ## Paths -/

/-- A path with points has no negative extent. -/
theorem Draft.along_upright (d : Draft K) {points : List (Point K)} (h : 2 ≤ points.length)
    (axis : Axis) : (d.along points).object.Upright axis := by
  obtain ⟨b, hb⟩ := Box.exists_ofPoints (List.length_pos_iff.1 (Nat.zero_lt_of_lt h))
  have same : (d.along points).object.extent axis = b.extent axis := by
    unfold along Object.fitPath
    dsimp only
    rw [hb]
    split <;> cases axis <;> rfl
  rw [Object.Upright, same]
  exact Box.extent_nonneg (Box.ofPoints_upright hb axis)

omit [OrderedNumber K] in
/-- An object that is as wide and as high as one without negative extents has none either. -/
theorem Object.Upright.of_sizes {o o' : Object K} (h : ∀ axis, o.Upright axis)
    (width : o'.width = o.width) (height : o'.height = o.height) (axis : Axis) :
    o'.Upright axis := by
  have upright := h axis
  unfold Upright Object.extent at upright ⊢
  rwa [width, height]

/-- No path has a negative extent. -/
theorem Object.upright_invariant (t : Resources K) :
    Object.Invariant t fun o : Object K => o.cls.isLine = true → ∀ axis, o.Upright axis := by
  refine .of_place (C := fun cls => cls.isLine = true) nofun ?_ ?_ ?_ ?_
  · exact fun _ _ _ h => Upright.of_sizes h rfl rfl
  · exact fun _ h => Upright.of_sizes h rfl rfl
  · exact fun _ _ _ _ _ h => Upright.of_sizes h rfl rfl
  · intro draft s line placed hp axis
    obtain ⟨points, two, along⟩ := draft.place_along s line placed hp
    exact along ▸ draft.along_upright two axis

/-! ## Groups -/

/-- The visible members of a group have no box of negative extent if none of them has one. -/
theorem Registry.extentOf_visibleBox_nonneg {r : Registry K} {ids : List Nat} {axis : Axis}
    (h : ∀ o ∈ r.objects ids, o.style.invisible = false → o.Upright axis) :
    ¬Box.extentOf (r.visibleBox ids) axis < Arith.num 0 := by
  cases hb : r.visibleBox ids with
  | none => exact OrderedNumber.irrefl _
  | some b =>
    refine Box.extent_nonneg ((Box.mergeAll_isHull hb).upright_of_all fun c hc => ?_)
    obtain ⟨o, ho, rfl⟩ := List.mem_map.1 hc
    obtain ⟨listed, visible⟩ := List.mem_filter.1 ho
    exact Object.box_upright fun _ => h o listed (Bool.not_eq_true' _ ▸ visible)

/-- Whether an object, if it is declared as a group, has no negative extent along an axis along
which no clause gives it one, unless one of its visible members has.  Members are older than
groups. -/
def Registry.SpansUpright (r : Registry K) (i : Nat) (decl : Declaration) : Prop :=
  ∃ o, r.arena[i]? = some o ∧ (∀ c ∈ o.children, c < i) ∧
    (decl.cls = .container → ∀ axis, decl.resizesAlong axis = false →
      (∀ c ∈ r.objects o.children, c.style.invisible = false → c.Upright axis) → o.Upright axis)

omit [OrderedNumber K] in
/-- Moving an object does not change its extent. -/
theorem Object.enclosed_upright (o : Object K) (dx dy : K) (serial group : Nat) (roots : List Nat)
    (axis : Axis) : (o.enclosed dx dy serial group roots).Upright axis ↔ o.Upright axis := by
  unfold enclosed carry
  cases axis <;> split_ifs <;> rfl

/-- A group has the extent of its visible members when it is drawn around them, and nobody's extent
changes afterwards. -/
theorem Registry.spansUpright_settles (t : Resources K) :
    Declaration.Settles t (Registry.SpansUpright (K := K)) where
  declared {d r draft exit n cls label attributes} _ drafted _ found := by
    have none : draft.object.children = [] :=
      congrArg Standing.children (Drawing.draft_standing _ _ _ _ drafted)
    refine ⟨_, found, fun c hc => ?_, fun group axis free _ => ?_⟩
    · exact absurd (none ▸ hc : c ∈ []) List.not_mem_nil
    · obtain rfl : cls = .container := group
      have surrounds := (Drawing.draft_surrounds_none _ drafted).extent axis free
      have zero : ¬draft.object.extent axis < Arith.num 0 := surrounds ▸ OrderedNumber.irrefl _
      cases axis <;> exact zero
  grouped {after d' inner first n origin full placed label attributes} drafted wraps := by
    refine ⟨_, wraps.found, fun c hc => (wraps.members c hc).2, fun _ axis free upright => ?_⟩
    obtain ⟨around, extent⟩ := Drawing.groupDraft_around _ drafted
    let members := (after.registry.scope inner).members
    have same : Drawing.scopeBox (after.create .container).2.registry inner =
        after.registry.visibleBox members :=
      visibleBox_congr fun c hc => List.getElem?_append_left (wraps.members c hc).2
    have spans : ¬placed.object.extent axis < Arith.num 0 := by
      rw [show placed.object.extent = full.object.extent from extent, around.extent axis free, same]
      refine extentOf_visibleBox_nonneg fun o ho visible => ?_
      have moved := wraps.objects wraps.members ▸ List.mem_map_of_mem ho
      have shown := upright _ moved ((congrArg _ (o.enclosed_style ..)).trans visible)
      exact (o.enclosed_upright ..).1 shown
    cases axis <;> exact spans
  wrapped {after d' first group dx dy serial i decl} wraps hi hlt := by
    rintro ⟨o, ho, below, spans⟩
    have bounds : ∀ c ∈ o.children, first ≤ c ∧ c < after.registry.arena.length := fun c hc => by
      have := wraps.inside i o hi ho c hc
      omega
    refine ⟨_, (wraps.moved i hi hlt).trans (congrArg _ ho), ?_, fun cls axis free upright => ?_⟩
    · rw [Object.enclosed_children]
      exact below
    · rw [Object.enclosed_children, wraps.objects bounds] at upright
      refine (o.enclosed_upright ..).2 (spans cls axis free fun c hc visible => ?_)
      have moved := upright _ (List.mem_map_of_mem hc)
      exact (c.enclosed_upright ..).1 (moved ((congrArg _ (c.enclosed_style ..)).trans visible))
  later {r r' i decl} same := by
    rintro ⟨o, ho, below, spans⟩
    have members : r'.objects o.children = r.objects o.children :=
      List.filterMap_congr fun c hc => same c (Nat.le_of_lt (below c hc))
    exact ⟨o, (same i (Nat.le_refl i)).trans ho, below, members ▸ spans⟩

/-! ## Diagrams -/

namespace Diagram

variable {t : Resources K} {source : String} {d : Diagram K} {ss : List Statement}

/-- Whether no visible object of a diagram, as some statements declare it, has a negative extent of
its own along an axis. -/
def GivesUpright (d : Diagram K) (ss : List Statement) (axis : Axis) : Prop :=
  ∀ o ∈ d.allObjects, o.style.invisible = false → ∀ decl, (declarationsOf ss)[o.id]? = some decl →
    decl.gives axis = true → o.Upright axis

/-- What the bounding box of a diagram has to do with its objects, which some statements declare. -/
structure BoxAgrees (d : Diagram K) (ss : List Statement) : Prop where
  /-- There is none exactly if all objects are groups or invisible. -/
  missing : d.box = none ↔ ∀ o ∈ d.allObjects, o.cls = .container ∨ o.style.invisible = true
  /-- Each of its sides goes through a point of a path or the corner of a frame. -/
  attained : ∀ b, d.box = some b → ∀ axis,
    (∃ o ∈ d.measured, ∃ p ∈ o.marks, p.along axis = b.low axis) ∧
      ∃ o ∈ d.measured, ∃ p ∈ o.marks, p.along axis = b.high axis
  /-- It holds all points of paths. -/
  points : ∀ b, d.box = some b → ∀ axis, ∀ o ∈ d.measured, o.box.IsDefined axis →
    o.cls.isLine = true → ∀ p ∈ o.points, b.Holds axis p
  /-- It holds the corners of all frames whose extent is not negative. -/
  corners : ∀ b, d.box = some b → ∀ axis, ∀ o ∈ d.measured, o.box.IsDefined axis →
    o.Upright axis → ∀ p ∈ o.box.corners, b.Holds axis p
  /-- Its sides are the right way round if no object has a negative extent. -/
  upright : ∀ b, d.box = some b → ∀ axis, (∀ o ∈ d.measured, o.Upright axis) → b.Upright axis
  /-- One such object is enough if its place is defined. -/
  turned : ∀ b, d.box = some b → ∀ axis,
    (∃ o ∈ d.measured, o.box.IsDefined axis ∧ o.Upright axis) → b.Upright axis
  /-- Its objects are those that are declared. -/
  declared : ∀ o ∈ d.allObjects, ∃ decl, (declarationsOf ss)[o.id]? = some decl ∧
    o.cls = decl.cls ∧ o.label = decl.label
  /-- The extents of paths are not negative. -/
  paths : ∀ o ∈ d.allObjects, o.cls.isLine = true → ∀ axis, o.Upright axis
  /-- Neither are those that groups take from their members, unless another visible object has a
  negative extent of its own. -/
  derived : ∀ axis, d.GivesUpright ss axis → ∀ o ∈ d.allObjects, ∀ decl,
    (declarationsOf ss)[o.id]? = some decl → decl.gives axis = false → o.Upright axis

omit [OrderedNumber K] in
/-- An extent that an object takes from its path or from its members is not negative, unless another
visible object has a negative extent of its own.  The induction is on the number of the object:
members are older than their group. -/
theorem ungiven_upright {axis : Axis} (given : d.GivesUpright ss axis)
    (paths : ∀ o ∈ d.allObjects, o.cls.isLine = true → o.Upright axis)
    (groups : ∀ o ∈ d.allObjects, ∃ decl, (declarationsOf ss)[o.id]? = some decl ∧
      o.cls = decl.cls ∧ (o.cls = .container → decl.resizesAlong axis = false →
        (∀ c ∈ d.registry.objects o.children, c.style.invisible = false → c.Upright axis) →
          o.Upright axis))
    (members : ∀ o ∈ d.allObjects, ∀ c ∈ d.registry.objects o.children,
      c ∈ d.allObjects ∧ c.id < o.id)
    {o : Object K} (ho : o ∈ d.allObjects)
    (h : o.style.invisible = false ∨
      ∀ decl, (declarationsOf ss)[o.id]? = some decl → decl.gives axis = false) :
    o.Upright axis := by
  induction number : o.id using Nat.strong_induction_on generalizing o with
  | _ n ih =>
    obtain ⟨decl, hdecl, cls, spans⟩ := groups o ho
    cases own : decl.gives axis with
    | true =>
      rcases h with visible | ungiven
      · exact given o ho visible decl hdecl own
      · rw [ungiven decl hdecl] at own
        cases own
    | false =>
      cases line : o.cls.isLine with
      | true => exact paths o ho line
      | false =>
        rw [Declaration.gives, ← cls, line, Bool.not_false, Bool.true_and,
          Bool.or_eq_false_iff] at own
        obtain ⟨group, free⟩ := own
        have group : o.cls = .container := by simpa using group
        refine spans group free fun c hc visible => ?_
        obtain ⟨listed, older⟩ := members o ho c hc
        exact ih c.id (number ▸ older) listed (.inl visible) rfl

/-- The bounding box of every diagram is the least around what is visible, as far as no extent is
negative. -/
theorem compile_boxAgrees (h : compile t source = .ok d) :
    ∃ ss, Program.ofSource t.colors source = .ok ss ∧ d.BoxAgrees ss := by
  obtain ⟨ss, statements, -, settled⟩ := compile_objects (Registry.spansUpright_settles t) h
  have paths := compile_invariant (Object.upright_invariant t) h
  have groups : ∀ o ∈ d.allObjects, ∃ decl, (declarationsOf ss)[o.id]? = some decl ∧
      o.cls = decl.cls ∧ ∀ axis, o.cls = .container → decl.resizesAlong axis = false →
        (∀ c ∈ d.registry.objects o.children, c.style.invisible = false → c.Upright axis) →
          o.Upright axis := by
    intro o ho
    obtain ⟨decl, hdecl, cls, -, here, _, found, -, spans⟩ := settled o ho
    cases here.symm.trans found
    exact ⟨decl, hdecl, cls, fun axis group => spans (cls.symm.trans group) axis⟩
  have members : ∀ o ∈ d.allObjects, ∀ c ∈ d.registry.objects o.children,
      c ∈ d.allObjects ∧ c.id < o.id := by
    obtain ⟨_, e, -, hr, rfl⟩ := compile_eq_ok.1 h
    have forest := isForest_of_run hr
    intro o ho c hc
    obtain ⟨listed, member⟩ := (Drawing.Reachable.of_run hr).counted.mem_objects_iff.1 hc
    exact ⟨forest.each.mem_iff.2 listed, forest.smaller o (forest.each.mem_iff.1 ho) c.id member⟩
  refine ⟨ss, statements, ?_⟩
  refine
    { missing := box_eq_none_iff
      attained := fun b hb axis => exists_mark hb axis
      points := fun b hb axis o ho defined line p hp => box_holds_point hb ho defined line hp
      corners := fun b hb axis o ho defined upright p hp =>
        box_holds_corner hb ho defined (Object.box_upright fun _ => upright) hp
      upright := fun b hb axis all => (box_isHull hb).upright_of_all fun c hc => ?_
      turned := ?_
      declared := fun o ho => ?_
      paths := paths
      derived := fun axis given o ho decl hdecl own => ?_ }
  · obtain ⟨o, ho, rfl⟩ := List.mem_map.1 hc
    exact Object.box_upright fun _ => all o ho
  · rintro b hb axis ⟨o, ho, defined, upright⟩
    exact (box_isHull hb).upright (List.mem_map_of_mem ho) defined
      (Object.box_upright fun _ => upright)
  · obtain ⟨decl, hdecl, cls, label, -⟩ := settled o ho
    exact ⟨decl, hdecl, cls, label⟩
  · refine ungiven_upright given (fun o ho line => paths o ho line axis) (fun o ho => ?_) members ho
      (.inr fun other hother => ?_)
    · obtain ⟨decl, hdecl, cls, spans⟩ := groups o ho
      exact ⟨decl, hdecl, cls, spans axis⟩
    · cases hdecl.symm.trans hother
      exact own

/-- A group with a box and an arrow in it, which is given a width, and an invisible circle. -/
theorem compile_boxAgrees_grouped : ∃ (d : Diagram MachineNumber) (ss : List Statement),
    compile Resources.standard "[box; arrow up] width 2; circle invisible" = .ok d ∧
    (d.allObjects.map fun o => (o.id, Arith.general o.width, Arith.general o.height)) =
      [(2, ['2'], ['0', '.', '7', '5']), (0, ['0', '.', '7', '5'], ['0', '.', '5']),
        (1, ['0'], ['0', '.', '5']), (3, ['0', '.', '5'], ['0', '.', '5'])] ∧
    (∀ o ∈ d.allObjects, ∀ axis, o.Upright axis ∧ o.box.IsDefined axis) ∧ d.box.isSome = true ∧
    Program.ofSource .standard "[box; arrow up] width 2; circle invisible" = .ok ss ∧
    d.BoxAgrees ss ∧ ∀ axis, d.GivesUpright ss axis := by
  let ss : List Statement := [.group ⟨1, 1⟩ [.object ⟨1, 2⟩ .box none [],
    .object ⟨1, 7⟩ .arrow none [⟨⟨1, 13⟩, .direction .up none⟩]] none
      [⟨⟨1, 17⟩, .size .width (.number ⟨1, 23⟩ ⟨2, 0⟩ none)⟩],
    .object ⟨1, 26⟩ .circle none [⟨⟨1, 33⟩, .flag .invisible⟩]]
  have statements :
      Program.ofSource .standard "[box; arrow up] width 2; circle invisible" = .ok ss := by
    cbv
  have drawn : ((ofStatements (Resources.standard : Resources MachineNumber) ss).toOption.map
      fun d => (d.allObjects.map fun o => (o.id, Arith.general o.width, Arith.general o.height),
        d.allObjects.all fun o => [Axis.x, Axis.y].all fun axis =>
          !decide (o.extent axis < Arith.num 0) && !Arith.isNaN (o.box.low axis) &&
            !Arith.isNaN (o.box.high axis), d.box.isSome)) =
      some ([(2, ['2'], ['0', '.', '7', '5']), (0, ['0', '.', '7', '5'], ['0', '.', '5']),
        (1, ['0'], ['0', '.', '5']), (3, ['0', '.', '5'], ['0', '.', '5'])], true, true) := by
    decide +kernel
  obtain ⟨d, compiled, known⟩ := exists_compile_eq_ok (t := Resources.standard) statements drawn
  obtain ⟨listed, rest⟩ := Prod.mk.inj known
  obtain ⟨checked, boxed⟩ := Prod.mk.inj rest
  have upright : ∀ o ∈ d.allObjects, ∀ axis, o.Upright axis ∧ o.box.IsDefined axis := by
    intro o ho axis
    have both := List.all_eq_true.1 (List.all_eq_true.1 checked o ho) axis (by cases axis <;> simp)
    simpa [Object.Upright, Box.IsDefined, and_assoc] using both
  obtain ⟨ss', same, agree⟩ := compile_boxAgrees compiled
  exact ⟨d, ss', compiled, listed, upright, boxed, same, agree,
    fun axis o ho _ _ _ _ => (upright o ho axis).1⟩

/-- A box of negative width.  Its right side is on the left of its left side. -/
theorem compile_box_reversed : ∃ (d : Diagram MachineNumber) (b : Box MachineNumber),
    compile Resources.standard "box width -1" = .ok d ∧ d.box = some b ∧ b.maxX < b.minX := by
  let ss : List Statement := [.object ⟨1, 1⟩ .box none
    [⟨⟨1, 5⟩, .size .width (.neg ⟨1, 11⟩ (.number ⟨1, 12⟩ ⟨1, 0⟩ none))⟩]]
  have statements : Program.ofSource .standard "box width -1" = .ok ss := by
    cbv
  have reversed : ((ofStatements (Resources.standard : Resources MachineNumber) ss).toOption.map
      fun d => d.box.any fun b => b.maxX < b.minX) = some true := by
    decide +kernel
  obtain ⟨d, compiled, known⟩ :=
    exists_compile_eq_ok (t := Resources.standard) statements reversed
  obtain ⟨b, boxed, sides⟩ := (Option.any_eq_true ..).1 known
  exact ⟨d, b, compiled, boxed, of_decide_eq_true sides⟩

end Diagram

end DiagramScript
