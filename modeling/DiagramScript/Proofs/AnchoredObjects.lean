import Mathlib.Tactic.Ring
import DiagramScript.Proofs.ClauseEffects
import DiagramScript.Proofs.LaterViews
import DiagramScript.Proofs.Stacking

/-!
# Objects that are said to lie somewhere

A clause may put an anchor of an object on a point.  With exact numbers the anchor lies there when
the object is finished, of whatever class, size and path it is, because every anchor moves with its
object; and what a group holds moves by the same vector as the group.

* `Clause.location?`, `Declaration.locations` — which anchors a declaration puts where.
* `Object.anchorPoint_translate`, `Object.anchorPoint_recenter` — anchors of an object that moves.
* `Draft.LiesAt`, `Draft.applyAll_liesAt` — what clauses say of the place, clause by clause.
* `Draft.place_anchored` — the anchor of an object that is placed.
* `Drawing.Reachable.exists_anchored` — declarations, wherever a run has come to.
-/

namespace DiagramScript

variable {K : Type}

/-! ## What is said of the place -/

/-- Which anchor a clause puts where; the center if it names none. -/
def Clause.location? : Clause → Option (Anchor × Position)
  | .located q => some (.center, q)
  | .anchored edge q => some (edge, q)
  | _ => none

/-- Which anchors a declaration puts where. -/
def Declaration.locations (decl : Declaration) : List (Anchor × Position) :=
  decl.attributes.filterMap (·.clause.location?)

namespace Draft

section Clauses

variable [Arith K] {v : View K} {d d' : Draft K}

/-- What a draft knows of its place when clauses have said what is listed.  At most one of them is
looked at. -/
def LiesAt (v : View K) (d : Draft K) : List (Anchor × Position) → Prop
  | [] => d.located = none ∧ d.anchor = none
  | [(edge, q)] => ∃ p, v.position q = .ok p ∧ d.located = some p ∧ d.anchor.getD .center = edge
  | _ => True

theorem LiesAt.congr {said : List (Anchor × Position)} (h : d.LiesAt v said)
    (located : d'.located = d.located) (anchor : d'.anchor = d.anchor) : d'.LiesAt v said := by
  match said with
  | [] => exact ⟨located.trans h.1, anchor.trans h.2⟩
  | [(edge, q)] =>
    obtain ⟨p, hp, hl, ha⟩ := h
    exact ⟨p, hp, located.trans hl, anchor ▸ ha⟩
  | _ :: _ :: _ => trivial

/-- A clause that puts nothing anywhere leaves the place alone. -/
theorem Effect.place_eq {c : Clause} (h : d.Effect v c d') (hc : c.location? = none) :
    d'.located = d.located ∧ d'.anchor = d.anchor := by
  cases h with
  | @size what value reference x usual given =>
    obtain ⟨_, _, _, _, _, resized⟩ := d.exists_resize_eq what x
    rw [resized]
    exact ⟨rfl, rfl⟩
  | flag what => cases what <;> exact ⟨rfl, rfl⟩
  | located _ => cases hc
  | anchored _ => cases hc
  | _ => exact ⟨rfl, rfl⟩

/-- What is known of the place after one more clause. -/
theorem Effect.liesAt {c : Clause} (h : d.Effect v c d') {said : List (Anchor × Position)}
    (hd : d.LiesAt v said) : d'.LiesAt v (said ++ c.location?.toList) := by
  cases hc : c.location? with
  | none =>
    rw [Option.toList_none, List.append_nil]
    exact hd.congr (h.place_eq hc).1 (h.place_eq hc).2
  | some there =>
    match said with
    | [] =>
      -- the first clause to say something about the place; the kinds that say nothing are refuted
      cases h with
      | located place =>
        cases hc
        exact ⟨_, place, rfl, congrArg (Option.getD · Anchor.center) hd.2⟩
      | anchored place =>
        cases hc
        exact ⟨_, place, rfl, rfl⟩
      | @style c f restyles keeps => cases c <;> cases hc <;> cases restyles
      | @path c path start finish arcEnd leads headings starts ends =>
        cases c <;> cases hc <;> cases leads
      | _ => cases hc
    | [_] => trivial
    | _ :: _ :: _ => trivial

/-- What is known of the place after all clauses. -/
theorem applyAll_liesAt (h : d.LiesAt v []) (as : List Attribute) :
    Ensures (fun full => full.LiesAt v (as.filterMap (·.clause.location?)))
      (Draft.applyAll v d as) := by
  refine applyAll_induct (P := fun as full => full.LiesAt v (as.filterMap (·.clause.location?)))
    v d h (fun as a full full' hn _ he => ?_) as
  have single : [a].filterMap (·.clause.location?) = a.clause.location?.toList := by
    cases ha : a.clause.location? <;> simp [ha]
  rw [List.filterMap_append, single]
  exact he.liesAt hn

/-- Before any clause nothing is known of the place. -/
theorem begin_liesAt (v : View K) (id : Nat) (cls : ObjectClass) (direction : Direction) :
    Ensures (fun plain => plain.LiesAt v []) (Draft.begin v id cls direction) := by
  refine .andThen fun _ => .andThen fun _ => .andThen fun _ => .andThen fun _ => ?_
  exact .ite (.andThen fun _ => .ok ⟨rfl, rfl⟩) (.ok ⟨rfl, rfl⟩)

end Clauses

end Draft

/-! ## Anchors that move -/

section Moving

variable [ExactNumber K] (center : Point K) (width height dx dy : K)

theorem rectAnchor_shift (spot : Spot) : rectAnchor (center.shift dx dy) width height spot =
    (rectAnchor center width height spot).shift dx dy := by
  simp only [rectAnchor, Point.shift, add_right_comm]

theorem roundAnchor_shift (spot : Spot) : roundAnchor (center.shift dx dy) width height spot =
    (roundAnchor center width height spot).shift dx dy := by
  unfold roundAnchor
  split
  · simp only [Point.shift, add_right_comm]
  · exact rectAnchor_shift ..

theorem diamondAnchor_shift (spot : Spot) : diamondAnchor (center.shift dx dy) width height spot =
    (diamondAnchor center width height spot).shift dx dy := by
  unfold diamondAnchor
  split
  · simp only [Point.shift, add_right_comm]
  · exact rectAnchor_shift ..

/-- A vector from one point to another leads there. -/
theorem Point.shift_sub (p q : Point K) : q.shift (p.x - q.x) (p.y - q.y) = p := by
  rw [shift, add_sub_cancel, add_sub_cancel]

namespace Object

variable (o : Object K)

theorem spotPoint_translate (spot : Spot) :
    (o.translate dx dy).spotPoint spot = (o.spotPoint spot).shift dx dy := by
  unfold spotPoint translate
  dsimp only
  split_ifs
  · exact roundAnchor_shift ..
  · exact diamondAnchor_shift ..
  · exact rectAnchor_shift ..

theorem start_translate : (o.translate dx dy).start = o.start.shift dx dy := by
  have side := o.spotPoint_translate dx dy (.compass o.direction.entrySide)
  unfold start
  cases hl : o.cls.isLine with
  | false =>
    rw [translate_cls, hl]
    exact side
  | true =>
    cases hp : o.points with
    | nil => simpa [translate, hl, hp] using side
    | cons p ps => simp [translate, hl, hp]

theorem finish_translate : (o.translate dx dy).finish = o.finish.shift dx dy := by
  have side := o.spotPoint_translate dx dy (.compass o.direction.exitSide)
  unfold finish
  cases hl : o.cls.isLine with
  | false =>
    rw [translate_cls, hl]
    exact side
  | true =>
    cases hp : o.points.getLast? with
    | none => simpa [translate, hl, hp] using side
    | some p => simp [translate, hl, hp]

/-- An anchor moves with its object, whether it lies on the frame or at an end of the path. -/
theorem anchorPoint_translate (a : Anchor) :
    (o.translate dx dy).anchorPoint a = (o.anchorPoint a).shift dx dy := by
  cases a with
  | spot spot => exact o.spotPoint_translate dx dy spot
  | start => exact o.start_translate dx dy
  | finish => exact o.finish_translate dx dy

/-- The anchors of a frame move with its center. -/
theorem anchorPoint_recenter (frame : o.cls.isLine = false) (c : Point K) (a : Anchor) :
    ({ o with center := c } : Object K).anchorPoint a =
      (o.anchorPoint a).shift (c.x - o.center.x) (c.y - o.center.y) := by
  rw [← anchorPoint_translate, translate, Point.shift_sub]
  cases a with
  | spot spot => rfl
  | start => simp only [anchorPoint, start, frame, spotPoint]
  | finish => simp only [anchorPoint, finish, frame, spotPoint]

omit [ExactNumber K] in
/-- What a registry knows of an object does not matter to its anchors. -/
theorem anchorPoint_known [Arith K] (o : Object K) (ordinal : Nat) (label : Option String)
    (children : List Nat) (finalized : Bool) (a : Anchor) :
    ({ o with ordinal := ordinal, label := label, children := children, finalized := finalized } :
      Object K).anchorPoint a = o.anchorPoint a := by
  cases a <;> rfl

end Object

end Moving

/-! ## Objects that are placed -/

namespace Draft

variable [ExactNumber K] (d : Draft K) (s : Setting K) {p : Point K}

theorem placeFramed_anchored (located : d.located = some p) (frame : d.object.cls.isLine = false) :
    Ensures (fun d' => d'.object.anchorPoint (d.anchor.getD .center) = p) (d.placeFramed s) := by
  unfold placeFramed
  rw [located]
  have there : ∀ x a c : K, a + (x - (a - c) - c) = x := fun x a c => by ring
  refine .ok ?_
  rw [Object.anchorPoint_recenter _ frame]
  exact Point.ext (there ..) (there ..)

theorem along_anchored (located : d.located = some p) (points : List (Point K)) :
    (d.along points).object.anchorPoint (d.anchor.getD .center) = p := by
  unfold along
  rw [located]
  dsimp only
  rw [Object.anchorPoint_translate, Point.shift_sub]

theorem placePath_anchored (located : d.located = some p) :
    Ensures (fun r => r.1.object.anchorPoint (d.anchor.getD .center) = p) (d.placePath s) := by
  rw [placePath_eq]
  split
  · exact .error _
  · refine .andThen fun _ => .andThen fun _ => .ite (.andThen fun _ => ?_) (.andThen fun _ => ?_)
    · exact .ok (d.along_anchored located _)
    · exact .ok (d.along_anchored located _)

/-- The anchor that clauses put on a point lies there when the object has been placed. -/
theorem place_anchored (located : d.located = some p) :
    Ensures (fun r => r.1.object.anchorPoint (d.anchor.getD .center) = p) (d.place s) := by
  by_cases line : d.object.cls.isLine = true
  · rw [place, if_pos line]
    exact d.placePath_anchored s located
  · rw [place, if_neg line]
    refine .bind (d.sizeToText_redraws s) fun sized hs => ?_
    have painted : d.Redraws sized.fillDot := hs.trans sized.fillDot_redraws
    have frame : sized.fillDot.object.cls.isLine = false := by
      rw [painted.cls]
      exact Bool.eq_false_iff.2 line
    refine .bind (sized.fillDot.placeFramed_anchored s (painted.located.trans located) frame)
      fun placed hp => .ok ?_
    rwa [painted.anchor] at hp

end Draft

/-! ## Drawings -/

namespace Drawing

/-- Where a group lies before it goes to its place: around what is drawn in it, or else at the point
where it is attached. -/
def bodyCenter [Arith K] (r : Registry K) (inner : Nat) (origin : Point K) : Point K :=
  ((scopeBox r inner).map Box.center).getD origin

/-- Whether a declaration has added an object whose anchor lies where a position, read before the
declaration, says. -/
structure Anchors [Arith K] (t : Resources K) (d d' : Drawing K) (decl : Declaration)
    (edge : Anchor) (q : Position) (new : Object K) : Prop where
  /-- The new object is the latest. -/
  latest : d'.registry.arena.getLast? = some new
  /-- It has not been there before. -/
  added : d.registry.arena.length ≤ new.id
  /-- It is what was declared, and it is finished. -/
  declared : new.cls = decl.cls ∧ new.label = decl.label ∧ new.finalized = true
  /-- Its anchor lies there. -/
  anchored : (d.view t).position q = .ok (new.anchorPoint edge)

/-- Whether all that has been drawn in the body of a group, from some number on, has moved by the
vector by which the group around it has. -/
structure Carries [Arith K] (inside d' : Drawing K) (first : Nat) (center : Point K)
    (group : Object K) : Prop where
  /-- The group holds what has been drawn in its body, at every depth. -/
  held : ∀ i, i ∈ d'.registry.descendants group.id ↔
    first ≤ i ∧ i < inside.registry.arena.length
  /-- Nothing but the place of it changes, and the group that it is in. -/
  moved : ∀ i, first ≤ i → i < inside.registry.arena.length → ∃ o parent,
    inside.registry.arena[i]? = some o ∧ d'.registry.arena[i]? =
      some { o.translate (group.center.x - center.x) (group.center.y - center.y) with
        parent := parent }

section Groups

variable [Arith K] {t : Resources K} {d : Drawing K}

theorem enclose_center (draft : Draft K) (origin : Point K) (b : Option (Box K)) :
    (enclose draft origin b).object.center = (b.map Box.center).getD origin := by
  cases b <;> rfl

/-- No clause moves a group before it is placed. -/
theorem groupDraft_center {id inner : Nat} {origin : Point K} {attributes : List Attribute} :
    Ensures (fun r => r.1.object.center = bodyCenter d.registry inner origin)
      (d.groupDraft t id inner origin attributes) := by
  refine .andThen fun plain => ?_
  refine .bind (Draft.applyAll_spares _ (d.view t) attributes) fun full hf => ?_
  exact .andThen fun _ => .ok (hf.center.trans (enclose_center ..))

/-- An object that is being drafted is in no scope yet. -/
theorem bodyCenter_create {inner : Nat} (after : Drawing K) (origin : Point K)
    (h : ∀ c ∈ (after.registry.scope inner).members, c < after.registry.arena.length) :
    bodyCenter (after.create .container).2.registry inner origin =
      bodyCenter after.registry inner origin := by
  have same : scopeBox (after.create .container).2.registry inner =
      scopeBox after.registry inner :=
    Registry.visibleBox_congr fun c hc => List.getElem?_append_left (h c hc)
  rw [bodyCenter, bodyCenter, same]

/-- A group holds what has been drawn in its body. -/
theorem mem_descendants_group (h : d.Reachable t) {origin : Point K} {body : List Statement}
    {inside d' : Drawing K} {label : Option String} {attributes : List Attribute}
    (hr : run t (d.enter origin) body = (.ok (), inside))
    (hg : (inside.leave d).group t d.registry.scopes.length origin label attributes =
      (.ok (), d')) (i : Nat) :
    i ∈ d'.registry.descendants inside.registry.arena.length ↔
      d.registry.arena.length ≤ i ∧ i < inside.registry.arena.length := by
  obtain ⟨added, roots, shape, planted, members⟩ := exists_planted_of_body hr
  have frame := body_frame hr
  have grown := group_grows hg shape planted members rfl h.scope_lt frame.scopes
    fun i hi => congrArg Scope.members (frame.scope_eq hi)
  have place : inside.registry.arena.length = d.registry.shape.length + added.length := by
    rw [← List.length_append, ← shape, Registry.length_shape]
    rfl
  have whole : d'.registry.shape =
      d.registry.shape ++ added ++ [(inside.registry.arena.length, roots)] :=
    grown.shape.trans (List.append_assoc ..).symm
  rw [← Registry.length_shape] at planted
  have held := Registry.descendants_latest h.isOrdered planted whole place
  rw [held.mem_iff, List.mem_range'_1, ← place, Registry.length_shape]

end Groups

section Exact

variable [ExactNumber K] {t : Resources K} {d d' : Drawing K} {edge : Anchor} {q : Position}

/-- What is drafted has its anchor where the clauses put it. -/
theorem draft_anchored {id : Nat} {cls : ObjectClass} {attributes : List Attribute}
    (located : attributes.filterMap (·.clause.location?) = [(edge, q)]) :
    Ensures (fun r => (d.view t).position q = .ok (r.1.object.anchorPoint edge))
      (d.draft t id cls attributes) := by
  refine .bind (Draft.begin_liesAt _ id cls d.cursor.direction) fun plain hb => ?_
  refine .bind (Draft.applyAll_liesAt hb attributes) fun full hf placed hp => ?_
  rw [located] at hf
  obtain ⟨p, known, there, rfl⟩ := hf
  rw [full.place_anchored _ there placed hp]
  exact known

/-- So does a group. -/
theorem groupDraft_anchored {id inner : Nat} {origin : Point K} {attributes : List Attribute}
    (located : attributes.filterMap (·.clause.location?) = [(edge, q)]) :
    Ensures (fun r => (d.view t).position q = .ok (r.2.object.anchorPoint edge))
      (d.groupDraft t id inner origin attributes) := by
  intro r hr
  obtain ⟨plain, begun, hr⟩ := exists_of_bind_eq_ok hr
  obtain ⟨full, applied, hr⟩ := exists_of_bind_eq_ok hr
  obtain ⟨placed, hp, hr⟩ := exists_of_bind_eq_ok hr
  cases hr
  let around := enclose plain origin (scopeBox d.registry inner)
  have same : around.located = plain.located ∧ around.anchor = plain.anchor ∧
      around.object.cls = plain.object.cls := by
    unfold around enclose
    split <;> exact ⟨rfl, rfl, rfl⟩
  have container : plain.object.cls = .container :=
    congrArg Standing.cls (Draft.begin_standing _ id .container _ plain begun)
  have frame : full.object.cls.isLine = false := by
    rw [show full.object.cls = around.object.cls from
      congrArg Standing.cls (Draft.applyAll_keeps _ _ attributes full applied), same.2.2, container]
    rfl
  have unsaid : around.LiesAt (d.view t) [] :=
    (Draft.begin_liesAt _ id .container _ plain begun).congr same.1 same.2.1
  have said := Draft.applyAll_liesAt unsaid attributes full applied
  rw [located] at said
  obtain ⟨p, known, there, rfl⟩ := said
  rw [full.placeFramed_anchored _ there frame placed hp]
  exact known

/-- An object that has been drafted with its anchor in its place has been written down so. -/
theorem anchors_of_drafted {decl : Declaration} {o : Object K} {number serial n : Nat}
    {children : List Nat} (anchored : (d.view t).position q = .ok (o.anchorPoint edge))
    (standing : o.standing = { id := number, cls := decl.cls })
    (later : d.registry.arena.length ≤ number) (count : d'.registry.arena.length = number + 1)
    (found : d'.registry.arena[number]? = some { o.stamp serial with
      children := children, ordinal := n, finalized := true, label := decl.label }) :
    d.Anchors t d' decl edge q { o.stamp serial with
      children := children, ordinal := n, finalized := true, label := decl.label } where
  latest := by
    rw [List.getLast?_eq_getElem?, count]
    exact found
  added := later.trans (congrArg Standing.id standing).ge
  declared := ⟨congrArg Standing.cls standing, rfl, rfl⟩
  anchored := by
    rw [Object.stamp_eq]
    exact anchored.trans (congrArg _ (o.anchorPoint_known n decl.label children true edge).symm)

/-- The members of a group that succeeds. -/
theorem carries_of_group (h : d.Reachable t) {origin : Point K} {body : List Statement}
    {inside : Drawing K} {label : Option String} {attributes : List Attribute}
    (hr : run t (d.enter origin) body = (.ok (), inside))
    (hg : (inside.leave d).group t d.registry.scopes.length origin label attributes =
      (.ok (), d')) {group : Object K} {center goal : Point K} {serial : Nat}
    (wraps : (inside.leave d).Wraps d' d.registry.arena.length group (goal.x - center.x)
      (goal.y - center.y) serial)
    (number : group.id = inside.registry.arena.length) (there : group.center = goal) :
    inside.Carries d' d.registry.arena.length center group where
  held i := by
    rw [number]
    exact mem_descendants_group h hr hg i
  moved i hi hlt := by
    have moved := wraps.moved i hi hlt
    rw [show (inside.leave d).registry.arena[i]? = some inside.registry.arena[i] from
      List.getElem?_eq_getElem hlt, Option.map_some, Object.enclosed, Object.carry_eq] at moved
    rw [there]
    exact ⟨_, _, List.getElem?_eq_getElem hlt, moved⟩

/-- Wherever a run has come to, an object of which one clause says that an anchor lies at a point
has that anchor there, and a group takes all that it holds along. -/
theorem Reachable.exists_anchored (h : d.Reachable t) {s : Statement} {decl : Declaration}
    (hs : s.declaration? = some decl) (located : decl.locations = [(edge, q)])
    (he : DiagramScript.execute t d s = (.ok (), d')) :
    ∃ new, d.Anchors t d' decl edge q new ∧
      ∀ p body label attributes, s = .group p body label attributes →
        ∃ origin inside, stackingStart (d.setting t) true = .ok origin ∧
          DiagramScript.run t (d.enter origin) body = (.ok (), inside) ∧
          inside.Carries d' d.registry.arena.length
            (bodyCenter inside.registry d.registry.scopes.length origin) new := by
  cases s with
  | object p cls label attributes =>
    cases hs
    rw [DiagramScript.execute] at he
    have he := Outcome.of_locate he
    obtain ⟨draft, exit, n, drafted, cursor, older, found⟩ := exists_of_declare_eq_ok he
    have standing := draft_standing _ _ _ _ drafted
    have none : draft.object.children = [] := congrArg Standing.children standing
    have written : d'.registry.arena[d.registry.arena.length]? = some
        { draft.object.stamp d.serial with
          children := [], ordinal := n, finalized := true, label := label } := by
      rw [found, ← none]
      rfl
    have there := draft_anchored located _ drafted
    rw [(h.create_seesAlike cls).position] at there
    exact ⟨_, anchors_of_drafted there standing (Nat.le_refl _) (declare_counts _ _ he).1 written,
      fun p body label attributes hs => nomatch hs⟩
  | group p body label attributes =>
    cases hs
    obtain ⟨origin, inside, ho, hr, hg⟩ := exists_of_execute_group_eq_ok he
    obtain ⟨full, placed, n, drafted, cursor, wraps⟩ := exists_wraps h.isOrdered hr hg
    have standing := groupDraft_standing _ _ _ _ _ drafted
    have there := groupDraft_anchored located _ drafted
    -- clauses of a group are read after its body, which has changed nothing that they can see
    rw [(h.body_seesAlike hr).position] at there
    refine ⟨_, anchors_of_drafted there standing (body_frame hr).count wraps.count wraps.found, ?_⟩
    rintro _ _ _ _ ⟨⟩
    have before : full.object.center = bodyCenter inside.registry d.registry.scopes.length origin :=
      (groupDraft_center _ drafted).trans (bodyCenter_create (inside.leave d) _ fun c hc =>
        (wraps.members c hc).2)
    have written : (placed.object.stamp inside.serial).center = placed.object.center := by
      rw [Object.stamp_eq]
    rw [before] at wraps
    exact ⟨origin, inside, ho, hr,
      carries_of_group h hr hg wraps (congrArg Standing.id standing) written⟩
  | _ => cases hs

/-- Below a circle: a group of a box whose upper right corner is put on a point, and which takes the
box there. -/
theorem Reachable.exists_anchored_group :
    let corner : Position :=
      .pair ⟨3, 16⟩ (.number ⟨3, 17⟩ ⟨3, 0⟩ none) (.number ⟨3, 19⟩ ⟨2, 0⟩ none)
    let attributes : List Attribute := [⟨⟨3, 7⟩, .anchored (.compass .ne) corner⟩]
    let s : Statement := .group ⟨3, 1⟩ [.object ⟨3, 3⟩ .box none []] none attributes
    let d : Drawing ℚ := (DiagramScript.run .standard Drawing.initial
      [.object ⟨1, 1⟩ .circle none [], .direction ⟨2, 1⟩ .down]).2
    let d' := (DiagramScript.execute .standard d s).2
    d.Reachable .standard ∧ DiagramScript.execute .standard d s = (.ok (), d') ∧
    (d'.registry.arena.map fun o => (o.id, o.center, o.anchorPoint (.compass .ne))).tail =
      [(1, ⟨21 / 8, 7 / 4⟩, ⟨3, 2⟩), (2, ⟨21 / 8, 7 / 4⟩, ⟨3, 2⟩)] ∧
    ∃ new, d.Anchors .standard d' ⟨.container, none, attributes⟩ (.compass .ne) corner new ∧
      ∃ origin inside, stackingStart (d.setting .standard) true = .ok origin ∧
        DiagramScript.run .standard (d.enter origin) [.object ⟨3, 3⟩ .box none []] =
          (.ok (), inside) ∧
        inside.Carries d' d.registry.arena.length
          (bodyCenter inside.registry d.registry.scopes.length origin) new := by
  intro corner attributes s d d'
  have reached : d.Reachable .standard := Drawing.Reachable.initial.run _
  have succeeds : (DiagramScript.execute .standard d s).1.toOption = some () := by decide +kernel
  have he : DiagramScript.execute .standard d s = (.ok (), d') :=
    Prod.ext (eq_ok_of_toOption succeeds) rfl
  obtain ⟨new, anchors, carries⟩ := reached.exists_anchored rfl rfl he
  exact ⟨reached, he, by decide +kernel, new, anchors, carries _ _ _ _ rfl⟩

end Exact

end Drawing

end DiagramScript
