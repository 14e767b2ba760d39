import DiagramScript.Proofs.GuestObjects

/-!
# What clauses leave alone

A draft gets its place after all clauses have been applied.  Until then its center stays where it
was, and so does everything else that no clause speaks of.

* `Clause.resizes`, `Clause.starts` — clauses for the size of an object and for the start of a path.
* `Object.extent`, `Clause.resizesAlong` — the same for the width and for the height alone.
* `Draft.Spares` — what some clauses leave alone.
* `Draft.applyAll_spares` — the clauses of a declaration, one after the other.
-/

namespace DiagramScript

variable {K : Type}

/-- Whether a clause gives the object a width or a height, or copies them. -/
def Clause.resizes : Clause → Bool
  | .size .width _ => true
  | .size .height _ => true
  | .same _ => true
  | _ => false

/-- Whether a clause gives a group its extent along an axis, or copies it. -/
def Clause.resizesAlong : Clause → Axis → Bool
  | .size .width _, .x => true
  | .size .height _, .y => true
  | .same _, _ => true
  | _, _ => false

/-- A clause that changes one of the extents changes the size. -/
theorem Clause.resizesAlong_eq_false {c : Clause} (h : c.resizes = false) (axis : Axis) :
    c.resizesAlong axis = false := by
  cases c with
  | size what value => cases what <;> cases axis <;> first | rfl | cases h
  | same source => cases h
  | _ => rfl

/-- How far an object extends along an axis: its width, or its height. -/
def Object.extent (o : Object K) : Axis → K
  | .x => o.width
  | .y => o.height

/-- Whether a clause says where the path of the object starts. -/
def Clause.starts : Clause → Bool
  | .start _ => true
  | _ => false

/-! ## Paths -/

namespace Path

theorem origin_addTarget (p : Path K) (target : Point K) :
    (p.addTarget target).origin = p.origin := by
  unfold addTarget
  split <;> rfl

theorem origin_next? {p p' : Path K} (h : p.next? = some p') : p'.origin = p.origin := by
  unfold next? at h
  split_ifs at h
  cases h
  rfl

theorem origin_addMove (p : Path K) (m : Move K) : (p.addMove m).origin = p.origin := by
  unfold addMove
  split <;> rfl

theorem origin_move (p : Path K) (dir : Direction) (distance : Option K) :
    (p.move dir distance).origin = p.origin := p.origin_addMove _

theorem origin_heading (p : Path K) (degrees : K) (distance : Option K) :
    (p.heading degrees distance).origin = p.origin := p.origin_addMove _

theorem origin_untilEven (p : Path K) (dir : Option Direction) (target : Point K) :
    (p.untilEven dir target).origin = p.origin := origin_addMove _ _

end Path

/-! ## Drafts -/

namespace Draft

/-- What some clauses leave alone.  They may say where the object lies, how large it is, and where
its path starts. -/
structure Spares (locates : Bool) (resizes : Axis → Bool) (starts : Bool) (d d' : Draft K) :
    Prop where
  /-- The class stays. -/
  cls : d'.object.cls = d.object.cls := by rfl
  /-- So does the direction. -/
  direction : d'.object.direction = d.object.direction := by rfl
  /-- Nothing is placed yet. -/
  center : d'.object.center = d.object.center := by rfl
  /-- Groups have no text. -/
  text : d.object.cls = .container → d'.object.text = d.object.text := by exact fun _ => rfl
  /-- A place is given by clauses only. -/
  located : locates = false → d'.located = d.located := by exact fun _ => rfl
  /-- So is either extent of a group. -/
  frame : ∀ axis, resizes axis = false → d.object.cls = .container →
    d'.object.extent axis = d.object.extent axis := by
      exact fun axis _ _ => by cases axis <;> rfl
  /-- So is the start of a path. -/
  origin : starts = false → d'.fromObject = d.fromObject ∧
    d'.path.map Path.origin = d.path.map Path.origin := by exact fun _ => ⟨rfl, rfl⟩

namespace Spares

variable {l l' s s' : Bool} {r r' : Axis → Bool} {d d' d'' : Draft K}

theorem refl (l : Bool) (r : Axis → Bool) (s : Bool) (d : Draft K) : Spares l r s d d := {}

theorem trans (h : Spares l r s d d') (h' : Spares l' r' s' d' d'') :
    Spares (l || l') (fun axis => r axis || r' axis) (s || s') d d'' where
  cls := h'.cls.trans h.cls
  direction := h'.direction.trans h.direction
  center := h'.center.trans h.center
  text hc := (h'.text (h.cls.trans hc)).trans (h.text hc)
  located hl := by
    obtain ⟨hl, hl'⟩ := Bool.or_eq_false_iff.1 hl
    exact (h'.located hl').trans (h.located hl)
  frame axis hr hc := by
    obtain ⟨hr, hr'⟩ := Bool.or_eq_false_iff.1 hr
    exact (h'.frame axis hr' (h.cls.trans hc)).trans (h.frame axis hr hc)
  origin hs := by
    obtain ⟨hs, hs'⟩ := Bool.or_eq_false_iff.1 hs
    obtain ⟨start, origin⟩ := h.origin hs
    obtain ⟨start', origin'⟩ := h'.origin hs'
    exact ⟨start'.trans start, origin'.trans origin⟩

end Spares

variable [Arith K] (d : Draft K) (v : View K)

omit [Arith K] in
/-- Clauses that go on with the path. -/
theorem onPath_spares (l : Bool) (r : Axis → Bool) (s : Bool) {f : Path K → Except Failure (Path K)}
    (hf : s = false → ∀ p, Ensures (fun p' => p'.origin = p.origin) (f p)) :
    Ensures (Spares l r s d) (d.onPath f) := by
  unfold onPath
  split
  · exact .error _
  · rename_i p hp
    intro d' hd
    obtain ⟨p', hp', hd⟩ := exists_of_bind_eq_ok hd
    cases hd
    refine { origin := fun hs => ⟨rfl, ?_⟩ }
    rw [hp, Option.map_some, Option.map_some, hf hs p p' hp']

theorem setFlag_spares (l : Bool) (r : Axis → Bool) (s : Bool) (what : Flag) :
    Spares l r s d (d.setFlag what) := by
  cases what with
  | close =>
    refine { origin := fun _ => ⟨rfl, ?_⟩ }
    change (d.path.map Path.close).map Path.origin = _
    rw [Option.map_map]
    rfl
  | _ => exact {}

/-- Changing the size of an object; no radius changes that of a group. -/
theorem setDimension_spares (l s : Bool) (what : Dimension) (value : Scalar)
    (hc : d.object.cls = .container → what ≠ .diameter) :
    Ensures (Spares l (Clause.size what value).resizesAlong s d) (d.setDimension v what value) := by
  -- no group keeps its aspect
  have lone : d.object.cls = .container → ¬d.object.cls.keepsAspect = true := by
    intro container
    rw [container]
    decide
  cases what with
  | width =>
    refine .andThen fun _ => .andThen fun x => .ok ?_
    unfold setWidth
    split_ifs with aspect
    · exact { frame := fun _ _ container => absurd aspect (lone container) }
    · refine { frame := fun axis other _ => ?_ }
      cases axis with
      | x => cases other
      | y => rfl
  | height =>
    refine .andThen fun _ => .andThen fun x => .ok ?_
    unfold setHeight
    split_ifs with aspect
    · exact { frame := fun _ _ container => absurd aspect (lone container) }
    · refine { frame := fun axis other _ => ?_ }
      cases axis with
      | x => rfl
      | y => cases other
  | radius =>
    refine .andThen fun _ => .andThen fun x => .ok ?_
    unfold setRadius
    split_ifs with aspect
    · exact { frame := fun _ _ container => absurd aspect (lone container) }
    · exact {}
  | diameter =>
    exact .andThen fun _ => .andThen fun x => .ok { frame := fun _ _ hd => absurd rfl (hc hd) }

/-- What a clause leaves alone that the class takes. -/
theorem applyClause_spares {c : Clause} (hc : d.object.cls.accepts c = true) :
    Ensures (Spares c.locates c.resizesAlong c.starts d) (d.applyClause v c) := by
  cases c with
  | text line =>
    refine .ok { text := fun container => ?_ }
    rw [container] at hc
    cases hc
  | arrow heads => exact .ok {}
  | size what value =>
    refine d.setDimension_spares v _ _ what value fun container => ?_
    rintro rfl
    rw [container] at hc
    cases hc
  | thickness value => exact .andThen fun _ => .andThen fun _ => .ok {}
  | flag what => exact .ok (d.setFlag_spares _ _ _ what)
  | dotted gap => exact .andThen fun _ => .ok {}
  | dashed gap => exact .andThen fun _ => .ok {}
  | fill value => exact .andThen fun _ => .andThen fun _ => .ok {}
  | color value => exact .andThen fun _ => .andThen fun _ => .ok {}
  | same source =>
    exact .andThen fun _ => .ok { frame := fun axis other => by cases axis <;> cases other }
  | located q => exact .andThen fun _ => .ok { located := fun h => (nomatch h) }
  | anchored anchor q => exact .andThen fun _ => .ok { located := fun h => (nomatch h) }
  | start q =>
    refine .andThen fun _ =>
      .bind (d.onPath_spares false (fun _ => false) true fun h => (nomatch h)) ?_
    intro next hn
    refine .andThen fun _ => .ok { hn with origin := fun h => (nomatch h) }
  | target q =>
    refine .andThen fun point => .ite ?_ ?_
    · exact .bind (P := Spares false (fun _ => false) false d) (.ok {}) fun next hn =>
        .andThen fun _ => .ok { hn with }
    · have onward := d.onPath_spares false (fun _ => false) false
        fun _ p => .ok (ε := Failure) (p.origin_addTarget point)
      exact .bind onward fun next hn => .andThen fun _ => .ok { hn with }
  | next =>
    refine d.onPath_spares _ _ _ fun _ p => ?_
    split
    · exact .ok (Path.origin_next? ‹_›)
    · exact .error _
  | direction dir length =>
    cases length with
    | none => exact d.onPath_spares _ _ _ fun _ p => .ok (p.origin_move ..)
    | some e => exact d.onPath_spares _ _ _ fun _ p => .andThen fun _ => .ok (p.origin_move ..)
  | directionUntil dir q =>
    exact d.onPath_spares _ _ _ fun _ p => .andThen fun _ => .ok (p.origin_untilEven ..)
  | heading angle length =>
    cases length with
    | none => exact d.onPath_spares _ _ _ fun _ p => .andThen fun _ => .ok (p.origin_heading ..)
    | some e =>
      exact d.onPath_spares _ _ _ fun _ p => .andThen fun _ => .andThen fun _ =>
        .ok (p.origin_heading ..)
  | untilEven q =>
    exact d.onPath_spares _ _ _ fun _ p => .andThen fun _ => .ok (p.origin_untilEven ..)
  | distance value =>
    exact d.onPath_spares _ _ _ fun _ p => .andThen fun _ => .ok (p.origin_move ..)

/-- What the clauses of a declaration leave alone. -/
theorem applyAll_spares (as : List Attribute) :
    Ensures (Spares (as.any (·.clause.locates)) (fun axis => as.any (·.clause.resizesAlong axis))
      (as.any (·.clause.starts)) d) (Draft.applyAll v d as) := by
  induction as generalizing d with
  | nil => exact .ok (.refl ..)
  | cons a as ih =>
    rw [applyAll, List.foldlM_cons]
    have first : Ensures (Spares a.clause.locates a.clause.resizesAlong a.clause.starts d)
        (d.apply v a) := by
      refine .locating ?_ a.pos
      split_ifs with accepted
      · exact d.applyClause_spares v accepted
      · exact .error _
    exact .bind first fun next hn x hx => hn.trans (ih next x hx)

end Draft

end DiagramScript
