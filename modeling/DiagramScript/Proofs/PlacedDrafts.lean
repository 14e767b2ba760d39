import DiagramScript.Placement
import DiagramScript.Proofs.ReadingSteps
import DiagramScript.Proofs.Standing

/-!
# What placing does to a draft

A draft is placed after all its clauses.  This draws its object — in a size, at a place, along some
points, filled with some paint — and leaves everything else as the clauses have made it.

* `Draft.along`, `Draft.placePath_eq` — what is done with the points of a path.
* `Draft.Redraws` — a draft whose object is drawn differently at most.
* `Draft.placeFramed_recenters`, `Draft.place_redraws` — placing a frame, and placing anything.
-/

namespace DiagramScript

variable {K : Type} [Arith K]

namespace Draft

variable (d : Draft K)

/-! ## Paths -/

/-- A path with its points, moved to where it is said to be. -/
def along (points : List (Point K)) : Draft K :=
  let o := ({ d.object with points := points } : Object K).fitPath
  match d.located with
  | none => { d with object := o }
  | some p =>
    let a := o.anchorPoint (d.anchor.getD .center)
    { d with object := o.translate (p.x - a.x) (p.y - a.y) }

theorem placePath_eq (s : Setting K) : d.placePath s =
    (match d.path with
    | none => .error .noPath
    | some path => do
      let start ← stackingStart s false
      let built ← d.pathPoints path start s.serial
      let points ← if d.chop then d.chopEnds s.view.registry built.1 else .ok built.1
      .ok (d.along points, built.2)) := by
  obtain ⟨o, path, located⟩ := d
  cases path with
  | none => rfl
  | some p => cases located <;> rfl

/-- A path gets a place and its points, which may be moved. -/
theorem exists_along_eq (points : List (Point K)) :
    ∃ center width height moved, d.along points = { d with object := { d.object with
        center := center, width := width, height := height, points := moved } } ∧
      (moved = points ∨ d.located ≠ none ∧ ∃ dx dy, moved = points.map (·.shift dx dy)) := by
  have fitted : ∀ o : Object K, ∃ center width height,
      o.fitPath = { o with center := center, width := width, height := height } := fun o => by
    unfold Object.fitPath
    split <;> exact ⟨_, _, _, rfl⟩
  obtain ⟨center, width, height, fits⟩ := fitted { d.object with points := points }
  unfold along
  rw [fits]
  cases d.located with
  | none => exact ⟨center, width, height, points, rfl, .inl rfl⟩
  | some p => exact ⟨_, width, height, _, rfl, .inr ⟨Option.some_ne_none p, _, _, rfl⟩⟩

/-! ## All that changes -/

omit [Arith K] in
/-- Whether a draft is another one with its object drawn differently: in its size, at its place,
along its points, and with the paint that fills it. -/
def Redraws (d d' : Draft K) : Prop :=
  ∃ center width height radius points paint, d' = { d with object := { d.object with
    center := center, width := width, height := height, radius := radius, points := points
    style := { d.object.style with fill := paint } } }

variable {d} {d' d'' : Draft K} (s : Setting K)

namespace Redraws

omit [Arith K]

theorem refl (d : Draft K) : d.Redraws d := ⟨_, _, _, _, _, _, rfl⟩

theorem trans (h : d.Redraws d') (h' : d'.Redraws d'') : d.Redraws d'' := by
  obtain ⟨_, _, _, _, _, _, rfl⟩ := h
  obtain ⟨_, _, _, _, _, _, rfl⟩ := h'
  exact ⟨_, _, _, _, _, _, rfl⟩

theorem standing (h : d.Redraws d') : d'.object.standing = d.object.standing := by
  obtain ⟨_, _, _, _, _, _, rfl⟩ := h
  rfl

theorem cls (h : d.Redraws d') : d'.object.cls = d.object.cls := congrArg Standing.cls h.standing

theorem direction (h : d.Redraws d') : d'.object.direction = d.object.direction := by
  obtain ⟨_, _, _, _, _, _, rfl⟩ := h
  rfl

theorem text (h : d.Redraws d') : d'.object.text = d.object.text := by
  obtain ⟨_, _, _, _, _, _, rfl⟩ := h
  rfl

theorem exists_style (h : d.Redraws d') :
    ∃ paint, d'.object.style = { d.object.style with fill := paint } := by
  obtain ⟨_, _, _, _, _, paint, rfl⟩ := h
  exact ⟨paint, rfl⟩

theorem located (h : d.Redraws d') : d'.located = d.located := by
  obtain ⟨_, _, _, _, _, _, rfl⟩ := h
  rfl

theorem anchor (h : d.Redraws d') : d'.anchor = d.anchor := by
  obtain ⟨_, _, _, _, _, _, rfl⟩ := h
  rfl

end Redraws

variable (d)

theorem sizeToText_redraws : Ensures d.Redraws (d.sizeToText s) := by
  refine .ite (.ok (.refl d)) (.andThen fun _ => .andThen fun _ => .andThen fun _ => ?_)
  have takes : ∀ size : K × K, d.Redraws (d.takeSize size.1 size.2) :=
    fun _ => ⟨_, _, _, _, _, _, rfl⟩
  exact .ite (.andThen fun size => .ok (takes size)) (.ok (takes _))

omit [Arith K] in
theorem fillDot_redraws : d.Redraws d.fillDot := by
  unfold fillDot
  split_ifs
  · exact ⟨_, _, _, _, _, _, rfl⟩
  · exact .refl d

/-- Placing a frame moves it and nothing else. -/
theorem placeFramed_recenters :
    Ensures (fun d' => ∃ center, d' = { d with object := { d.object with center := center } })
      (d.placeFramed s) := by
  unfold placeFramed
  split
  · exact .ok ⟨_, rfl⟩
  · exact .andThen fun _ => .ok ⟨_, rfl⟩

theorem placeFramed_redraws : Ensures d.Redraws (d.placeFramed s) := fun d' h => by
  obtain ⟨center, rfl⟩ := d.placeFramed_recenters s d' h
  exact ⟨_, _, _, _, _, _, rfl⟩

theorem placePath_redraws : Ensures (fun p => d.Redraws p.1) (d.placePath s) := by
  have along : ∀ points, d.Redraws (d.along points) := fun points => by
    obtain ⟨_, _, _, _, same, -⟩ := d.exists_along_eq points
    rw [same]
    exact ⟨_, _, _, _, _, _, rfl⟩
  rw [placePath_eq]
  split
  · exact .error _
  · refine .andThen fun _ => .andThen fun _ => .ite (.andThen fun _ => ?_) (.andThen fun _ => ?_)
    · exact .ok (along _)
    · exact .ok (along _)

/-- Placing an object draws it, and leaves everything else as it is. -/
theorem place_redraws : Ensures (fun p => d.Redraws p.1) (d.place s) := by
  refine .ite (d.placePath_redraws s) (.bind (d.sizeToText_redraws s) fun sized hs => ?_)
  exact .bind (sized.fillDot.placeFramed_redraws s) fun placed hp =>
    .ok (hs.trans (sized.fillDot_redraws.trans hp))

end Draft

end DiagramScript
