import Mathlib.Data.List.Induction
import DiagramScript.Draft
import DiagramScript.Proofs.ReadingSteps

/-!
# What a clause can do

There are some twenty clauses, but what they can do to a draft is of few kinds.  Whatever is to be
shown of drafts is shown kind by kind.

* `Path.headings` — the angles that a path mentions.
* `Draft.usual`, `Draft.resize` — the four dimensions of an object in one.
* `Draft.Effect` — what a clause can do to a draft, and what it takes for that from the view.
* `Draft.applyClause_effect` — a clause does nothing else.
* `Draft.applyAll_steps`, `Draft.applyAll_induct` — what is true of a draft after some clauses, by
  induction on these.
-/

namespace DiagramScript

variable {K : Type}

/-! ## Paths -/

/-- The angles that a stretch mentions. -/
def Move.headings : Move K → List K
  | .heading degrees _ => [degrees]
  | _ => []

/-- The angles that a segment mentions. -/
def Segment.headings : Segment K → List K
  | .moves ms => ms.flatMap Move.headings
  | .target _ => []

/-- The angles that a path mentions. -/
def Path.headings (p : Path K) : List K := p.segments.flatMap Segment.headings

namespace Path

theorem mem_headings {p : Path K} {x : K} : x ∈ p.headings ↔
    (∃ s ∈ p.earlier, x ∈ s.headings) ∨ x ∈ p.current.headings := by
  simp [headings, segments]

theorem headings_beginSegment (p : Path K) : p.beginSegment.headings = p.headings := by
  simp [headings, segments, beginSegment, Segment.headings]

/-- A path that runs to a point mentions no other angles. -/
theorem headings_addTarget {p : Path K} {target : Point K} {x : K}
    (h : x ∈ (p.addTarget target).headings) : x ∈ p.headings := by
  have earlier : ∀ {q : Path K}, x ∈ ({ q with current := .target target } : Path K).headings →
      x ∈ q.headings := by
    intro q hx
    rcases mem_headings.1 hx with hx | hx
    · exact mem_headings.2 (.inl hx)
    · cases hx
  unfold addTarget at h
  split at h
  · exact earlier h
  · exact headings_beginSegment p ▸ earlier h

/-- A path with one more stretch mentions the angles of that too. -/
theorem headings_addMove {p : Path K} {m : Move K} {x : K} (h : x ∈ (p.addMove m).headings) :
    x ∈ p.headings ∨ x ∈ m.headings := by
  unfold addMove at h
  split at h
  · rename_i ms current
    rcases mem_headings.1 h with hx | hx
    · exact .inl (mem_headings.2 (.inl hx))
    · rw [Segment.headings, List.flatMap_cons] at hx
      rcases List.mem_append.1 hx with hx | hx
      · exact .inr hx
      · exact .inl (mem_headings.2 (.inr (current ▸ hx)))
  · rcases mem_headings.1 h with hx | hx
    · exact .inl (headings_beginSegment p ▸ mem_headings.2 (.inl hx))
    · exact .inr (by simpa [Segment.headings] using hx)

end Path

variable [Arith K]

namespace Draft

/-! ## Dimensions -/

/-- The usual value of a dimension, which percentages of it refer to. -/
def usual (d : Draft K) (v : View K) : Dimension → Except Failure K
  | .width => d.usualWidth v
  | .height => d.usualHeight v
  | .radius => d.usualRadius v
  | .diameter => (d.usualRadius v).map Arith.twice

/-- Gives the object a dimension. -/
def resize (d : Draft K) : Dimension → K → Draft K
  | .width => d.setWidth
  | .height => d.setHeight
  | .radius => d.setRadius
  | .diameter => d.setDiameter

theorem setDimension_eq (d : Draft K) (v : View K) (what : Dimension) (value : Scalar) :
    d.setDimension v what value = (do
      let reference ← d.usual v what
      let x ← v.size value reference
      .ok (d.resize what x)) := by
  cases what with
  | diameter =>
    unfold setDimension usual
    cases d.usualRadius v <;> rfl
  | _ => rfl

/-- A dimension changes the size of the object, and whether this is given, and nothing else. -/
theorem exists_resize_eq (d : Draft K) (what : Dimension) (x : K) :
    ∃ width height radius explicitWidth explicitHeight, d.resize what x = { d with
      object := { d.object with width := width, height := height, radius := radius }
      explicitWidth := explicitWidth, explicitHeight := explicitHeight } := by
  cases what with
  | width => unfold resize setWidth; split <;> exact ⟨_, _, _, _, _, rfl⟩
  | height => unfold resize setHeight; split <;> exact ⟨_, _, _, _, _, rfl⟩
  | radius => unfold resize setRadius; split <;> exact ⟨_, _, _, _, _, rfl⟩
  | diameter => exact ⟨_, _, _, _, _, rfl⟩

/-! ## Effects -/

/-- The angles that the path of a draft mentions, if it has one. -/
def headings (d : Draft K) : List K := (d.path.map Path.headings).getD []

end Draft

/-- Whether a clause changes how an object is drawn, but not the thickness of its outline. -/
def Clause.restyles : Clause → Bool
  | .arrow _ | .dotted _ | .dashed _ | .fill _ | .color _ => true
  | _ => false

/-- Whether a clause goes on with a path. -/
def Clause.leads : Clause → Bool
  | .start _ | .target _ | .next | .direction .. | .directionUntil .. | .heading ..
  | .untilEven _ | .distance _ => true
  | _ => false

namespace Draft

/-- What a clause can do to a draft. -/
inductive Effect (v : View K) (d : Draft K) : Clause → Draft K → Prop where
  /-- It adds a line of text. -/
  | text (line : TextLine) :
    Effect v d (.text line) { d with object := { d.object with text := d.object.text ++ [line] } }
  /-- It gives the object a dimension. -/
  | size {what : Dimension} {value : Scalar} {reference x : K}
    (usual : d.usual v what = .ok reference) (given : v.size value reference = .ok x) :
    Effect v d (.size what value) (d.resize what x)
  /-- It gives its outline a thickness. -/
  | thickness {value : Scalar} {reference x : K} (usual : v.builtin "thickness" = .ok reference)
    (given : v.size value reference = .ok x) :
    Effect v d (.thickness value) (d.modifyStyle fun s => { s with thickness := x })
  /-- It is a single word. -/
  | flag (what : Flag) : Effect v d (.flag what) (d.setFlag what)
  /-- It changes the style, but not the thickness. -/
  | style {c : Clause} {f : Style K → Style K} (restyles : c.restyles = true)
    (keeps : ∀ s, (f s).thickness = s.thickness) : Effect v d c (d.modifyStyle f)
  /-- It copies another object. -/
  | same {ref : Option ObjectRef} {o : Object K} (source : d.sourceOf v ref = .ok o) :
    Effect v d (.same ref) (d.copyFrom o)
  /-- It says where the object lies. -/
  | located {q : Position} {p : Point K} (place : v.position q = .ok p) :
    Effect v d (.located q) { d with located := some p }
  /-- It says where an anchor of it lies. -/
  | anchored {anchor : Anchor} {q : Position} {p : Point K} (place : v.position q = .ok p) :
    Effect v d (.anchored anchor q) { d with located := some p, anchor := some anchor }
  /-- It goes on with the path.  Angles come from expressions, and objects from positions. -/
  | path {c : Clause} {path : Option (Path K)} {start finish : Option Nat}
    {arcEnd : Option (Point K)} (leads : c.leads = true)
    (headings : ∀ x ∈ (path.map Path.headings).getD [],
      x ∈ d.headings ∨ ∃ e, v.scalar e = .ok x)
    (starts : start = d.fromObject ∨ ∃ q, v.wholeObject q = .ok start)
    (ends : finish = d.toObject ∨ ∃ q, v.wholeObject q = .ok finish) :
    Effect v d c { d with path := path, fromObject := start, toObject := finish, arcEnd := arcEnd }

/-- A path that mentions no new angles but those that come from expressions. -/
def Onward (v : View K) (p p' : Path K) : Prop :=
  ∀ x ∈ p'.headings, x ∈ p.headings ∨ ∃ e, v.scalar e = .ok x

section Onward

variable {v : View K} {p : Path K}

theorem Onward.addMove {m : Move K} (h : ∀ x ∈ m.headings, ∃ e, v.scalar e = .ok x) :
    Onward v p (p.addMove m) :=
  fun x hx => (Path.headings_addMove hx).imp_right (h x)

/-- Stretches straight on mention no angles. -/
theorem Onward.addStraight {m : Move K} (h : m.headings = []) : Onward v p (p.addMove m) :=
  .addMove fun x hx => by
    rw [h] at hx
    cases hx

theorem Onward.next {p' : Path K} (h : p.next? = some p') : Onward v p p' := by
  intro x hx
  unfold Path.next? at h
  split_ifs at h
  cases h
  exact .inl (p.headings_beginSegment ▸ hx)

end Onward

variable (v : View K) (d : Draft K)

/-- What a clause does that goes on with the path. -/
theorem onPath_onward {f : Path K → Except Failure (Path K)}
    (hf : ∀ p, Ensures (Onward v p) (f p)) :
    Ensures (fun d' => ∃ path, d' = { d with path := path } ∧
      ∀ x ∈ (path.map Path.headings).getD [], x ∈ d.headings ∨ ∃ e, v.scalar e = .ok x)
      (d.onPath f) := by
  unfold onPath
  split
  · exact .error _
  · rename_i p hp
    refine .bind (hf p) fun p' onward => .ok ⟨some p', rfl, ?_⟩
    unfold headings
    rw [hp]
    exact onward

theorem onPath_effect {c : Clause} (leads : c.leads = true) {f : Path K → Except Failure (Path K)}
    (hf : ∀ p, Ensures (Onward v p) (f p)) : Ensures (d.Effect v c) (d.onPath f) := by
  intro d' hd
  obtain ⟨path, rfl, headings⟩ := d.onPath_onward v hf d' hd
  exact .path leads headings (.inl rfl) (.inl rfl)

/-- A clause does nothing else. -/
theorem applyClause_effect (v : View K) (d : Draft K) (c : Clause) :
    Ensures (d.Effect v c) (d.applyClause v c) := by
  cases c with
  | text line => exact .ok (.text line)
  | arrow heads => exact .ok (.style rfl fun _ => rfl)
  | size what value =>
    intro d' hd
    rw [applyClause, setDimension_eq] at hd
    obtain ⟨reference, usual, hd⟩ := exists_of_bind_eq_ok hd
    obtain ⟨x, given, hd⟩ := exists_of_bind_eq_ok hd
    cases hd
    exact .size usual given
  | thickness value =>
    intro d' hd
    obtain ⟨reference, usual, hd⟩ := exists_of_bind_eq_ok hd
    obtain ⟨x, given, hd⟩ := exists_of_bind_eq_ok hd
    cases hd
    exact .thickness usual given
  | flag what => exact .ok (.flag what)
  | dotted gap => exact .andThen fun _ => .ok (.style rfl fun _ => rfl)
  | dashed gap => exact .andThen fun _ => .ok (.style rfl fun _ => rfl)
  | fill value => exact .andThen fun _ => .andThen fun _ => .ok (.style rfl fun _ => rfl)
  | color value => exact .andThen fun _ => .andThen fun _ => .ok (.style rfl fun _ => rfl)
  | same ref =>
    intro d' hd
    obtain ⟨o, source, hd⟩ := exists_of_bind_eq_ok hd
    cases hd
    exact .same source
  | located q =>
    intro d' hd
    obtain ⟨p, place, hd⟩ := exists_of_bind_eq_ok hd
    cases hd
    exact .located place
  | anchored anchor q =>
    intro d' hd
    obtain ⟨p, place, hd⟩ := exists_of_bind_eq_ok hd
    cases hd
    exact .anchored place
  | start q =>
    refine .andThen fun point => ?_
    have onward : ∀ p, Ensures (Onward v p) (.ok (p.setOrigin point) : Except Failure (Path K)) :=
      fun p => .ok fun x hx => .inl hx
    refine .bind (d.onPath_onward v onward) fun next hn d' hd => ?_
    obtain ⟨path, rfl, headings⟩ := hn
    obtain ⟨whole, known, hd⟩ := exists_of_bind_eq_ok hd
    cases hd
    exact .path rfl headings (.inr ⟨q, known⟩) (.inl rfl)
  | target q =>
    refine .andThen fun point => .ite ?_ ?_
    · intro d' hd
      obtain ⟨next, hn, hd⟩ := exists_of_bind_eq_ok hd
      obtain ⟨whole, known, hd⟩ := exists_of_bind_eq_ok hd
      cases hn
      cases hd
      exact .path rfl (fun x hx => .inl hx) (.inl rfl) (.inr ⟨q, known⟩)
    · have onward : ∀ p, Ensures (Onward v p) (.ok (p.addTarget point) : Except Failure (Path K)) :=
        fun p => .ok fun x hx => .inl (Path.headings_addTarget hx)
      refine .bind (d.onPath_onward v onward) fun next hn d' hd => ?_
      obtain ⟨path, rfl, headings⟩ := hn
      obtain ⟨whole, known, hd⟩ := exists_of_bind_eq_ok hd
      cases hd
      exact .path rfl headings (.inl rfl) (.inr ⟨q, known⟩)
  | next =>
    refine d.onPath_effect v rfl fun p => ?_
    split
    · exact .ok (.next ‹_›)
    · exact .error _
  | direction dir length =>
    cases length with
    | none => exact d.onPath_effect v rfl fun p => .ok (.addStraight rfl)
    | some e => exact d.onPath_effect v rfl fun p => .andThen fun _ => .ok (.addStraight rfl)
  | directionUntil dir q =>
    exact d.onPath_effect v rfl fun p => .andThen fun _ => .ok (.addStraight rfl)
  | heading angle length =>
    have mentioned : ∀ {degrees : K}, v.scalar angle = .ok degrees →
        ∀ x ∈ [degrees], ∃ e, v.scalar e = .ok x :=
      fun h x hx => ⟨angle, List.mem_singleton.1 hx ▸ h⟩
    cases length with
    | none =>
      refine d.onPath_effect v rfl fun p p' hp => ?_
      obtain ⟨degrees, known, hp⟩ := exists_of_bind_eq_ok hp
      cases hp
      exact .addMove (mentioned known)
    | some e =>
      refine d.onPath_effect v rfl fun p p' hp => ?_
      obtain ⟨degrees, known, hp⟩ := exists_of_bind_eq_ok hp
      obtain ⟨length, -, hp⟩ := exists_of_bind_eq_ok hp
      cases hp
      exact .addMove (mentioned known)
  | untilEven q =>
    exact d.onPath_effect v rfl fun p => .andThen fun _ => .ok (.addStraight rfl)
  | distance value =>
    exact d.onPath_effect v rfl fun p => .andThen fun _ => .ok (.addStraight rfl)

/-- What is true of a draft after some clauses, if each of them keeps it so. -/
theorem applyAll_steps {P : List Attribute → Draft K → Prop} (start : P [] d)
    (step : ∀ as a d, P as d → d.object.cls.accepts a.clause = true →
      Ensures (P (as ++ [a])) (d.applyClause v a.clause)) (as : List Attribute) :
    Ensures (P as) (Draft.applyAll v d as) := by
  induction as using List.reverseRecOn with
  | nil => exact .ok start
  | append_singleton as a ih =>
    rw [applyAll, List.foldlM_append]
    refine .bind ih fun next hn => ?_
    rw [List.foldlM_cons]
    refine .bind (.locating ?_ a.pos) fun last hl => .ok hl
    split_ifs with accepted
    · exact step as a next hn accepted
    · exact .error _

/-- The same, by what clauses can do. -/
theorem applyAll_induct {P : List Attribute → Draft K → Prop} (start : P [] d)
    (step : ∀ as a d d', P as d → d.object.cls.accepts a.clause = true →
      d.Effect v a.clause d' → P (as ++ [a]) d') (as : List Attribute) :
    Ensures (P as) (Draft.applyAll v d as) :=
  applyAll_steps v d start (fun as a next hn accepted d' hd =>
    step as a next d' hn accepted (applyClause_effect v next a.clause d' hd)) as

end Draft

end DiagramScript
