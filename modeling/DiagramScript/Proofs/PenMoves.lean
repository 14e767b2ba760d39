import DiagramScript.Proofs.EscapingFaults

/-!
# Stretches as moves of a pen

The stretches of a segment are added up to a vector from the point where they start, and one that
goes until it is level with a point replaces a component of that vector.  With exact numbers this
is what a pen does that is moved along one stretch after the other, wherever it has come to.

* `Path.penStep`, `Path.penRun` — where a pen goes.
* `Path.exists_step_eq` — one stretch: the pen stays where the vector leads.
* `Path.resolveMoves_eq_penRun` — all stretches of a segment.
-/

namespace DiagramScript

variable {K : Type}

namespace Path

section Arith

variable [Arith K]

/-- The point that some stretches lead to from `start`. -/
def Reach.point (start : Point K) (r : Reach K) : Point K := start.shift r.dx r.dy

/-- What some stretches lead to if a vector is added. -/
def Reach.add (r : Reach K) (v : Point K) (exit : Option Direction) : Reach K :=
  ⟨r.dx + v.x, r.dy + v.y, exit⟩

/-- Where a pen goes along a stretch. -/
def penStep (p : Path K) (pen : Point K) : Move K → Except Fault (Point K)
  | .heading degrees distance => do
    let v ← headingVector degrees
    .ok (pen.plus (v.scale (distance.getD (p.unit .right))))
  | .untilEven d target => .ok (if d.horizontal then { pen with x := target.x }
      else { pen with y := target.y })
  | .straight d distance =>
    .ok (pen.plus ((d.vector : Point K).scale (distance.getD (p.unit d))))

/-- Where a pen goes along some stretches. -/
def penRun (p : Path K) (pen : Point K) (ms : List (Move K)) : Except Fault (Point K) :=
  ms.foldlM p.penStep pen

end Arith

variable [ExactNumber K] (p : Path K) (start : Point K)

/-- A vector that is added is one that the pen is moved by. -/
theorem Reach.point_add (r : Reach K) (v : Point K) (exit : Option Direction) :
    (r.add v exit).point start = (r.point start).plus v := by
  simp only [point, add, Point.plus, Point.shift, add_assoc]

/-- Along one more stretch, the pen goes where the sum of the stretches leads. -/
theorem exists_step_eq (r : Reach K) (m : Move K) :
    ∃ r', p.step start r m = .ok r' ∧ p.penStep (r.point start) m = .ok (r'.point start) := by
  cases m with
  | heading degrees distance =>
    obtain ⟨v, hv⟩ := exists_headingVector_eq_ok (x := degrees) rfl
    refine ⟨r.add (v.scale (distance.getD (p.unit .right))) none, by rw [step, hv]; rfl, ?_⟩
    rw [penStep, hv, ok_bind, Reach.point_add]
  | straight d distance =>
    refine ⟨r.add ((d.vector : Point K).scale (distance.getD (p.unit d))) (some d), rfl, ?_⟩
    rw [penStep, Reach.point_add]
  | untilEven d target =>
    refine ⟨_, rfl, ?_⟩
    -- the component that is replaced leads from the start to the point, whatever it was before
    have across : start.x + (target.x - start.x) = target.x := add_sub_cancel ..
    have along : start.y + (target.y - start.y) = target.y := add_sub_cancel ..
    rw [penStep]
    split
    · simp only [Reach.point, Point.shift, across]
    · simp only [Reach.point, Point.shift, along]

/-- The same for all stretches that follow. -/
theorem exists_foldlM_step_eq (r : Reach K) (ms : List (Move K)) :
    ∃ r', ms.foldlM (p.step start) r = .ok r' ∧
      p.penRun (r.point start) ms = .ok (r'.point start) := by
  induction ms generalizing r with
  | nil => exact ⟨r, rfl, rfl⟩
  | cons m ms ih =>
    obtain ⟨next, hn, moved⟩ := p.exists_step_eq start r m
    obtain ⟨last, hl, run⟩ := ih next
    rw [List.foldlM_cons, hn, penRun, List.foldlM_cons, moved]
    exact ⟨last, hl, run⟩

/-- The stretches of a segment lead where a pen goes along them. -/
theorem resolveMoves_eq_penRun (exit : Option Direction) (ms : List (Move K)) :
    ∃ q exit', p.penRun start ms = .ok q ∧ p.resolveMoves start exit ms = .ok (q, exit') := by
  have rests : (⟨Arith.num 0, Arith.num 0, exit⟩ : Reach K).point start = start := by
    simp [Reach.point, Point.shift, Arith.num_eq]
  obtain ⟨r, sum, run⟩ := p.exists_foldlM_step_eq start ⟨Arith.num 0, Arith.num 0, exit⟩ ms
  rw [rests] at run
  refine ⟨r.point start, r.exit, run, ?_⟩
  rw [resolveMoves, sum, ok_bind]
  rfl

/-- A pen that is already beside a point goes on until it is level with it both ways. -/
example : (({ direction := .right, unit := fun _ => 1 } : Path ℚ).resolveMoves ⟨1, 1⟩ none
    [.straight .right (some 2), .untilEven .up ⟨5, 7⟩, .straight .left none,
      .untilEven .right ⟨5, 7⟩]).toOption = some (⟨5, 7⟩, some .right) := by
  decide +kernel

end Path

end DiagramScript
