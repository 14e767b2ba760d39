import DiagramScript.Proofs.EscapingFaults

/-!
# The vertices of a path

A path is told clause by clause, and its segments are kept as records that have room for a target
and for stretches at once.  Whatever the clauses are, no record ever holds both, and none but the
last is empty; so the points of a path are its origin and one vertex for each record, and the path
ends in the direction of the last stretch of the last of them.

* `PathClause`, `Path.obeyAll?` — what a path is told, and what it makes of that.
* `PathRecord`, `PathRecord.Follows` — the records of a path, and what is true of them after some
  clauses; `Path.record_obeyAll?` says that a path and its records make the same of all clauses.
* `Path.Visits`, `Path.Runs`, `Path.Draws` — the vertices that records lead to, and the points and
  the direction that a path has by them.
* `Path.build_clauses` — a path has these points, unless an angle is not finite;
  `Path.build_infinite_heading` — a path with an infinite angle has none.
-/

namespace DiagramScript

variable {K : Type}

/-! ## Clauses -/

/-- What a path is told, with all numbers and points calculated. -/
inductive PathClause (K : Type) where
  /-- Where it starts. -/
  | origin (p : Point K)
  /-- A point that it runs to. -/
  | target (p : Point K)
  /-- That the last segment ends. -/
  | next
  /-- A stretch in a direction. -/
  | move (d : Direction) (distance : Option K)
  /-- A stretch in the direction of travel. -/
  | extend (distance : K)
  /-- A stretch in a direction given by an angle. -/
  | heading (degrees : K) (distance : Option K)
  /-- A stretch until level with a point. -/
  | untilEven (d : Option Direction) (p : Point K)
  /-- That it returns to its start. -/
  | close

namespace PathClause

/-- Where the path is said to start. -/
def origin? : PathClause K → Option (Point K)
  | origin p => some p
  | _ => none

/-- The new direction of travel. -/
def direction? : PathClause K → Option Direction
  | move d _ => some d
  | untilEven d _ => d
  | _ => none

/-- Whether the path is said to return to its start. -/
def closes : PathClause K → Bool
  | close => true
  | _ => false

/-- The angles that are mentioned. -/
def headings : PathClause K → List K
  | heading degrees _ => [degrees]
  | _ => []

end PathClause

/-- What is true at first, and stays true with every step, is true after all of them. -/
theorem foldlM_induct {σ α : Type} {f : σ → α → Option σ} {P : List α → σ → Prop} {s t : σ}
    (start : P [] s) (step : ∀ {as a t t'}, P as t → f t a = some t' → P (as ++ [a]) t')
    {as : List α} (h : as.foldlM f s = some t) : P as t := by
  induction as using List.reverseRecOn generalizing t with
  | nil =>
    cases h
    exact start
  | append_singleton as a ih =>
    rw [List.foldlM_append] at h
    obtain ⟨u, hu, h⟩ := Option.bind_eq_some_iff.1 h
    rw [List.foldlM_cons] at h
    obtain ⟨v, hv, h⟩ := Option.bind_eq_some_iff.1 h
    cases h
    exact step (ih hu) hv

namespace Path

/-- The path that nothing is said about. -/
def fresh (direction : Direction) (unit : Direction → K) : Path K :=
  { direction := direction, unit := unit }

/-- The path that a clause makes, unless it ends a segment that is empty. -/
def obey? (p : Path K) : PathClause K → Option (Path K)
  | .origin q => some (p.setOrigin q)
  | .target q => some (p.addTarget q)
  | .next => p.next?
  | .move d distance => some (p.move d distance)
  | .extend distance => some (p.extend distance)
  | .heading degrees distance => some (p.heading degrees distance)
  | .untilEven d q => some (p.untilEven d q)
  | .close => some p.close

/-- The path that some clauses make one after the other. -/
def obeyAll? (p : Path K) (clauses : List (PathClause K)) : Option (Path K) :=
  clauses.foldlM obey? p

/-- A clause mentions the new angles of a path. -/
theorem headings_obey? {p p' : Path K} {clause : PathClause K} (h : p.obey? clause = some p')
    {x : K} (hx : x ∈ p'.headings) : x ∈ p.headings ∨ x ∈ clause.headings := by
  cases clause with
  | next =>
    simp only [obey?, next?] at h
    split_ifs at h
    cases h
    exact .inl (p.headings_beginSegment ▸ hx)
  | origin q | close =>
    cases h
    exact .inl hx
  | target q =>
    cases h
    exact .inl (headings_addTarget hx)
  | move d distance | extend distance | heading degrees distance | untilEven d q =>
    cases h
    exact headings_addMove hx

/-- A path mentions no angles but those of its clauses. -/
theorem headings_obeyAll? {direction : Direction} {unit : Direction → K}
    {clauses : List (PathClause K)} {p : Path K}
    (h : (fresh direction unit).obeyAll? clauses = some p) :
    ∀ x ∈ p.headings, x ∈ clauses.flatMap PathClause.headings := by
  have start : (fresh direction unit).headings = [] := rfl
  refine foldlM_induct (P := fun cs p => ∀ x ∈ p.headings, x ∈ cs.flatMap PathClause.headings)
    (fun x hx => by rw [start] at hx; cases hx) (fun ih next x hx => ?_) h
  rw [List.flatMap_append, List.mem_append, List.flatMap_singleton]
  exact (headings_obey? next hx).imp_left (ih x)

end Path

/-! ## Records -/

/-- A segment as it is kept: a target that may be missing, and stretches in their order. -/
structure SegmentRecord (K : Type) where
  /-- The point that the path runs to. -/
  target : Option (Point K) := none
  /-- The stretches that it runs along. -/
  moves : List (Move K) := []

/-- Whether nothing is kept. -/
def SegmentRecord.isEmpty (s : SegmentRecord K) : Bool := s.target.isNone && s.moves.isEmpty

/-- A path as it is kept. -/
structure PathRecord (K : Type) where
  /-- The direction of travel. -/
  direction : Direction
  /-- The usual length of a stretch. -/
  unit : Direction → K
  /-- Where the path starts, if that is said. -/
  origin : Option (Point K) := none
  /-- The segments before the last. -/
  earlier : List (SegmentRecord K) := []
  /-- The last segment. -/
  current : SegmentRecord K := {}
  /-- Whether the path returns to its start. -/
  closed : Bool := false

namespace PathRecord

variable (r : PathRecord K)

/-- All segments. -/
def segments : List (SegmentRecord K) := r.earlier ++ [r.current]

/-- The segments that are not empty. -/
def filled : List (SegmentRecord K) := r.segments.filter fun s => !s.isEmpty

/-- Begins an empty segment. -/
def beginSegment : PathRecord K := { r with earlier := r.earlier ++ [r.current], current := {} }

/-- Keeps a target in the last segment, or in a new one if that is not empty. -/
def addTarget (q : Point K) : PathRecord K :=
  let r := if r.current.isEmpty then r else r.beginSegment
  { r with current := { r.current with target := some q } }

/-- Begins a segment unless the last is empty. -/
def next? : Option (PathRecord K) := if r.current.isEmpty then none else some r.beginSegment

/-- Keeps a stretch in the last segment, or in a new one if that has a target. -/
def addMove (m : Move K) : PathRecord K :=
  let r := if r.current.target.isSome then r.beginSegment else r
  { r with current := { r.current with moves := r.current.moves ++ [m] } }

/-- Keeps a stretch in a direction, which becomes the direction of travel. -/
def move (d : Direction) (distance : Option K) : PathRecord K :=
  { r.addMove (.straight d distance) with direction := d }

/-- What a clause makes of the records, unless it ends a segment that is empty. -/
def obey? : PathClause K → Option (PathRecord K)
  | .origin q => some { r with origin := some q }
  | .target q => some (r.addTarget q)
  | .next => r.next?
  | .move d distance => some (r.move d distance)
  | .extend distance => some (r.move r.direction (some distance))
  | .heading degrees distance => some (r.addMove (.heading degrees distance))
  | .untilEven d q =>
    let r := { r with direction := d.getD r.direction }
    some (r.addMove (.untilEven r.direction q))
  | .close => some { r with closed := true }

/-- What some clauses make of the records one after the other. -/
def obeyAll? (clauses : List (PathClause K)) : Option (PathRecord K) := clauses.foldlM obey? r

/-! ### What is kept -/

variable {r} in
/-- A segment is ended only if it is not empty. -/
theorem next?_eq_some {r' : PathRecord K} (h : r.next? = some r') :
    r.current.isEmpty = false ∧ r.beginSegment = r' := by
  unfold next? at h
  split_ifs at h with empty
  exact ⟨Bool.eq_false_iff.2 empty, Option.some.inj h⟩

/-- Whether no segment holds a target and stretches, and only the last can be empty. -/
structure IsTidy : Prop where
  /-- Every segment holds one or the other. -/
  apart : ∀ s ∈ r.segments, s.target = none ∨ s.moves = []
  /-- No segment is empty but the last. -/
  filled : ∀ s ∈ r.earlier, s.isEmpty = false

variable {r}

theorem IsTidy.beginSegment (h : r.IsTidy) (new : r.current.isEmpty = false) :
    r.beginSegment.IsTidy where
  apart s hs := by
    rcases List.mem_append.1 hs with hs | hs
    · exact h.apart s hs
    · cases List.mem_singleton.1 hs
      exact .inl rfl
  filled s hs := by
    rcases List.mem_append.1 hs with hs | hs
    · exact h.filled s hs
    · cases List.mem_singleton.1 hs
      exact new

/-- Only the last segment is new. -/
theorem IsTidy.setCurrent (h : r.IsTidy) {s : SegmentRecord K}
    (apart : s.target = none ∨ s.moves = []) : { r with current := s : PathRecord K }.IsTidy where
  apart t ht := by
    rcases List.mem_append.1 ht with ht | ht
    · exact h.apart t (List.mem_append_left _ ht)
    · cases List.mem_singleton.1 ht
      exact apart
  filled := h.filled

theorem IsTidy.addTarget (h : r.IsTidy) (q : Point K) : (r.addTarget q).IsTidy := by
  unfold PathRecord.addTarget
  split
  · rename_i empty
    rw [SegmentRecord.isEmpty, Bool.and_eq_true] at empty
    exact h.setCurrent (.inr (List.isEmpty_iff.1 empty.2))
  · rename_i new
    exact (h.beginSegment (Bool.eq_false_iff.2 new)).setCurrent (.inr rfl)

theorem IsTidy.addMove (h : r.IsTidy) (m : Move K) : (r.addMove m).IsTidy := by
  unfold PathRecord.addMove
  split
  · rename_i new
    have filled : r.current.isEmpty = false := by
      rw [SegmentRecord.isEmpty, Option.isNone_eq_false_iff.2 new, Bool.false_and]
    exact (h.beginSegment filled).setCurrent (.inl rfl)
  · rename_i free
    exact h.setCurrent (.inl (Option.not_isSome_iff_eq_none.1 free))

theorem IsTidy.move (h : r.IsTidy) (d : Direction) (distance : Option K) :
    (r.move d distance).IsTidy :=
  have added := h.addMove (.straight d distance)
  ⟨added.apart, added.filled⟩

/-- A clause keeps the segments tidy. -/
theorem IsTidy.obey? (h : r.IsTidy) {clause : PathClause K} {r' : PathRecord K}
    (next : r.obey? clause = some r') : r'.IsTidy := by
  cases clause with
  | next =>
    obtain ⟨filled, rfl⟩ := next?_eq_some next
    exact h.beginSegment filled
  | target q =>
    cases next
    exact h.addTarget q
  | heading degrees distance =>
    cases next
    exact h.addMove _
  | move d distance | extend distance =>
    cases next
    exact h.move _ _
  | untilEven d q =>
    cases next
    have turned : { r with direction := d.getD r.direction : PathRecord K }.IsTidy :=
      ⟨h.apart, h.filled⟩
    exact turned.addMove _
  | origin q | close =>
    cases next
    exact ⟨h.apart, h.filled⟩

variable (r) in
/-- A target changes the segments only. -/
theorem exists_addTarget_eq (q : Point K) :
    ∃ ss s, r.addTarget q = { r with earlier := ss, current := s } := by
  unfold addTarget
  split <;> exact ⟨_, _, rfl⟩

variable (r) in
/-- So does a stretch. -/
theorem exists_addMove_eq (m : Move K) :
    ∃ ss s, r.addMove m = { r with earlier := ss, current := s } := by
  unfold addMove
  split <;> exact ⟨_, _, rfl⟩

variable (r) in
/-- A stretch in a direction changes that, too. -/
theorem exists_move_eq (d : Direction) (distance : Option K) :
    ∃ ss s, r.move d distance = { r with direction := d, earlier := ss, current := s } := by
  obtain ⟨ss, s, added⟩ := r.exists_addMove_eq (.straight d distance)
  rw [move, added]
  exact ⟨_, _, rfl⟩

/-- Beside the segments, a clause changes what it mentions. -/
theorem exists_obey?_eq {clause : PathClause K} {r' : PathRecord K}
    (next : r.obey? clause = some r') : ∃ ss s, r' =
      { r with
        direction := clause.direction?.getD r.direction
        origin := clause.origin?.or r.origin
        earlier := ss
        current := s
        closed := clause.closes || r.closed } := by
  cases clause with
  | next =>
    obtain ⟨-, rfl⟩ := next?_eq_some next
    exact ⟨_, _, rfl⟩
  | target q =>
    cases next
    exact r.exists_addTarget_eq q
  | heading degrees distance =>
    cases next
    exact r.exists_addMove_eq _
  | move d distance | extend distance =>
    cases next
    exact r.exists_move_eq _ _
  | untilEven d q =>
    cases next
    exact exists_addMove_eq { r with direction := d.getD r.direction } _
  | origin q | close =>
    cases next
    exact ⟨_, _, rfl⟩

/-- What is true of the records after some clauses. -/
structure Follows (direction : Direction) (unit : Direction → K) (clauses : List (PathClause K))
    (r : PathRecord K) : Prop extends r.IsTidy where
  /-- The path starts where it was last said to. -/
  origin : r.origin = (clauses.filterMap PathClause.origin?).getLast?
  /-- It travels in the direction that was last mentioned, or else in the first. -/
  direction : r.direction = (clauses.filterMap PathClause.direction?).getLast?.getD direction
  /-- It returns if that was said. -/
  closed : r.closed = clauses.any PathClause.closes
  /-- The usual lengths stay. -/
  unit : r.unit = unit

/-- The last of what some things mention is what the last of them mentions, if anything. -/
theorem getLast?_filterMap_concat {α β : Type} (f : α → Option β) (as : List α) (a : α) :
    ((as ++ [a]).filterMap f).getLast? = (f a).or (as.filterMap f).getLast? := by
  rw [List.filterMap_append, List.getLast?_append]
  cases h : f a <;> simp [h]

section Follows

variable {direction : Direction} {unit : Direction → K} {clauses : List (PathClause K)}

theorem Follows.step {clause : PathClause K} {r' : PathRecord K}
    (h : r.Follows direction unit clauses) (next : r.obey? clause = some r') :
    r'.Follows direction unit (clauses ++ [clause]) := by
  have tidy := h.toIsTidy.obey? next
  obtain ⟨ss, s, rfl⟩ := exists_obey?_eq next
  refine { tidy with origin := ?_, direction := ?_, closed := ?_, unit := h.unit }
  · rw [getLast?_filterMap_concat, ← h.origin]
  · rw [getLast?_filterMap_concat, h.direction]
    cases clause.direction? <;> rfl
  · rw [List.any_append, ← h.closed, Bool.or_comm]
    simp

/-- The records say what the clauses said, however many there are. -/
theorem obeyAll?_follows
    (h : PathRecord.obeyAll? { direction := direction, unit := unit } clauses = some r) :
    r.Follows direction unit clauses :=
  foldlM_induct
    { apart := fun s hs => .inl (by cases List.mem_singleton.1 hs; rfl)
      filled := fun s hs => nomatch hs
      origin := rfl
      direction := rfl
      closed := rfl
      unit := rfl }
    Follows.step h

end Follows

end PathRecord

/-- The record of a segment. -/
def Segment.record : Segment K → SegmentRecord K
  | target q => { target := some q }
  | moves ms => { moves := ms.reverse }

theorem Segment.isEmpty_record (s : Segment K) : s.record.isEmpty = s.isEmpty := by
  cases s with
  | target q => rfl
  | moves ms => simp [record, SegmentRecord.isEmpty, isEmpty]

theorem Segment.eq_of_isEmpty {s : Segment K} (h : s.isEmpty = true) : s = moves [] := by
  cases s with
  | target q => cases h
  | moves ms => rw [List.isEmpty_iff.1 h]

namespace Path

variable (p : Path K)

/-- The records of a path. -/
def record : PathRecord K where
  direction := p.direction
  unit := p.unit
  origin := p.origin
  earlier := p.earlier.map Segment.record
  current := p.current.record
  closed := p.closed

theorem segments_record : p.record.segments = p.segments.map Segment.record := by
  simp [record, PathRecord.segments, segments]

theorem record_beginSegment : p.beginSegment.record = p.record.beginSegment := by
  simp [record, beginSegment, PathRecord.beginSegment, Segment.record]

theorem isEmpty_current : p.record.current.isEmpty = p.current.isEmpty :=
  p.current.isEmpty_record

theorem record_addTarget (q : Point K) : (p.addTarget q).record = p.record.addTarget q := by
  unfold addTarget PathRecord.addTarget
  rw [isEmpty_current]
  split
  · rename_i empty
    have none : p.record.current = {} := congrArg Segment.record (Segment.eq_of_isEmpty empty)
    dsimp only
    rw [none]
    rfl
  · rw [← record_beginSegment]
    rfl

theorem record_addMove (m : Move K) : (p.addMove m).record = p.record.addMove m := by
  unfold addMove PathRecord.addMove
  split <;> rename_i current
  · have moves : p.record.current = { moves := _ } := congrArg Segment.record current
    have free : ¬p.record.current.target.isSome = true := by simp [moves]
    rw [if_neg free]
    dsimp only
    rw [moves, ← List.reverse_cons]
    rfl
  · have some : p.record.current = { target := _ } := congrArg Segment.record current
    rw [some, ← record_beginSegment]
    rfl

theorem record_move (d : Direction) (distance : Option K) :
    (p.move d distance).record = p.record.move d distance := by
  rw [PathRecord.move, ← record_addMove]
  rfl

/-- A path and its records make the same of a clause. -/
theorem record_obey? (clause : PathClause K) :
    p.record.obey? clause = (p.obey? clause).map record := by
  cases clause with
  | next =>
    simp only [PathRecord.obey?, obey?, PathRecord.next?, next?]
    rw [isEmpty_current]
    split
    · rfl
    · rw [← record_beginSegment]
      rfl
  | target q => exact congrArg some (p.record_addTarget q).symm
  | heading degrees distance => exact congrArg some (p.record_addMove _).symm
  | move d distance | extend distance => exact congrArg some (p.record_move _ _).symm
  | untilEven d q =>
    exact congrArg some (record_addMove { p with direction := d.getD p.direction } _).symm
  | origin q | close => rfl

/-- A path and its records make the same of all clauses. -/
theorem record_obeyAll? (clauses : List (PathClause K)) :
    p.record.obeyAll? clauses = (p.obeyAll? clauses).map record := by
  induction clauses generalizing p with
  | nil => rfl
  | cons clause clauses ih =>
    rw [PathRecord.obeyAll?, obeyAll?, List.foldlM_cons, List.foldlM_cons, record_obey?]
    cases p.obey? clause with
    | none => rfl
    | some p' => exact ih p'

end Path

/-! ## Vertices -/

/-- The direction in which a stretch ends, if it has one. -/
def Move.exit : Move K → Option Direction
  | .straight d _ => some d
  | .heading .. => none
  | .untilEven d _ => some d

/-- The direction in which a segment ends: that of its last stretch. -/
def SegmentRecord.exit (s : SegmentRecord K) : Option Direction := s.moves.getLast?.bind Move.exit

/-- The direction in which some segments end, or else another. -/
def lastExit (ss : List (SegmentRecord K)) (exit : Option Direction) : Option Direction :=
  (ss.getLast?.map SegmentRecord.exit).getD exit

theorem lastExit_cons (s : SegmentRecord K) (ss : List (SegmentRecord K))
    (exit : Option Direction) : lastExit (s :: ss) exit = lastExit ss s.exit := by
  rw [lastExit, List.getLast?_cons, Option.map_some, Option.getD_some, lastExit, Option.getD_map]

variable [Arith K]

namespace Path

variable (p : Path K)

/-- Whether the path leads from a point through some segments to some vertices, one for each. -/
inductive Visits : Point K → List (SegmentRecord K) → List (Point K) → Prop where
  /-- No segments, no vertices. -/
  | nil (here : Point K) : Visits here [] []
  /-- A target is a vertex itself. -/
  | target {here q : Point K} {s : SegmentRecord K} {ss : List (SegmentRecord K)}
    {vertices : List (Point K)} (target : s.target = some q) (rest : Visits q ss vertices) :
    Visits here (s :: ss) (q :: vertices)
  /-- Stretches lead to a vertex. -/
  | moves {here q : Point K} {s : SegmentRecord K} {ss : List (SegmentRecord K)}
    {vertices : List (Point K)} {before : Option Direction} (none : s.target = none)
    (reach : p.resolveMoves here before s.moves = .ok (q, s.exit)) (rest : Visits q ss vertices) :
    Visits here (s :: ss) (q :: vertices)

variable {p} in
/-- There is exactly one vertex for each segment. -/
theorem Visits.length_eq {here : Point K} {ss : List (SegmentRecord K)} {vertices : List (Point K)}
    (h : p.Visits here ss vertices) : vertices.length = ss.length := by
  induction h with
  | nil here => rfl
  | target target rest ih | moves none reach rest ih => exact congrArg Nat.succ ih

theorem step_exit (start : Point K) (r : Reach K) (m : Move K) :
    Ensures (·.exit = m.exit) (p.step start r m) := by
  cases m with
  | heading degrees distance => exact .andThen fun v => .ok rfl
  | untilEven d q =>
    refine .ok ?_
    split <;> rfl
  | straight d distance => exact .ok rfl

/-- Stretches end in the direction of the last of them. -/
theorem resolveMoves_exit (here : Point K) (exit : Option Direction) (ms : List (Move K))
    (m : Move K) : Ensures (·.2 = m.exit) (p.resolveMoves here exit (ms ++ [m])) := by
  unfold resolveMoves
  rw [List.foldlM_append]
  refine .bind (P := (·.exit = m.exit)) (.andThen fun r => ?_) fun r hr => .ok hr
  rw [List.foldlM_cons]
  exact .bind (p.step_exit here r m) fun r' hr => .ok hr

/-- The records of some segments that are not empty. -/
def filledRecords (ss : List (Segment K)) : List (SegmentRecord K) :=
  (ss.map Segment.record).filter fun s => !s.isEmpty

omit [Arith K] in
theorem filledRecords_cons {s : Segment K} (h : s.isEmpty = false) (ss : List (Segment K)) :
    filledRecords (s :: ss) = s.record :: filledRecords ss := by
  rw [filledRecords, List.map_cons, List.filter_cons_of_pos (by rw [s.isEmpty_record, h]; rfl)]
  rfl

/-- Following segments visits those that are not empty. -/
theorem follow_visits (here : Point K) (exit : Option Direction) (ss : List (Segment K)) :
    Ensures (fun r => p.Visits here (filledRecords ss) r.1 ∧ r.2 = lastExit (filledRecords ss) exit)
      (p.follow here exit ss) := by
  induction ss generalizing here exit with
  | nil => exact .ok ⟨.nil here, rfl⟩
  | cons s ss ih =>
    match s with
    | .target q =>
      rw [filledRecords_cons rfl, lastExit_cons]
      exact .bind (ih q none) fun r hr => .ok ⟨.target rfl hr.1, hr.2⟩
    | .moves [] => exact ih here exit
    | .moves (m :: ms) =>
      have last : (Segment.moves (m :: ms)).record.exit = m.exit := by
        simp [Segment.record, SegmentRecord.exit]
      rw [filledRecords_cons rfl, lastExit_cons, last, follow, List.reverse_cons]
      intro r hr
      obtain ⟨⟨q, after⟩, reach, hr⟩ := exists_of_bind_eq_ok hr
      obtain ⟨rest, follows, hr⟩ := exists_of_bind_eq_ok hr
      cases hr
      cases p.resolveMoves_exit here exit ms.reverse m _ reach
      obtain ⟨visits, ends⟩ := ih q m.exit rest follows
      have leads : p.resolveMoves here exit (Segment.moves (m :: ms)).record.moves =
          .ok (q, (Segment.moves (m :: ms)).record.exit) := by
        rw [last, Segment.record, List.reverse_cons]
        exact reach
      exact ⟨.moves rfl leads visits, ends⟩

/-- Where a path runs from its origin on, and the direction in which it ends: one usual length in
the direction of travel, if no segment leads anywhere. -/
inductive Runs (origin : Point K) : List (Point K) → Option Direction → Prop where
  /-- Along no segments. -/
  | bare (none : p.record.filled = []) :
    Runs origin [origin.plus ((p.direction.vector : Point K).scale (p.unit p.direction))]
      (some p.direction)
  /-- Along all that are not empty. -/
  | led {vertices : List (Point K)} {s : SegmentRecord K}
    (visits : p.Visits origin p.record.filled vertices)
    (last : p.record.filled.getLast? = some s) : Runs origin vertices s.exit

/-- Whether the path returns to its origin at its end. -/
def returns (origin : Point K) (vertices : List (Point K)) : Bool :=
  p.closed && decide (2 < (origin :: vertices).length) && !(vertices.getLastD origin).same origin

/-- Whether the path has the given points and ends in the given direction, when it is attached at a
point. -/
def Draws (start : Point K) (drawn : List (Point K) × Option Direction) : Prop :=
  ∃ vertices, p.Runs (p.origin.getD start) vertices drawn.2 ∧
    drawn.1 = p.origin.getD start :: vertices ++
      if p.returns (p.origin.getD start) vertices then [p.origin.getD start] else []

theorem closeUp_cons (origin : Point K) (vertices : List (Point K)) :
    closeUp p.closed (origin :: vertices) = origin :: vertices ++
      if p.returns origin vertices then [origin] else [] := by
  rw [closeUp, List.head?_cons, List.getLast?_cons]
  dsimp only
  rw [returns, List.getLastD_eq_getLast?]
  split
  · rfl
  · rw [List.append_nil]

/-- What the building of a path gives are the points that it draws. -/
theorem build_draws (start : Point K) : Ensures (p.Draws start) (p.build start) := by
  have filled : filledRecords p.segments = p.record.filled := by
    rw [filledRecords, ← segments_record]
    rfl
  have follows := p.follow_visits (p.origin.getD start) none p.segments
  rw [filled] at follows
  refine .bind follows fun r ⟨visits, ends⟩ => ?_
  dsimp only
  split
  · rename_i empty
    have none : p.record.filled = [] := by
      rw [← List.length_eq_zero_iff, ← visits.length_eq, List.isEmpty_iff.1 empty]
      rfl
    exact .ok ⟨_, .bare none, p.closeUp_cons _ _⟩
  · rename_i led
    have some : p.record.filled ≠ [] := fun h => led <| by
      rw [List.isEmpty_iff, ← List.length_eq_zero_iff, visits.length_eq, h]
      rfl
    have last := List.getLast?_eq_some_getLast some
    have exit : r.2 = (p.record.filled.getLast some).exit := by
      rw [ends, lastExit, last]
      rfl
    rw [exit]
    exact .ok ⟨_, .led visits last, p.closeUp_cons _ _⟩

/-- A path that is told some clauses keeps them in tidy records, and wherever it is attached, it has
the points that these say.  It fails only if an angle is not finite. -/
theorem build_clauses [FiniteAngles K] {direction : Direction} {unit : Direction → K}
    {clauses : List (PathClause K)} {r : PathRecord K}
    (h : PathRecord.obeyAll? { direction := direction, unit := unit } clauses = some r) :
    r.Follows direction unit clauses ∧
    ∃ p : Path K, (fresh direction unit).obeyAll? clauses = some p ∧ p.record = r ∧
      ∀ start, Settles
        (fun _ => ∃ x ∈ clauses.flatMap PathClause.headings, Arith.isFinite x = false)
        (p.Draws start) (p.build start) := by
  have same : (fresh direction unit).record.obeyAll? clauses = some r := h
  rw [record_obeyAll?, Option.map_eq_some_iff] at same
  obtain ⟨p, told, rfl⟩ := same
  refine ⟨PathRecord.obeyAll?_follows h, p, told, rfl, fun start =>
    ⟨p.build_draws start, fun halt fails => ?_⟩⟩
  by_contra finite
  push Not at finite
  have succeeds := p.build_succeeds (fun x hx =>
    Bool.eq_true_of_not_eq_false (finite x (headings_obeyAll? told x hx))) start
  exact succeeds.error halt fails

/-- A path that goes down, then right until it is level with a point, runs to another point, and
returns. -/
theorem build_clauses_returning :
    let unit : Direction → ℚ := fun _ => 1
    let clauses : List (PathClause ℚ) :=
      [.extend 2, .untilEven (some .right) ⟨5, 7⟩, .next, .target ⟨3, 4⟩, .close]
    ∃ r, PathRecord.obeyAll? { direction := .down, unit := unit } clauses = some r ∧
      r.Follows .down unit clauses ∧
      ∃ p : Path ℚ, (fresh .down unit).obeyAll? clauses = some p ∧ p.record = r ∧
        Gives (p.Draws ⟨0, 0⟩) (p.build ⟨0, 0⟩) := by
  intro unit clauses
  obtain ⟨follows, p, told, record, draws⟩ := build_clauses
    (show PathRecord.obeyAll? { direction := .down, unit := unit } clauses = some _ from rfl)
  refine ⟨_, rfl, follows, p, told, record, (draws _).ok, fun halt fails => ?_⟩
  obtain ⟨x, hx, -⟩ := (draws _).error halt fails
  cases hx

/-- An infinite angle leads nowhere, even if the path then goes until it is level with a point both
ways. -/
theorem build_infinite_heading :
    let infinite : MachineNumber := Arith.ofDecimal ⟨1, 309⟩
    let corner : Point MachineNumber := ⟨Arith.num 3, Arith.num 4⟩
    ∃ p : Path MachineNumber, (fresh .right fun _ => Arith.num 1).obeyAll?
        [.heading infinite (some (Arith.num 1)), .untilEven (some .right) corner,
          .untilEven (some .up) corner] = some p ∧
      p.build ⟨Arith.num 0, Arith.num 0⟩ = .error ⟨.domain, none⟩ := by
  intro infinite corner
  have bad : (Arith.isFinite infinite || Arith.isNaN infinite) = false := by decide +kernel
  have undefined : headingVector infinite = .error .domain := by
    rw [headingVector, bad]
    rfl
  let stretches : List (Move MachineNumber) := [.untilEven .up corner, .untilEven .right corner,
    .heading infinite (some (Arith.num 1))]
  refine ⟨{ direction := .up, unit := fun _ => Arith.num 1, current := .moves stretches }, rfl, ?_⟩
  have stops : ∀ (p : Path MachineNumber) start r (ms : List (Move MachineNumber)),
      (Move.heading infinite (some (Arith.num 1)) :: ms).foldlM (p.step start) r =
        .error ⟨.domain, r.exit⟩ := by
    intro p start r ms
    rw [List.foldlM_cons, step, undefined]
    rfl
  have order : stretches.reverse = .heading infinite (some (Arith.num 1)) ::
    [.untilEven .right corner, .untilEven .up corner] := rfl
  rw [build, segments, List.nil_append, follow, resolveMoves, order, stops]
  rfl

end Path

end DiagramScript
