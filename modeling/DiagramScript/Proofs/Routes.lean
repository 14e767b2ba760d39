import DiagramScript.Proofs.DraftClauses
import DiagramScript.Proofs.PathVertices

/-!
# Where a draft leads

The path of a draft, and the objects that it starts and ends at, are kept apart, and each clause
changes what it speaks of.  So the path need not end at the object that it was last said to run to.

* `Clause.start?`, `Clause.target?`, `Clause.stretches`, `Clause.closes` — clauses about the route.
* `Path.last?` — the last segment that leads anywhere.
* `Draft.Leads` — what the clauses do that go on with a path, and what they find in the view.
* `Draft.Routed`, `Draft.applyAll_routed` — what all clauses together make of the route: each
  part of it is as the last clause says that speaks of it.
* `Path.build_last` — a path whose last segment is a target ends there, unless it returns.
-/

namespace DiagramScript

variable {K : Type}

/-! ## Clauses about the route -/

namespace Clause

/-- Where a clause says that the path starts. -/
def start? : Clause → Option Position
  | .start q => some q
  | _ => none

/-- Where a clause says that the path runs to. -/
def target? : Clause → Option Position
  | .target q => some q
  | _ => none

/-- Whether a clause adds a stretch to the path. -/
def stretches : Clause → Bool
  | .direction .. | .directionUntil .. | .heading .. | .untilEven _ | .distance _ => true
  | _ => false

/-- A clause that leads the path anywhere: to a point, or along a stretch. -/
def lead? (c : Clause) : Option Clause := if c.target?.isSome || c.stretches then some c else none

/-- Whether a clause lets the path return to its start. -/
def closes : Clause → Bool
  | .flag .close => true
  | _ => false

end Clause

/-- The position that some clauses say last that the path starts at. -/
def lastStart (as : List Attribute) : Option Position :=
  (as.filterMap (·.clause.start?)).getLast?

/-- The position that some clauses say last that the path runs to. -/
def lastTarget (as : List Attribute) : Option Position :=
  (as.filterMap (·.clause.target?)).getLast?

/-- The last of some clauses that leads the path anywhere. -/
def lastLead (as : List Attribute) : Option Clause := (as.filterMap (·.clause.lead?)).getLast?

section Concat

variable (as : List Attribute) (a : Attribute)

theorem lastStart_concat : lastStart (as ++ [a]) = a.clause.start?.or (lastStart as) :=
  PathRecord.getLast?_filterMap_concat _ as a

theorem lastTarget_concat : lastTarget (as ++ [a]) = a.clause.target?.or (lastTarget as) :=
  PathRecord.getLast?_filterMap_concat _ as a

theorem lastLead_concat : lastLead (as ++ [a]) = a.clause.lead?.or (lastLead as) :=
  PathRecord.getLast?_filterMap_concat _ as a

theorem any_concat (f : Clause → Bool) :
    (as ++ [a]).any (f ·.clause) = (f a.clause || as.any (f ·.clause)) := by
  simp [List.any_append, Bool.or_comm]

end Concat

/-! ## Paths -/

namespace Path

/-- The last segment of a path that leads anywhere. -/
def last? (p : Path K) : Option (Segment K) := (p.segments.filter fun s => !s.isEmpty).getLast?

/-- A segment at the end that leads anywhere is the last one. -/
theorem last?_of_current {p : Path K} (h : p.current.isEmpty = false) :
    p.last? = some p.current := by
  rw [last?, segments, List.filter_append, List.filter_singleton, h]
  exact List.getLast?_concat

/-- An empty segment at the end is passed over. -/
theorem last?_beginSegment (p : Path K) : p.beginSegment.last? = p.last? := by
  rw [last?, segments, List.filter_append]
  exact congrArg List.getLast? (List.append_nil _)

theorem last?_addTarget (p : Path K) (q : Point K) : (p.addTarget q).last? = some (.target q) :=
  last?_of_current (p := p.addTarget q) rfl

/-- A stretch makes the last segment one of stretches. -/
theorem last?_addMove (p : Path K) (m : Move K) :
    ∃ ms, (p.addMove m).last? = some (.moves (m :: ms)) := by
  unfold addMove
  split
  · exact ⟨_, last?_of_current (p := { p with current := .moves _ }) rfl⟩
  · exact ⟨[], last?_of_current (p := { p.beginSegment with current := .moves [m] }) rfl⟩

/-- Without a last segment a path is bare. -/
theorem isBare_iff_last? {p : Path K} : p.isBare = true ↔ p.last? = none := by
  rw [isBare, last?, List.getLast?_eq_none_iff, List.filter_eq_nil_iff, List.all_eq_true]
  simp

theorem closed_addTarget (p : Path K) (q : Point K) : (p.addTarget q).closed = p.closed := by
  unfold addTarget
  split <;> rfl

theorem closed_addMove (p : Path K) (m : Move K) : (p.addMove m).closed = p.closed := by
  unfold addMove
  split <;> rfl

theorem next?_eq_some {p p' : Path K} (h : p.next? = some p') :
    p.current.isEmpty = false ∧ p.beginSegment = p' := by
  unfold next? at h
  split_ifs at h with empty
  exact ⟨Bool.eq_false_iff.2 empty, Option.some.inj h⟩

/-- To go until even with a point is a stretch, in the direction that it is said to be in. -/
theorem exists_untilEven_eq (p : Path K) (dir : Option Direction) (q : Point K) :
    ∃ m dir', p.untilEven dir q = { p.addMove m with direction := dir' } := by
  refine ⟨.untilEven (dir.getD p.direction) q, dir.getD p.direction, ?_⟩
  unfold untilEven addMove
  dsimp only
  split <;> rfl

variable [Arith K]

/-- The points behind another one end at the last segment if that is a target, and at the other one
if no segment leads anywhere. -/
theorem follow_last (p : Path K) (here : Point K) (exit : Option Direction) {q : Point K}
    (ss : List (Segment K)) (first : Point K)
    (h : (ss.filter fun s => !s.isEmpty).getLast?.getD (.target first) = .target q) :
    Ensures (fun r => (first :: r.1).getLast? = some q) (p.follow here exit ss) := by
  induction ss generalizing here exit first with
  | nil =>
    cases h
    exact .ok rfl
  | cons s ss ih =>
    cases s with
    | target t =>
      refine .bind (ih t none t ?_) fun r hr => .ok ?_
      · rwa [List.filter_cons_of_pos rfl, List.getLast?_cons, Option.getD_some] at h
      · rwa [List.getLast?_cons_cons]
    | moves ms =>
      cases ms with
      | nil => exact ih here exit first h
      | cons m ms =>
        rw [List.filter_cons_of_pos rfl, List.getLast?_cons, Option.getD_some] at h
        refine .andThen fun reach => .bind (ih reach.1 reach.2 reach.1 ?_) fun r hr => .ok ?_
        · -- stretches are no target, so that something follows
          cases last : (ss.filter fun s => !s.isEmpty).getLast? with
          | none =>
            rw [last] at h
            cases h
          | some l =>
            rw [last] at h
            exact h
        · rwa [List.getLast?_cons_cons]

/-- A path whose last segment is a target ends there, unless it returns to its start. -/
theorem build_last (p : Path K) (start : Point K) {q : Point K} (h : p.last? = some (.target q)) :
    Ensures (fun r => r.1.getLast? = some q ∨ p.closed = true ∧ r.1.getLast? = r.1.head?)
      (p.build start) := by
  have ends := p.follow_last (p.origin.getD start) none p.segments (p.origin.getD start)
    (congrArg (Option.getD · _) h)
  refine .bind (P := fun r => (p.origin.getD start :: r.1).getLast? = some q ∧ r.1 ≠ [])
    (fun r hr => ⟨ends r hr, fun empty => ?_⟩) fun r ⟨ends, led⟩ => ?_
  · -- a path without vertices has no last segment
    have count := (p.follow_visits _ none p.segments r hr).1.length_eq
    rw [empty, eq_comm, List.length_nil, List.length_eq_zero_iff, filledRecords,
      List.filter_eq_nil_iff] at count
    have bare : p.isBare = true := List.all_eq_true.2 fun s hs => by
      simpa [s.isEmpty_record] using count _ (List.mem_map_of_mem hs)
    rw [isBare_iff_last?.1 bare] at h
    cases h
  rw [List.isEmpty_eq_false_iff.2 led]
  refine .ok ?_
  dsimp only
  rw [closeUp_cons]
  cases returns : p.returns (p.origin.getD start) r.1 with
  | true =>
    refine .inr ⟨?_, ?_⟩
    · unfold Path.returns at returns
      simp only [Bool.and_eq_true] at returns
      exact returns.1.1
    · rw [if_pos rfl]
      exact List.getLast?_concat
  | false =>
    rw [if_neg Bool.false_ne_true, List.append_nil]
    exact .inl ends

end Path

/-! ## Drafts -/

namespace View

variable [Arith K] (v : View K)

/-- The point that a position means, if one is given. -/
def placeAt : Option Position → Except Failure (Option (Point K))
  | none => .ok none
  | some q => do
    let p ← v.position q
    .ok (some p)

omit [Arith K] in
/-- The object that a position means as a whole, if one is given. -/
def wholeAt : Option Position → Except Failure (Option Nat)
  | none => .ok none
  | some q => v.wholeObject q

omit [Arith K] in
theorem exists_of_wholeAt {q : Option Position} {id : Nat} (h : v.wholeAt q = .ok (some id)) :
    ∃ p, q = some p ∧ v.wholeObject p = .ok (some id) := by
  cases q with
  | none => cases h
  | some p => exact ⟨p, rfl, h⟩

end View

namespace Draft

variable [Arith K] (v : View K) (d : Draft K)

/-- What a clause does that goes on with the path, and what it finds in the view. -/
inductive Leads : Clause → Draft K → Prop where
  /-- It starts the path at a position. -/
  | start {q : Position} {path : Path K} {p : Point K} {whole : Option Nat}
    (has : d.path = some path) (place : v.position q = .ok p)
    (known : v.wholeObject q = .ok whole) :
    Leads (.start q) { d with path := some (path.setOrigin p), fromObject := whole }
  /-- It ends an arc at a position. -/
  | arc {q : Position} {p : Point K} {whole : Option Nat} (arc : d.object.cls = .arc)
    (place : v.position q = .ok p) (known : v.wholeObject q = .ok whole) :
    Leads (.target q) { d with arcEnd := some p, toObject := whole }
  /-- It runs the path to a position. -/
  | target {q : Position} {path : Path K} {p : Point K} {whole : Option Nat}
    (other : d.object.cls ≠ .arc) (has : d.path = some path) (place : v.position q = .ok p)
    (known : v.wholeObject q = .ok whole) :
    Leads (.target q) { d with path := some (path.addTarget p), toObject := whole }
  /-- It ends the last segment. -/
  | next {path path' : Path K} (has : d.path = some path) (ended : path.next? = some path') :
    Leads .next { d with path := some path' }
  /-- It adds a stretch. -/
  | stretch {c : Clause} {path : Path K} (stretches : c.stretches = true)
    (has : d.path = some path) (m : Move K) (direction : Direction) :
    Leads c { d with path := some { path.addMove m with direction := direction } }

omit [Arith K] in
theorem exists_of_onPath_eq_ok {d d' : Draft K} {f : Path K → Except Failure (Path K)}
    (h : d.onPath f = .ok d') :
    ∃ p p', d.path = some p ∧ f p = .ok p' ∧ d' = { d with path := some p' } := by
  unfold onPath at h
  split at h
  · cases h
  · obtain ⟨p', hp', h⟩ := exists_of_bind_eq_ok h
    cases h
    exact ⟨_, p', ‹_›, hp', rfl⟩

theorem onPath_stretch {c : Clause} (stretches : c.stretches = true)
    {f : Path K → Except Failure (Path K)}
    (hf : ∀ p, Ensures (fun p' => ∃ m dir, p' = { p.addMove m with direction := dir }) (f p)) :
    Ensures (d.Leads v c) (d.onPath f) := by
  intro d' hd
  obtain ⟨p, p', has, led, rfl⟩ := exists_of_onPath_eq_ok hd
  obtain ⟨m, dir, rfl⟩ := hf p p' led
  exact .stretch stretches has m dir

/-- A clause that goes on with the path does nothing else. -/
theorem applyClause_leads {c : Clause} (leads : c.leads = true) :
    Ensures (d.Leads v c) (d.applyClause v c) := by
  cases c with
  | start q =>
    intro d' hd
    obtain ⟨p, place, hd⟩ := exists_of_bind_eq_ok hd
    obtain ⟨next, hn, hd⟩ := exists_of_bind_eq_ok hd
    obtain ⟨whole, known, hd⟩ := exists_of_bind_eq_ok hd
    obtain ⟨path, path', has, led, rfl⟩ := exists_of_onPath_eq_ok hn
    cases led
    cases hd
    exact .start has place known
  | target q =>
    intro d' hd
    obtain ⟨p, place, hd⟩ := exists_of_bind_eq_ok hd
    dsimp only at hd
    split_ifs at hd with arc
    · obtain ⟨next, hn, hd⟩ := exists_of_bind_eq_ok hd
      obtain ⟨whole, known, hd⟩ := exists_of_bind_eq_ok hd
      cases hn
      cases hd
      exact .arc arc place known
    · obtain ⟨next, hn, hd⟩ := exists_of_bind_eq_ok hd
      obtain ⟨whole, known, hd⟩ := exists_of_bind_eq_ok hd
      obtain ⟨path, path', has, led, rfl⟩ := exists_of_onPath_eq_ok hn
      cases led
      cases hd
      exact .target arc has place known
  | next =>
    intro d' hd
    obtain ⟨path, path', has, led, rfl⟩ := exists_of_onPath_eq_ok hd
    split at led
    · cases led
      exact .next has ‹_›
    · cases led
  | direction dir length =>
    cases length with
    | none => exact d.onPath_stretch v rfl fun p => .ok ⟨_, _, rfl⟩
    | some e => exact d.onPath_stretch v rfl fun p => .andThen fun _ => .ok ⟨_, _, rfl⟩
  | directionUntil dir q =>
    exact d.onPath_stretch v rfl fun p => .andThen fun _ => .ok (p.exists_untilEven_eq _ _)
  | heading angle length =>
    cases length with
    | none => exact d.onPath_stretch v rfl fun p => .andThen fun _ => .ok ⟨_, _, rfl⟩
    | some e =>
      exact d.onPath_stretch v rfl fun p => .andThen fun _ => .andThen fun _ => .ok ⟨_, _, rfl⟩
  | untilEven q =>
    exact d.onPath_stretch v rfl fun p => .andThen fun _ => .ok (p.exists_untilEven_eq _ _)
  | distance e => exact d.onPath_stretch v rfl fun p => .andThen fun _ => .ok ⟨_, _, rfl⟩
  | _ => cases leads

/-- The last segment that leads anywhere: the end of an arc, if that is said. -/
def last? : Option (Segment K) :=
  if d.object.cls = .arc then d.arcEnd.map .target else d.path.bind Path.last?

/-- Whether a segment is what a clause makes of a path that leads it anywhere, if any does. -/
inductive Reads : Option Clause → Option (Segment K) → Prop where
  /-- Nothing leads anywhere. -/
  | none : Reads none none
  /-- The path runs to a position. -/
  | target {q : Position} {p : Point K} (place : v.position q = .ok p) :
    Reads (some (.target q)) (some (.target p))
  /-- The path runs along stretches. -/
  | stretch {c : Clause} (stretches : c.stretches = true) (m : Move K) (ms : List (Move K)) :
    Reads (some c) (some (.moves (m :: ms)))

/-- What some clauses make of the route of a draft.  Each part is as the last clause says that
speaks of it, whatever comes in between. -/
structure Routed (as : List Attribute) (d : Draft K) : Prop where
  /-- The path starts at the object that the last `from` names. -/
  start : v.wholeAt (lastStart as) = .ok d.fromObject
  /-- It starts at the point that the last `from` names. -/
  origin : ∀ p, d.path = some p → v.placeAt (lastStart as) = .ok p.origin
  /-- It ends at the object that the last `to` names. -/
  finish : v.wholeAt (lastTarget as) = .ok d.toObject
  /-- It leads on as the last clause says that leads anywhere. -/
  lead : Reads v (lastLead as) d.last?
  /-- It returns if that was said. -/
  closed : ∀ p, d.path = some p → p.closed = as.any (·.clause.closes)

variable {v d}

/-- The other clauses leave the route alone, but for closing the path. -/
theorem Effect.keeps_route {c : Clause} {d' : Draft K} (h : d.Effect v c d')
    (other : c.leads = false) : d'.object.cls = d.object.cls ∧ d'.fromObject = d.fromObject ∧
      d'.toObject = d.toObject ∧ d'.arcEnd = d.arcEnd ∧
      d'.path = if c.closes then d.path.map Path.close else d.path := by
  cases h with
  | text line | thickness usual given | same source | located place | anchored place =>
    exact ⟨rfl, rfl, rfl, rfl, rfl⟩
  | @size what value reference x usual given =>
    obtain ⟨_, _, _, _, _, resized⟩ := d.exists_resize_eq what x
    rw [resized]
    exact ⟨rfl, rfl, rfl, rfl, rfl⟩
  | flag what => cases what <;> exact ⟨rfl, rfl, rfl, rfl, rfl⟩
  | @style c f restyles keeps =>
    cases c <;> first | exact ⟨rfl, rfl, rfl, rfl, rfl⟩ | cases restyles
  | path leads =>
    rw [leads] at other
    cases other

omit [Arith K] in
theorem last?_of_path {p : Path K} (other : d.object.cls ≠ .arc) (has : d.path = some p) :
    d.last? = p.last? := by
  rw [last?, if_neg other, has]
  rfl

/-- Where nothing else leads anywhere, the last segment stays. -/
theorem reads_of_path {c : Option Clause} {p q : Path K} (has : d.path = some p)
    (last : q.last? = p.last?) (h : Reads v c d.last?) :
    Reads v c ({ d with path := some q } : Draft K).last? := by
  rw [last?, has, Option.bind_some, ← last] at h
  exact h

omit [Arith K] in
/-- An arc takes no stretches. -/
theorem arc_ne_of_stretches {c : Clause} (stretches : c.stretches = true)
    (accepted : d.object.cls.accepts c = true) : d.object.cls ≠ .arc := by
  have refused : ∀ w ∈ ["direction", "heading", "until", "distance"],
      (acceptedClauses .arc).contains w = false := by decide
  have word : c.keyword ∈ ["direction", "heading", "until", "distance"] := by
    cases c with
    | direction | directionUntil => exact .head _
    | heading => exact .tail _ (.head _)
    | untilEven => exact .tail _ (.tail _ (.head _))
    | distance => exact .tail _ (.tail _ (.tail _ (.head _)))
    | _ => cases stretches
  intro arc
  rw [ObjectClass.accepts, arc, refused _ word] at accepted
  cases accepted

section Routed

variable {as : List Attribute} {a : Attribute} {d' : Draft K}

/-- One more clause: it speaks of a part of the route, or else the clauses before it do. -/
theorem Routed.concat (start : v.wholeAt (a.clause.start?.or (lastStart as)) = .ok d'.fromObject)
    (origin : ∀ p, d'.path = some p →
      v.placeAt (a.clause.start?.or (lastStart as)) = .ok p.origin)
    (finish : v.wholeAt (a.clause.target?.or (lastTarget as)) = .ok d'.toObject)
    (lead : Reads v (a.clause.lead?.or (lastLead as)) d'.last?)
    (closed : ∀ p, d'.path = some p → p.closed = (a.clause.closes || as.any (·.clause.closes))) :
    Routed v (as ++ [a]) d' := by
  refine ⟨?_, ?_, ?_, ?_, ?_⟩
  · rwa [lastStart_concat]
  · rwa [lastStart_concat]
  · rwa [lastTarget_concat]
  · rwa [lastLead_concat]
  · rwa [any_concat]

/-- A stretch: the path leads along it. -/
theorem Routed.stretch_step {path : Path K} (h : Routed v as d)
    (accepted : d.object.cls.accepts a.clause = true) (stretches : a.clause.stretches = true)
    (has : d.path = some path) (m : Move K) (direction : Direction) :
    Routed v (as ++ [a])
      { d with path := some { path.addMove m with direction := direction } } := by
  obtain ⟨pos, c⟩ := a
  have other := d.arc_ne_of_stretches stretches accepted
  have apart : c.start? = none ∧ c.target? = none ∧ c.lead? = some c ∧ c.closes = false := by
    cases c <;> first | exact ⟨rfl, rfl, rfl, rfl⟩ | cases stretches
  obtain ⟨noStart, noTarget, leads, stays⟩ := apart
  refine .concat ?_ ?_ ?_ ?_ ?_
  · rw [noStart]
    exact h.start
  · rintro _ ⟨⟩
    rw [noStart]
    exact (path.origin_addMove m).symm ▸ h.origin path has
  · rw [noTarget]
    exact h.finish
  · obtain ⟨ms, last⟩ := path.last?_addMove m
    rw [leads, last?, if_neg other]
    change Reads v (some c) (path.addMove m).last?
    rw [last]
    exact .stretch stretches m ms
  · rintro _ ⟨⟩
    rw [stays]
    exact (path.closed_addMove m).trans (h.closed path has)

/-- A clause that goes on with the path. -/
theorem Routed.lead_step (h : Routed v as d) (accepted : d.object.cls.accepts a.clause = true)
    (leads : d.Leads v a.clause d') : Routed v (as ++ [a]) d' := by
  obtain ⟨pos, c⟩ := a
  cases leads with
  | @start q path p whole has place known =>
    refine .concat known ?_ h.finish ?_ ?_
    · rintro _ ⟨⟩
      exact congrArg (· >>= fun p => .ok (some p)) place
    · exact reads_of_path (q := path.setOrigin p) has rfl h.lead
    · rintro _ ⟨⟩
      exact h.closed path has
  | arc arc place known =>
    refine .concat h.start h.origin known ?_ h.closed
    rw [last?, if_pos arc]
    exact .target place
  | @target q path p whole other has place known =>
    refine .concat h.start ?_ known ?_ ?_
    · rintro _ ⟨⟩
      rw [Path.origin_addTarget]
      exact h.origin path has
    · rw [last?, if_neg other]
      change Reads v (some (.target q)) (path.addTarget p).last?
      rw [path.last?_addTarget]
      exact .target place
    · rintro _ ⟨⟩
      rw [Path.closed_addTarget]
      exact h.closed path has
  | @next path path' has ended =>
    obtain ⟨-, rfl⟩ := Path.next?_eq_some ended
    refine .concat h.start ?_ h.finish ?_ ?_
    · rintro _ ⟨⟩
      exact h.origin path has
    · exact reads_of_path has path.last?_beginSegment h.lead
    · rintro _ ⟨⟩
      exact h.closed path has
  | stretch stretches has m direction =>
    exact h.stretch_step accepted stretches has m direction

/-- Any other clause. -/
theorem Routed.other_step (h : Routed v as d) (other : a.clause.leads = false)
    (effect : d.Effect v a.clause d') : Routed v (as ++ [a]) d' := by
  obtain ⟨cls, start, finish, arcEnd, path⟩ := effect.keeps_route other
  have apart : a.clause.start? = none ∧ a.clause.target? = none ∧ a.clause.lead? = none := by
    cases hc : a.clause <;> rw [hc] at other <;> first | exact ⟨rfl, rfl, rfl⟩ | cases other
  obtain ⟨noStart, noTarget, noLead⟩ := apart
  -- A closed path is the same path, but for being closed.
  have kept : ∀ p', d'.path = some p' → ∃ p, d.path = some p ∧ p'.origin = p.origin ∧
      p'.closed = (a.clause.closes || p.closed) := by
    intro p' hp'
    rw [path] at hp'
    split at hp'
    · rename_i closes
      obtain ⟨p, has, rfl⟩ := Option.map_eq_some_iff.1 hp'
      exact ⟨p, has, rfl, by rw [closes]; rfl⟩
    · rename_i stays
      exact ⟨p', hp', rfl, by rw [Bool.eq_false_iff.2 stays]; rfl⟩
  refine .concat ?_ ?_ ?_ ?_ ?_
  · rw [noStart, start]
    exact h.start
  · intro p' hp'
    obtain ⟨p, has, origin, -⟩ := kept p' hp'
    rw [noStart, origin]
    exact h.origin p has
  · rw [noTarget, finish]
    exact h.finish
  · have last : d'.path.bind Path.last? = d.path.bind Path.last? := by
      rw [path]
      split
      · rw [Option.bind_map]
        rfl
      · rfl
    rw [noLead, last?, cls, arcEnd, last]
    exact h.lead
  · intro p' hp'
    obtain ⟨p, has, -, closed⟩ := kept p' hp'
    rw [closed, h.closed p has]

/-- Nothing is said of the route at first. -/
theorem begin_routed (id : Nat) (cls : ObjectClass) (direction : Direction) :
    Ensures (Routed v []) (Draft.begin v id cls direction) := by
  have plain : ∀ (o : Object K) (path : Option (Path K)),
      (∀ p, path = some p → p.origin = none ∧ p.last? = none ∧ p.closed = false) →
      Routed v [] { object := o, path := path } := fun o path bare => by
    refine ⟨rfl, fun p hp => ?_, rfl, ?_, fun p hp => (bare p hp).2.2⟩
    · rw [(bare p hp).1]
      rfl
    · suffices none : last? { object := o, path := path } = none from none ▸ .none
      rw [last?]
      split
      · rfl
      · exact Option.bind_eq_none_iff.2 fun p hp => (bare p hp).2.1
  refine .andThen fun _ => .andThen fun _ => .andThen fun _ => .andThen fun _ => ?_
  refine .ite (.andThen fun unit => .ok (plain _ _ ?_)) (.ok (plain _ _ nofun))
  rintro p ⟨⟩
  exact ⟨rfl, rfl, rfl⟩

/-- In the end each part of the route is as the last clause says that speaks of it. -/
theorem applyAll_routed {plain : Draft K} (begun : Routed v [] plain) (as : List Attribute) :
    Ensures (Routed v as) (Draft.applyAll v plain as) := by
  refine plain.applyAll_steps v begun (fun as a d h accepted d' hd => ?_) as
  cases leads : a.clause.leads with
  | true => exact h.lead_step accepted (d.applyClause_leads v leads d' hd)
  | false => exact h.other_step leads (applyClause_effect v d a.clause d' hd)

end Routed

end Draft

end DiagramScript
