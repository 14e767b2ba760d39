import DiagramScript.Proofs.DeclaredObjects
import DiagramScript.Proofs.DeclaredTexts
import DiagramScript.Proofs.ExactNumbers
import DiagramScript.Proofs.Routes
import DiagramScript.Proofs.Stacking
import DiagramScript.Proofs.VisitedObjects

/-!
# Closed paths

Whether a path is closed is written down twice: in the style of its object, which is copied with the
object and decides how it is drawn, and in the path itself, which is not copied and decides whether
it returns to its start.  The two go together as long as a path that is told to close has a route of
its own, and one that copies another has not.

* `Point.Twin` — two points that are calculated alike; exact ones are equal.
* `ReturnsToStart`, `ClosedUp` — paths whose last point is the twin of the first.
* `Draft.Rounds`, `Draft.placePath_closedUp` — a draft with such a path.
* `Draft.Closing`, `Draft.applyAll_closing` — what the clauses of a declaration make of style and
  path.
* `Object.ClosesUp`, `Declaration.inStep_keeps` — a closed style is that of a path that returns, as
  long as all declarations keep style and path in step.
* `Registry.closesOwn_settles` — a path that is told to close, and goes its own way, returns.
* `Diagram.compile_closesAsDeclared` — the closed paths of every diagram.
-/

namespace DiagramScript

variable {K : Type} [Arith K]

/-! ## Points -/

/-- Whether two points are equal, or are calculated alike from such points. -/
inductive Point.Twin : Point K → Point K → Prop where
  /-- They are one point. -/
  | refl (p : Point K) : Twin p p
  /-- Their coordinates are equal. -/
  | same {p q : Point K} (h : q.same p = true) : Twin p q
  /-- They have been moved alike. -/
  | shift {p q : Point K} (dx dy : K) (h : Twin p q) : Twin (p.shift dx dy) (q.shift dx dy)
  /-- They have been written down. -/
  | stamp {p q : Point K} (m n : Mark) (h : Twin p q) : Twin (p.stamp m) (q.stamp n)
  /-- One is as far from the other as two such points are from each other. -/
  | copy {p q : Point K} (o : Point K) (h : Twin p q) : Twin o (o.plus ⟨q.x - p.x, q.y - p.y⟩)

/-- Exact twins are equal. -/
theorem Point.Twin.eq {K : Type} [ExactNumber K] {p q : Point K} (h : Twin p q) : p = q := by
  induction h with
  | refl p => rfl
  | same h =>
    rw [Point.same, Bool.and_eq_true] at h
    exact Point.ext (of_decide_eq_true h.1).symm (of_decide_eq_true h.2).symm
  | shift dx dy h ih => rw [ih]
  | stamp m n h ih => rw [Point.stamp_eq, Point.stamp_eq, ih]
  | copy o h ih =>
    rw [ih]
    exact Point.ext (by simp [Point.plus, Point.shift]) (by simp [Point.plus, Point.shift])

/-- Whether the last of some points is the twin of the first. -/
def ReturnsToStart (points : List (Point K)) : Prop :=
  ∃ first last, points.head? = some first ∧ points.getLast? = some last ∧ first.Twin last

/-- Whether some points are those of a path that returns to its start.  There and back it takes
three of them. -/
structure ClosedUp (points : List (Point K)) : Prop where
  /-- The path leads anywhere. -/
  two : 2 ≤ points.length
  /-- It returns. -/
  returns : 2 < points.length → ReturnsToStart points

/-- The ways from the first of some points to the others, if there are any. -/
def waysFromStart : List (Point K) → List (Point K)
  | first :: second :: rest => (second :: rest).map fun p => ⟨p.x - first.x, p.y - first.y⟩
  | _ => []

theorem waysFromStart_ne_nil {points : List (Point K)} (h : 2 ≤ points.length) :
    waysFromStart points ≠ [] := by
  match points, h with
  | first :: second :: rest, _ => exact List.cons_ne_nil _ _

namespace ClosedUp

variable {points : List (Point K)}

/-- A path that returns still does so after it has been moved. -/
theorem shift (h : ClosedUp points) (dx dy : K) : ClosedUp (points.map (·.shift dx dy)) where
  two := h.two.trans_eq (List.length_map _).symm
  returns more := by
    obtain ⟨first, last, head, tail, twin⟩ := h.returns (more.trans_eq (List.length_map _))
    refine ⟨first.shift dx dy, last.shift dx dy, ?_, ?_, twin.shift dx dy⟩
    · rw [List.head?_map, head, Option.map_some]
    · rw [List.getLast?_map, tail, Option.map_some]

theorem stamp (h : ClosedUp points) (m : Nat → Mark) :
    ClosedUp (points.mapIdx fun i p => p.stamp (m i)) where
  two := h.two.trans_eq List.length_mapIdx.symm
  returns more := by
    obtain ⟨first, last, head, tail, twin⟩ := h.returns (more.trans_eq List.length_mapIdx)
    refine ⟨first.stamp (m 0), last.stamp (m (points.length - 1)), ?_, ?_, twin.stamp _ _⟩
    · rw [List.head?_mapIdx, head, Option.map_some]
    · rw [List.getLast?_mapIdx, tail, Option.map_some]

/-- A path that goes the same ways from somewhere else returns as well. -/
theorem retrace (h : ClosedUp points) (origin : Point K) :
    ClosedUp (origin :: (waysFromStart points).map fun v => origin.plus v) := by
  obtain ⟨two, returns⟩ := h
  match points, two with
  | first :: second :: rest, two =>
    refine ⟨by simp [waysFromStart], fun more => ?_⟩
    obtain ⟨first', last, head, tail, twin⟩ := returns (by simpa [waysFromStart] using more)
    cases head
    refine ⟨origin, _, rfl, ?_, twin.copy origin⟩
    rw [waysFromStart, List.map_map, List.getLast?_cons, List.getLast?_map]
    rw [List.getLast?_cons_cons] at tail
    rw [tail]
    rfl

end ClosedUp

namespace Path

/-- Closing a path lets it return. -/
theorem closeUp_closedUp (first : Point K) {rest : List (Point K)} (led : rest ≠ []) :
    ClosedUp (closeUp true (first :: rest)) := by
  have two : 2 ≤ (first :: rest).length := Nat.succ_le_succ (List.length_pos_iff.2 led)
  unfold closeUp
  rw [List.head?_cons, List.getLast?_cons]
  dsimp only
  split_ifs with apart
  · exact ⟨List.length_append ▸ two.trans (Nat.le_add_right ..),
      fun _ => ⟨first, first, rfl, List.getLast?_concat, .refl first⟩⟩
  · refine ⟨two, fun more => ⟨first, _, rfl, List.getLast?_cons, .same ?_⟩⟩
    rw [decide_eq_true more] at apart
    simpa using apart

/-- A path that is told to close returns. -/
theorem build_closedUp {p : Path K} (closed : p.closed = true) (start : Point K) :
    Ensures (fun r => ClosedUp r.1) (p.build start) := by
  refine .andThen fun r => ?_
  dsimp only
  rw [closed]
  split_ifs with bare
  · exact .ok (closeUp_closedUp _ (List.cons_ne_nil _ []))
  · exact .ok (closeUp_closedUp _ fun none => bare (none ▸ rfl))

end Path

/-! ## Placement -/

namespace Draft

/-- Whether the path of a draft returns: it is told to, and goes its own way; or it goes the way of
another one that does. -/
inductive Rounds (d : Draft K) (path : Path K) : Prop where
  /-- It goes its own way. -/
  | own (closed : path.closed = true) (led : d.copiedPath = [] ∨ path.isBare = false)
  /-- It goes the way of another one. -/
  | copied (bare : path.isBare = true) {points : List (Point K)} (closed : ClosedUp points)
    (ways : d.copiedPath = waysFromStart points)

/-- Such a path has the points of one. -/
theorem pathPoints_closedUp {d : Draft K} (line : d.object.cls ≠ .arc) {path : Path K}
    (h : d.Rounds path) (start : Point K) (serial : Nat) :
    Ensures (fun r => ClosedUp r.1) (d.pathPoints path start serial) := by
  unfold pathPoints
  dsimp only
  rw [if_neg line]
  cases h with
  | own closed led =>
    have own : ¬(!d.copiedPath.isEmpty && path.isBare) = true := by
      rcases led with none | led
      · simp [none]
      · simp [led]
    rw [if_neg own]
    exact (Path.build_closedUp (p := path.setOrigin _) closed _).mapError _
  | copied bare closed ways =>
    have copies : (!d.copiedPath.isEmpty && path.isBare) = true := by
      rw [ways, bare, List.isEmpty_eq_false_iff.2 (waysFromStart_ne_nil closed.two)]
      rfl
    rw [if_pos copies, ways]
    exact .ok (closed.retrace _)

theorem along_closedUp {points : List (Point K)} (h : ClosedUp points) (d : Draft K) :
    ClosedUp (d.along points).object.points := by
  obtain ⟨_, _, _, moved, same, rfl | ⟨-, dx, dy, rfl⟩⟩ := d.exists_along_eq points
  · rwa [same]
  · rw [same]
    exact h.shift dx dy

/-- It keeps them when it is placed, unless its ends are cut off. -/
theorem placePath_closedUp {d : Draft K} (whole : d.chop = false) (line : d.object.cls ≠ .arc)
    (h : ∀ path, d.path = some path → d.Rounds path) (s : Setting K) :
    Ensures (fun p => ClosedUp p.1.object.points) (d.placePath s) := by
  rw [placePath_eq, whole]
  split
  · exact .error _
  · rename_i path has
    refine .andThen fun start => .bind (pathPoints_closedUp line (h path has) start s.serial) ?_
    exact fun built closed => .ok (along_closedUp closed d)

/-- Placing an object does not close it. -/
theorem place_closed (d : Draft K) (s : Setting K) :
    Ensures (fun p => p.1.object.style.closed = d.object.style.closed) (d.place s) := by
  intro p hp
  obtain ⟨paint, same⟩ := (d.place_redraws s p hp).exists_style
  rw [same]

end Draft

/-! ## Clauses -/

/-- Whether objects of a class can be closed. -/
def ObjectClass.closable : ObjectClass → Bool
  | .line | .arrow | .spline => true
  | _ => false

theorem ObjectClass.closable_of_accepts {cls : ObjectClass} {c : Clause}
    (accepted : cls.accepts c = true) (closes : c.closes = true) : cls.closable = true := by
  have takers : cls.accepts (.flag .close) = true → cls.closable = true := by
    cases cls <;> decide
  cases c with
  | flag what =>
    cases what with
    | close => exact takers accepted
    | _ => cases closes
  | _ => cases closes

/-- What can be closed is a path, and no arc. -/
theorem ObjectClass.line_of_closable {cls : ObjectClass} (h : cls.closable = true) :
    cls.isLine = true ∧ cls ≠ .arc := by
  cases cls <;> first | exact ⟨rfl, by decide⟩ | cases h

/-- Whether a clause copies another object. -/
def Clause.copies : Clause → Bool
  | .same _ => true
  | _ => false

/-- Whether it names that object. -/
def Clause.copiesNamed : Clause → Bool
  | .same (some _) => true
  | _ => false

/-- Whether an object is closed just where its path returns.  Objects that cannot be closed may be
exempt, as long as no path copies them. -/
structure Object.ClosesUp (pathsName : Bool) (o : Object K) : Prop where
  /-- The path of an object that is closed returns. -/
  round : o.cls.closable = true → o.style.closed = true → ClosedUp o.points
  /-- No other object is closed. -/
  plain : pathsName = true → o.style.closed = true → o.cls.closable = true

namespace Draft

variable {v : View K} {d : Draft K}

/-- A clause that copies nothing closes the draft, or else leaves it as closed as it was. -/
theorem applyClause_closes (v : View K) (d : Draft K) {c : Clause} (own : c.copies = false) :
    Ensures (fun d' => d'.object.cls = d.object.cls ∧
      d'.object.style.closed = (d.object.style.closed || c.closes) ∧
      d'.copiedPath = d.copiedPath) (d.applyClause v c) := by
  have kept : ∀ {d' : Draft K} {c : Clause}, d'.object = d.object → c.closes = false →
      d'.copiedPath = d.copiedPath → d'.object.cls = d.object.cls ∧
        d'.object.style.closed = (d.object.style.closed || c.closes) ∧
        d'.copiedPath = d.copiedPath := fun object stays copied => by
    rw [object, stays, Bool.or_false]
    exact ⟨rfl, rfl, copied⟩
  cases leads : c.leads with
  | true =>
    have stays : c.closes = false := by
      cases c <;> first | rfl | cases leads
    intro d' hd
    cases d.applyClause_leads v leads d' hd <;> exact kept rfl stays rfl
  | false =>
    have restyled : ∀ d' : Draft K, d'.object.style.closed = d.object.style.closed →
        d'.object.style.closed = (d.object.style.closed || false) := fun d' same =>
      same.trans (Bool.or_false _).symm
    cases c with
    | text | arrow => exact .ok ⟨rfl, restyled _ rfl, rfl⟩
    | size what value =>
      rw [applyClause, setDimension_eq]
      refine .andThen fun _ => .andThen fun x => .ok ?_
      obtain ⟨_, _, _, _, _, resized⟩ := d.exists_resize_eq what x
      rw [resized]
      exact ⟨rfl, restyled _ rfl, rfl⟩
    | flag what =>
      cases what with
      | close => exact .ok ⟨rfl, (Bool.or_true _).symm, rfl⟩
      | _ => exact .ok ⟨rfl, restyled _ rfl, rfl⟩
    | thickness | fill | color =>
      exact .andThen fun _ => .andThen fun _ => .ok ⟨rfl, restyled _ rfl, rfl⟩
    | dotted | dashed | located | anchored => exact .andThen fun _ => .ok ⟨rfl, restyled _ rfl, rfl⟩
    | same => cases own
    | _ => cases leads

/-- A draft copies a path only if a clause says so. -/
theorem applyAll_copiedPath (none : d.copiedPath = []) (as : List Attribute) :
    Ensures (fun d' => as.any (·.clause.copies) = false → d'.copiedPath = [])
      (Draft.applyAll v d as) := by
  refine d.applyAll_steps v (P := fun as d' => as.any (·.clause.copies) = false →
    d'.copiedPath = []) (fun _ => none) (fun as a d h _ d' hd plain => ?_) as
  rw [any_concat, Bool.or_eq_false_iff] at plain
  exact (applyClause_closes v d plain.1 d' hd).2.2.trans (h plain.2)

/-- Where it comes from that a draft is closed: a clause says so, or it is copied, along with the
path. -/
structure Closing (pathsName : Bool) (as : List Attribute) (d : Draft K) : Prop where
  /-- A path that is closed has been told to, or copies a path that returns. -/
  round : d.object.cls.closable = true → d.object.style.closed = true →
    as.any (·.clause.closes) = true ∨
      ∃ points, ClosedUp points ∧ d.copiedPath = waysFromStart points
  /-- No other object is closed. -/
  plain : pathsName = true → d.object.style.closed = true → d.object.cls.closable = true

/-- A clause that copies an object which is closed just where its path returns. -/
theorem Closing.copyFrom {pathsName : Bool} {as : List Attribute} {s : Object K}
    (closes : s.ClosesUp pathsName)
    (like : s.cls = d.object.cls ∨ d.object.cls.closable = pathsName) :
    (d.copyFrom s).Closing pathsName as := by
  have alike : pathsName = true → s.style.closed = true →
      s.cls.closable = true ∧ d.object.cls.closable = true := fun names closed => by
    have round := closes.plain names closed
    refine ⟨round, ?_⟩
    rcases like with same | named
    · exact same ▸ round
    · exact named.trans names
  refine ⟨fun line closed => .inr ?_, fun names closed => (alike names closed).2⟩
  have line : d.object.cls.closable = true := line
  have source : s.cls.closable = true := by
    rcases like with same | named
    · exact same ▸ line
    · exact (alike (named.symm.trans line) closed).1
  have returns := closes.round source closed
  refine ⟨s.points, returns, ?_⟩
  obtain ⟨two, -⟩ := returns
  have both : (d.object.cls.isLine && s.cls.isLine) = true := by
    rw [(ObjectClass.line_of_closable line).1, (ObjectClass.line_of_closable source).1]
    rfl
  unfold Draft.copyFrom
  rw [both]
  match s.points, two with
  | first :: second :: rest, _ => rfl

/-- A clause that copies nothing. -/
theorem Closing.step_own {pathsName : Bool} {as : List Attribute} {a : Attribute}
    (h : d.Closing pathsName as) (accepted : d.object.cls.accepts a.clause = true)
    (own : a.clause.copies = false) :
    Ensures (Closing pathsName (as ++ [a])) (d.applyClause v a.clause) := by
  intro d' hd
  obtain ⟨cls, closed, copied⟩ := applyClause_closes v d own d' hd
  refine ⟨fun line now => ?_, fun names now => ?_⟩
  · rw [any_concat, copied]
    rw [closed, Bool.or_eq_true] at now
    rcases now with before | closes
    · refine (h.round (cls ▸ line) before).imp_left fun closes => ?_
      rw [closes, Bool.or_true]
    · exact .inl (by rw [closes, Bool.true_or])
  · rw [cls]
    rw [closed, Bool.or_eq_true] at now
    exact now.elim (h.plain names) (ObjectClass.closable_of_accepts accepted)

/-- What all clauses together make of it. -/
theorem applyAll_closing {pathsName : Bool} (sound : v.registry.IsSound)
    (old : ∀ id o, v.registry.Finished id o → o.ClosesUp pathsName)
    (unclosed : d.object.style.closed = false) (as : List Attribute)
    (named : as.any (·.clause.copiesNamed) = true → d.object.cls.closable = pathsName) :
    Ensures (Closing pathsName as) (Draft.applyAll v d as) := by
  have fresh : ∀ {P : Prop}, d.object.style.closed = true → P := fun closed => by
    rw [unclosed] at closed
    cases closed
  have steps := d.applyAll_steps v (P := fun as d' => d'.object.cls = d.object.cls ∧
    ((as.any (·.clause.copiesNamed) = true → d.object.cls.closable = pathsName) →
      d'.Closing pathsName as)) ⟨rfl, fun _ => ⟨fun _ => fresh, fun _ => fresh⟩⟩ ?_ as
  · exact fun d' hd => (steps d' hd).2 named
  rintro as ⟨pos, c⟩ d₁ ⟨cls, h⟩ accepted d₂ hd
  refine ⟨(d₁.applyClause_spares v accepted d₂ hd).cls.trans cls, fun named => ?_⟩
  rw [any_concat as ⟨pos, c⟩ Clause.copiesNamed] at named
  cases copies : c.copies with
  | true =>
    cases c with
    | same ref =>
      obtain ⟨s, source, hd⟩ := exists_of_bind_eq_ok hd
      cases hd
      obtain ⟨⟨id, finished⟩, ofClass⟩ := d₁.sourceOf_finished sound ref s source
      refine .copyFrom (old id s finished) ?_
      cases ref with
      | none => exact .inl (ofClass rfl)
      | some ref => exact .inr ((congrArg _ cls).trans (named rfl))
    | _ => cases copies
  | false =>
    have before := h fun n => named (by rw [n, Bool.or_true])
    exact before.step_own accepted copies d₂ hd

end Draft

/-! ## Declarations -/

namespace Declaration

variable (decl : Declaration)

/-- Whether a declaration says that the path of its object returns. -/
def closes : Bool := decl.attributes.any (·.clause.closes)

/-- Whether it copies another object. -/
def copies : Bool := decl.attributes.any (·.clause.copies)

/-- Whether it says where its path leads. -/
def leads : Bool := (lastLead decl.attributes).isSome

/-- Whether it cuts off the ends of its path. -/
def cutsOff : Bool := decl.attributes.any (·.clause.cutsOff)

/-- Whether a declaration closes a path that is all its own. -/
structure ClosesOwn : Prop where
  /-- It declares a path that can be closed. -/
  line : decl.cls.closable = true
  /-- It says that the path returns. -/
  closes : decl.closes = true
  /-- It does not cut off its ends. -/
  whole : decl.cutsOff = false
  /-- The path goes no other path's way. -/
  own : decl.leads = true ∨ decl.copies = false

/-- Whether a declaration closes the style of its object just where it closes the path.  Either
paths or other objects may name what they copy. -/
structure InStep (pathsName : Bool) : Prop where
  /-- If it names the object that it copies, its own is of the kind that may. -/
  named : decl.attributes.any (·.clause.copiesNamed) = true → decl.cls.closable = pathsName
  /-- It cuts off no path that is closed, or that may be. -/
  whole : decl.cls.closable = true → (decl.closes || decl.copies) = true → decl.cutsOff = false
  /-- It closes the copy of a path just where this leads somewhere else. -/
  route : decl.cls.closable = true → decl.copies = true → decl.closes = decl.leads

end Declaration

namespace Draft

variable {v : View K} {d : Draft K} {decl : Declaration}

theorem Reads.isSome_eq {c : Option Clause} {last : Option (Segment K)}
    (h : Reads v c last) : c.isSome = last.isSome := by
  cases h <;> rfl

/-- What a draft has to do with the route that a declaration describes. -/
structure Described (decl : Declaration) (d : Draft K) : Prop where
  /-- It is of the class that was asked for. -/
  cls : d.object.cls = decl.cls
  /-- It stays whole unless a clause says otherwise. -/
  whole : decl.cutsOff = false → d.chop = false
  /-- It copies a path only if a clause says so. -/
  plain : decl.copies = false → d.copiedPath = []
  /-- Its path returns if a clause says so, and goes its own way if one does. -/
  route : d.object.cls ≠ .arc → ∀ path, d.path = some path →
    path.closed = decl.closes ∧ path.isBare = !decl.leads

/-- Whatever is declared is described. -/
theorem begin_described (sound : v.registry.IsSound) (id : Nat) (decl : Declaration)
    (direction : Direction) : Ensures (fun plain => plain.object.cls = decl.cls ∧
      plain.object.style.closed = false ∧
      Ensures (Described decl) (Draft.applyAll v plain decl.attributes))
      (Draft.begin v id decl.cls direction) := by
  intro plain begun
  have cls : plain.object.cls = decl.cls :=
    congrArg Standing.cls (begin_standing v id decl.cls direction plain begun)
  have unclosed : Ensures (fun d => d.object.style.closed = false ∧ d.copiedPath = [])
      (Draft.begin v id decl.cls direction) := by
    have style : Ensures (fun style => style.closed = false) (defaultStyle v decl.cls) :=
      .andThen fun _ => .andThen fun _ => .andThen fun _ => .andThen fun _ => .andThen fun _ =>
        .ok rfl
    refine .andThen fun _ => .andThen fun _ => .andThen fun _ => .bind style fun style h => ?_
    exact .ite (.andThen fun _ => .ok ⟨h, rfl⟩) (.ok ⟨h, rfl⟩)
  obtain ⟨unclosed, uncopied⟩ := unclosed plain begun
  refine ⟨cls, unclosed, fun full applied => ?_⟩
  have sketched := applyAll_sketched sound (begin_sketched _ id decl.cls direction plain begun)
    decl.attributes full applied
  have routed := applyAll_routed (begin_routed id decl.cls direction plain begun) decl.attributes
    full applied
  refine ⟨?_, fun whole => ?_, ?_, fun other path has => ?_⟩
  · exact (plain.applyAll_spares v _ full applied).cls.trans cls
  · exact Bool.eq_false_iff.2 fun cut => Bool.eq_false_iff.1 whole (sketched.chop cut)
  · exact applyAll_copiedPath uncopied _ full applied
  · refine ⟨routed.closed path has, ?_⟩
    have reads := routed.lead.isSome_eq
    rw [last?_of_path other has] at reads
    rw [Declaration.leads, reads, Bool.eq_iff_iff, Path.isBare_iff_last?]
    simp

/-- A path that is closed as its route demands has been placed with the points for it. -/
theorem Described.place_closedUp (h : d.Described decl) (line : decl.cls.closable = true)
    (whole : decl.cutsOff = false)
    (returns : decl.ClosesOwn ∨ decl.leads = false ∧
      ∃ points, ClosedUp points ∧ d.copiedPath = waysFromStart points) (s : Setting K) :
    Ensures (fun p => ClosedUp p.1.object.points) (d.place s) := by
  obtain ⟨isLine, other⟩ := ObjectClass.line_of_closable (h.cls ▸ line)
  rw [place, if_pos isLine]
  refine placePath_closedUp (h.whole whole) other (fun path has => ?_) s
  obtain ⟨closed, bare⟩ := h.route other path has
  rcases returns with own | ⟨led, points, round, ways⟩
  · refine .own (closed.trans own.closes) (own.own.elim (fun led => .inr ?_) fun plain => .inl ?_)
    · rw [bare, led]
      rfl
    · exact h.plain plain
  · refine .copied ?_ round ways
    rw [bare, led]
    rfl

end Draft

namespace Drawing

variable {t : Resources K} {d : Drawing K} (decl : Declaration)

/-- A path that is told to close, and is all its own, returns. -/
theorem draft_closedUp (sound : d.registry.IsSound) (id : Nat) (own : decl.ClosesOwn) :
    Ensures (fun p => ClosedUp p.1.object.points) (d.draft t id decl.cls decl.attributes) := by
  refine .bind (Draft.begin_described sound id decl d.cursor.direction) fun plain hb => ?_
  obtain ⟨-, -, described⟩ := hb
  exact .bind described fun full hf => hf.place_closedUp own.line own.whole (.inl own) _

/-- Where all older objects are closed just where their paths return, so is a new one that keeps in
step. -/
theorem draft_closesUp {pathsName : Bool} (sound : d.registry.IsSound)
    (old : ∀ id o, d.registry.Finished id o → o.ClosesUp pathsName) (id : Nat)
    (inStep : decl.InStep pathsName) :
    Ensures (fun p => p.1.object.ClosesUp pathsName) (d.draft t id decl.cls decl.attributes) := by
  refine .bind (Draft.begin_described sound id decl d.cursor.direction) fun plain hb => ?_
  obtain ⟨cls, unclosed, described⟩ := hb
  intro p hp
  obtain ⟨full, applied, placed⟩ := exists_of_bind_eq_ok hp
  have described := described full applied
  have closing := Draft.applyAll_closing (v := d.view t) sound old unclosed decl.attributes
    (fun named => cls ▸ inStep.named named) full applied
  have kept : p.1.object.cls = full.object.cls :=
    (full.place_redraws _ p placed).cls
  have style := full.place_closed _ p placed
  constructor
  · intro line closed
    rw [kept] at line
    rw [style] at closed
    have line' : decl.cls.closable = true := described.cls ▸ line
    rcases closing.round line closed with closes | ⟨points, round, ways⟩
    · have whole := inStep.whole line' (Bool.or_eq_true_iff.2 (.inl closes))
      refine described.place_closedUp line' whole (.inl ⟨line', closes, whole, ?_⟩) _ p placed
      cases copies : decl.copies with
      | false => exact .inr rfl
      | true => exact .inl ((inStep.route line' copies).symm.trans closes)
    · have copies : decl.copies = true := Bool.eq_true_of_not_eq_false fun plain =>
        waysFromStart_ne_nil round.two (ways.symm.trans (described.plain plain))
      have whole := inStep.whole line' (Bool.or_eq_true_iff.2 (.inr copies))
      refine described.place_closedUp line' whole ?_ _ p placed
      have route := (inStep.route line' copies).symm
      cases closes : decl.closes with
      | true => exact .inl ⟨line', closes, whole, .inl (route.trans closes)⟩
      | false => exact .inr ⟨route.trans closes, points, round, ways⟩
  · intro names closed
    rw [kept]
    exact closing.plain names (style ▸ closed)

end Drawing

/-- Objects are closed just where their paths return, as long as all declarations keep in step. -/
theorem Declaration.inStep_keeps (t : Resources K) (pathsName : Bool) :
    Declaration.Keeps t (fun decl => decl.InStep pathsName) (Object.ClosesUp pathsName) where
  moved dx dy serial h :=
    ⟨fun line closed => ((h.round line closed).shift dx dy).stamp _, h.plain⟩
  stamped serial h := ⟨fun line closed => (h.round line closed).stamp _, h.plain⟩
  known _ _ _ _ _ h := ⟨h.round, h.plain⟩
  declared {d cls label attributes} sound old inStep :=
    Drawing.draft_closesUp ⟨cls, label, attributes⟩ sound
      (fun _ o known => old o (List.mem_of_getElem? known.of_create.2)) _ inStep
  grouped {d inner origin label attributes} sound old inStep := by
    have older : ∀ id o, (d.create .container).2.registry.Finished id o → o.ClosesUp pathsName :=
      fun _ o known => old o (List.mem_of_getElem? known.of_create.2)
    refine .bind (Draft.begin_described sound _ ⟨.container, label, attributes⟩ _) ?_
    rintro plain ⟨cls, unclosed, -⟩
    have same : ∀ box, (Drawing.enclose plain origin box).object.cls = .container ∧
        (Drawing.enclose plain origin box).object.style.closed = false := fun box => by
      cases box <;> exact ⟨cls, unclosed⟩
    intro p hp
    obtain ⟨full, applied, hp⟩ := exists_of_bind_eq_ok hp
    obtain ⟨placed, moved, hp⟩ := exists_of_bind_eq_ok hp
    cases hp
    obtain ⟨cls, unclosed⟩ := same (Drawing.scopeBox (d.create .container).2.registry inner)
    have closing := Draft.applyAll_closing (v := (d.create .container).2.view t) sound older
      unclosed attributes (fun named => (congrArg _ cls).trans (inStep.named named)) full applied
    obtain ⟨center, rfl⟩ := full.placeFramed_recenters _ _ moved
    have group : full.object.cls = .container :=
      (Draft.applyAll_spares _ _ attributes full applied).cls.trans cls
    refine ⟨fun line => ?_, fun names closed => ?_⟩
    · have line : full.object.cls.closable = true := line
      rw [group] at line
      cases line
    · exact closing.plain names closed

/-- Whether the path of an object returns, if its declaration closes it and it is all its own. -/
def Registry.ClosesOwn (r : Registry K) (i : Nat) (decl : Declaration) : Prop :=
  ∃ o, r.arena[i]? = some o ∧ (decl.ClosesOwn → ClosedUp o.points)

/-- Such paths return, and stay so. -/
theorem Registry.closesOwn_settles (t : Resources K) :
    Declaration.Settles t (Registry.ClosesOwn (K := K)) where
  declared {d r draft exit n cls label attributes} reached drafted older found :=
    ⟨_, found, fun own => (Drawing.draft_closedUp ⟨cls, label, attributes⟩
      (reached.create_isSound cls) _ own _ drafted).stamp _⟩
  grouped drafted wraps := ⟨_, wraps.found, fun own => nomatch own.line⟩
  wrapped {after d' first group dx dy serial i decl} wraps hi hlt := by
    rintro ⟨o, ho, round⟩
    refine ⟨_, (wraps.moved i hi hlt).trans (congrArg _ ho), fun own => ?_⟩
    have still := round own
    rw [Object.enclosed, Object.carry]
    by_cases rests : (Arith.isZero dx && Arith.isZero dy) = true
    · rw [if_pos rests]
      exact still
    · rw [if_neg rests]
      exact (still.shift dx dy).stamp _
  later {r r' i decl} same := by
    rintro ⟨o, ho, round⟩
    exact ⟨o, (same i (Nat.le_refl i)).trans ho, round⟩

/-! ## Diagrams -/

/-- Whether an object ends where it starts, and whatever comes next is attached there. -/
structure Object.ComesBack (o : Object K) : Prop where
  /-- Its last point is the twin of its first. -/
  points : ReturnsToStart o.points
  /-- So are its ends. -/
  ends : (o.anchorPoint .start).Twin (o.anchorPoint .finish)
  /-- So is the point where the next object is attached, a path or a frame. -/
  next : ∀ (s : Setting K) (framed : Bool), s.cursor.flow = some o.id →
    s.view.registry.arena[o.id]? = some o →
    ∃ p, stackingStart s framed = .ok p ∧ (o.anchorPoint .start).Twin p

/-- A path that returns to its start does. -/
theorem Object.ComesBack.of_returns {o : Object K} (line : o.cls.isLine = true)
    (h : ReturnsToStart o.points) : o.ComesBack := by
  have ends : o.start.Twin o.finish := by
    obtain ⟨first, last, head, tail, twin⟩ := h
    obtain ⟨rest, points⟩ := List.head?_eq_some_iff.1 head
    rw [Object.start, Object.finish, line, tail, points]
    exact twin
  refine ⟨h, ends, fun s framed flow known => ⟨o.finish, ?_, ends⟩⟩
  rw [stackingStart, flow]
  dsimp only
  rw [Registry.object_eq_ok.2 known, ok_bind, if_pos line]

namespace Diagram

variable {t : Resources K} {source : String} {d : Diagram K}

/-- What some statements make of the closed paths of a diagram. -/
structure ClosesAsDeclared (d : Diagram K) (ss : List Statement) : Prop where
  /-- A line, arrow or spline comes back if its own declaration closes it, and it goes no other
  path's way. -/
  own : ∀ o ∈ d.allObjects, ∃ decl, (declarationsOf ss)[o.id]? = some decl ∧ decl.cls = o.cls ∧
    decl.label = o.label ∧ (decl.ClosesOwn → 2 < o.points.length → o.ComesBack)
  /-- If all declarations keep style and path in step, all come back whose style is closed. -/
  all : ∀ pathsName, (∀ decl ∈ declarationsOf ss, decl.InStep pathsName) → ∀ o ∈ d.allObjects,
    o.cls.closable = true → o.style.closed = true → 2 < o.points.length → o.ComesBack

/-- A closed line, arrow or spline ends where it starts, as long as style and path are closed
together. -/
theorem compile_closesAsDeclared (h : compile t source = .ok d) :
    ∃ ss, Program.ofSource t.colors source = .ok ss ∧ d.ClosesAsDeclared ss := by
  have forest : d.IsForest := by
    obtain ⟨_, _, -, hr, rfl⟩ := compile_eq_ok.1 h
    exact isForest_of_run hr
  obtain ⟨ss, statements, -, closes⟩ := compile_objects (Registry.closesOwn_settles t) h
  refine ⟨ss, statements, fun o ho => ?_, fun pathsName inStep o ho line closed more => ?_⟩
  · obtain ⟨decl, hdecl, cls, label, here, _, found, round⟩ := closes o ho
    cases here.symm.trans found
    refine ⟨decl, hdecl, cls.symm, label.symm, fun own more => ?_⟩
    exact .of_returns (cls ▸ (ObjectClass.line_of_closable own.line).1) ((round own).returns more)
  · obtain ⟨_, statements'', kept⟩ := compile_keeps (Declaration.inStep_keeps t pathsName) h
    cases statements.symm.trans statements''
    have closesUp := kept inStep o (forest.each.mem_iff.1 ho)
    exact .of_returns (ObjectClass.line_of_closable line).1
      ((closesUp.round line closed).returns more)

/-- A closed line, and a copy of it. -/
theorem compile_closesAsDeclared_copy : ∃ (d : Diagram MachineNumber) (ss : List Statement),
    compile Resources.standard "line right then up then left close; line same" = .ok d ∧
    d.allObjects.map (fun o => (o.cls, o.style.closed, o.points.length)) =
      [(.line, true, 5), (.line, true, 5)] ∧
    Program.ofSource .standard "line right then up then left close; line same" = .ok ss ∧
    d.ClosesAsDeclared ss ∧ ∀ o ∈ d.allObjects, o.ComesBack := by
  let ss : List Statement := [
    .object ⟨1, 1⟩ .line none [⟨⟨1, 6⟩, .direction .right none⟩, ⟨⟨1, 12⟩, .next⟩,
      ⟨⟨1, 17⟩, .direction .up none⟩, ⟨⟨1, 20⟩, .next⟩, ⟨⟨1, 25⟩, .direction .left none⟩,
      ⟨⟨1, 30⟩, .flag .close⟩],
    .object ⟨1, 37⟩ .line none [⟨⟨1, 42⟩, .same none⟩]]
  have statements :
      Program.ofSource .standard "line right then up then left close; line same" = .ok ss := by
    cbv
  have drawn : ((ofStatements (Resources.standard : Resources MachineNumber) ss).toOption.map
      fun d => d.allObjects.map fun o => (o.cls, o.style.closed, o.points.length)) =
        some [(.line, true, 5), (.line, true, 5)] := by
    decide +kernel
  obtain ⟨d, compiled, listed⟩ :=
    exists_compile_eq_ok (t := Resources.standard) statements drawn
  obtain ⟨ss', same, closes⟩ := compile_closesAsDeclared compiled
  cases statements.symm.trans same
  refine ⟨d, ss, compiled, listed, same, closes, fun o ho => ?_⟩
  have known : (o.cls, o.style.closed, o.points.length) ∈
      d.allObjects.map fun o => (o.cls, o.style.closed, o.points.length) :=
    List.mem_map_of_mem ho
  rw [listed] at known
  simp only [List.mem_cons, List.not_mem_nil, or_false, or_self, Prod.mk.injEq] at known
  obtain ⟨line, closed, five⟩ := known
  refine closes.all true (fun decl hd => ?_) o ho (line ▸ rfl) closed (by omega)
  simp only [ss, declarationsOf, Statement.declarations, List.cons_append, List.nil_append,
    List.mem_cons, List.not_mem_nil, or_false] at hd
  rcases hd with rfl | rfl
  · exact ⟨fun named => absurd named (by decide), fun _ _ => rfl,
      fun _ copies => absurd copies (by decide)⟩
  · exact ⟨fun named => absurd named (by decide), fun _ _ => rfl, fun _ _ => rfl⟩

/-- A line that copies a closed one, and goes its own way, is closed but does not come back. -/
theorem compile_closed_open : ∃ d : Diagram MachineNumber,
    compile Resources.standard
      "line right then up then left close\nline same right then up then left" = .ok d ∧
    ∃ o ∈ d.allObjects, o.cls = .line ∧ o.style.closed = true ∧ o.points.length = 4 ∧
      o.points.head? ≠ o.points.getLast? ∧ o.finish.same o.start = false := by
  let ss : List Statement := [
    .object ⟨1, 1⟩ .line none [⟨⟨1, 6⟩, .direction .right none⟩, ⟨⟨1, 12⟩, .next⟩,
      ⟨⟨1, 17⟩, .direction .up none⟩, ⟨⟨1, 20⟩, .next⟩, ⟨⟨1, 25⟩, .direction .left none⟩,
      ⟨⟨1, 30⟩, .flag .close⟩],
    .object ⟨2, 1⟩ .line none [⟨⟨2, 6⟩, .same none⟩, ⟨⟨2, 11⟩, .direction .right none⟩,
      ⟨⟨2, 17⟩, .next⟩, ⟨⟨2, 22⟩, .direction .up none⟩, ⟨⟨2, 25⟩, .next⟩,
      ⟨⟨2, 30⟩, .direction .left none⟩]]
  have statements : Program.ofSource .standard
      "line right then up then left close\nline same right then up then left" = .ok ss := by
    cbv
  have stays : ((ofStatements (Resources.standard : Resources MachineNumber) ss).toOption.map
      fun d => d.allObjects.any fun o => o.cls = .line ∧ o.style.closed = true ∧
        o.points.length = 4 ∧
        o.points.head?.map (·.y.value) ≠ o.points.getLast?.map (·.y.value) ∧
        o.finish.same o.start = false) = some true := by
    decide +kernel
  obtain ⟨d, compiled, known⟩ := exists_compile_eq_ok (t := Resources.standard) statements stays
  obtain ⟨o, ho, shape⟩ := List.any_eq_true.1 known
  obtain ⟨line, closed, four, apart, unlike⟩ := of_decide_eq_true shape
  exact ⟨d, compiled, o, ho, line, closed, four, fun h => apart (h ▸ rfl), unlike⟩

end Diagram

end DiagramScript
