import DiagramScript.Proofs.Continuation
import DiagramScript.Proofs.Remainder
import DiagramScript.Proofs.Rereading

/-!
# What is read can be written

Every expression and every position that a reader gives has a form of its own, so it can be written
as tokens and read again.

* `Yields` — a reading that gives something with a property, unless it fails.
* `readExpression_yields`, `readPosition_yields` — what is read has a form of its own.
* `reread_tokens` — what was read once is read from its own tokens again, up to the places in it.
-/

namespace DiagramScript

variable {α β : Type} {P : α → Prop} {Q : β → Prop} {n : Nat}

/-! ## Readings with a property -/

/-- A reading that gives something with a property, unless it fails. -/
def Yields (P : α → Prop) (r : Except Diagnostic (α × List Token)) : Prop :=
  ∀ v rest, r = .ok (v, rest) → P v

/-- The same for a reading that may read nothing. -/
def Yields? (P : α → Prop) (r : Except Diagnostic (Option (α × List Token))) : Prop :=
  ∀ v rest, r = .ok (some (v, rest)) → P v

namespace Yields

theorem error (d : Diagnostic) : Yields P (.error d) := fun _ _ h => nomatch h

theorem ok {v : α} (h : P v) (rest : List Token) : Yields P (.ok (v, rest)) := fun _ _ hr => by
  cases hr
  exact h

theorem andThen {r : Reading α n} {next : α × List Token → Except Diagnostic (β × List Token)}
    (h : Yields P r.plain) (hn : ∀ v rest, rest.length < n → P v → Yields Q (next (v, rest))) :
    Yields Q (r.plain >>= next) := by
  intro v rest hr
  obtain ⟨p, hp, hnext⟩ := exists_of_bind_eq_ok hr
  exact hn p.1 p.2 (Reading.length_lt_of_plain hp) (h p.1 p.2 hp) v rest hnext

theorem ite {c : Prop} [Decidable c] {r s : Except Diagnostic (α × List Token)}
    (hr : Yields P r) (hs : Yields P s) : Yields P (if c then r else s) := by
  by_cases h : c
  · rwa [if_pos h]
  · rwa [if_neg h]

/-- Nothing is asked of a token. -/
theorem trivial (r : Except Diagnostic (α × List Token)) : Yields (fun _ => True) r :=
  fun _ _ _ => True.intro

end Yields

namespace Yields?

theorem error (d : Diagnostic) : Yields? P (.error d) := fun _ _ h => nomatch h

theorem ok_none : Yields? P (.ok none) := fun _ _ h => nomatch h

theorem ok_some {v : α} (h : P v) (rest : List Token) : Yields? P (.ok (some (v, rest))) :=
  fun _ _ hr => by
    cases hr
    exact h

theorem andThen {r : Reading α n}
    {next : α × List Token → Except Diagnostic (Option (β × List Token))} (h : Yields P r.plain)
    (hn : ∀ v rest, rest.length < n → P v → Yields? Q (next (v, rest))) :
    Yields? Q (r.plain >>= next) := by
  intro v rest hr
  obtain ⟨p, hp, hnext⟩ := exists_of_bind_eq_ok hr
  exact hn p.1 p.2 (Reading.length_lt_of_plain hp) (h p.1 p.2 hp) v rest hnext

theorem ite {c : Prop} [Decidable c] {r s : Except Diagnostic (Option (α × List Token))}
    (hr : Yields? P r) (hs : Yields? P s) : Yields? P (if c then r else s) := by
  by_cases h : c
  · rwa [if_pos h]
  · rwa [if_neg h]

/-- A reading that may read nothing, and another in its place if it does. -/
theorem orElse {r : Except Diagnostic (Option (α × List Token))}
    {next : Option (α × List Token) → Except Diagnostic (β × List Token)} (h : Yields? P r)
    (hsome : ∀ v rest, P v → Yields Q (next (some (v, rest)))) (hnone : Yields Q (next none)) :
    Yields Q (r >>= next) := by
  rcases r with d | - | p
  · exact Yields.error d
  · exact hnone
  · exact hsome p.1 p.2 (h p.1 p.2 rfl)

end Yields?

namespace Reader

variable (g : Reader)

/-! ## References and places -/

theorem plainMembers_isPath (pos : SourcePos) {group : ObjectRef} (h : group.IsPath)
    (ts : List Token) : (plainMembers pos group ts).1.IsPath := by
  match ts with
  | [] => rwa [plainMembers_nil]
  | [d] => rwa [plainMembers_singleton]
  | d :: l :: ts =>
    rw [plainMembers_cons_cons]
    split_ifs
    · have hmember : (ObjectRef.member pos group l.pos (.label l.text)).IsPath := h
      exact plainMembers_isPath pos hmember ts
    · exact h

/-- After the members of a group no further member follows. -/
theorem plainMembers_again (pos : SourcePos) (group : ObjectRef) (ts : List Token)
    (pos' : SourcePos) (group' : ObjectRef) :
    plainMembers pos' group' (plainMembers pos group ts).2 =
      (group', (plainMembers pos group ts).2) := by
  match ts with
  | [] => rw [plainMembers_nil, plainMembers_nil]
  | [d] => rw [plainMembers_singleton, plainMembers_singleton]
  | d :: l :: ts =>
    by_cases h : d.kind = .dot ∧ l.kind = .label
    · rw [plainMembers_cons_cons, if_pos h]
      exact plainMembers_again ..
    · rw [plainMembers_cons_cons, if_neg h, plainMembers_cons_cons, if_neg h]

/-- The members of a path, when they are all that is read. -/
theorem plainMembers_isReadable {pos : SourcePos} {group : ObjectRef} (h : group.IsPath)
    {ts : List Token} {r : ObjectRef} {rest : List Token}
    (hp : (Except.ok (plainMembers pos group ts) : Except Diagnostic _) = .ok (r, rest)) :
    r.IsReadable ∧ ∀ pos group, plainMembers pos group rest = (group, rest) := by
  have path := plainMembers_isPath pos h ts
  have again := plainMembers_again pos group ts
  rw [Except.ok.inj hp] at path again
  exact ⟨path.isReadable, again⟩

/-- A reference that is read has a form of its own, and no member follows it. -/
theorem readObjectRef_isReadable (ts : List Token) : ∀ r rest,
    (g.readObjectRef ts).plain = .ok (r, rest) →
      r.IsReadable ∧ ∀ pos group, plainMembers pos group rest = (group, rest) := by
  match ts with
  | [] =>
    intro r rest h
    rw [plain_readObjectRef_nil] at h
    cases h
  | t :: ts =>
    intro r rest h
    rw [plain_readObjectRef_cons] at h
    split_ifs at h
    · have path : (ObjectRef.select t.pos (.label t.text)).IsPath := trivial
      exact plainMembers_isReadable path h
    · exact plainMembers_isReadable (show (ObjectRef.previous t.pos).IsPath from trivial) h
    · cases hp : plainOrdinal? (t :: ts) with
      | none =>
        rw [hp] at h
        cases h
      | some p =>
        rw [hp] at h
        obtain ⟨q, -, hq⟩ := Option.map_eq_some_iff.1 hp
        have hlt : p.2.length < (t :: ts).length := by
          rw [← hq]
          exact q.shorter
        obtain ⟨⟨cls, left⟩, hcls, h⟩ := exists_of_bind_eq_ok h
        have hleft := Reading.length_lt_of_plain hcls
        cases left with
        | nil =>
          cases h
          exact ⟨trivial, fun pos group => plainMembers_nil pos group⟩
        | cons u more =>
          dsimp only at h
          split_ifs at h
          · obtain ⟨⟨group, after⟩, hgroup, h⟩ := exists_of_bind_eq_ok h
            obtain ⟨inner, last⟩ := readObjectRef_isReadable more group after hgroup
            dsimp only at h
            rw [last] at h
            cases h
            exact ⟨inner, last⟩
          · have hselect : (ObjectRef.select t.pos (.ordinal cls p.1.1 p.1.2)).IsPath := trivial
            exact plainMembers_isReadable hselect h
termination_by ts.length
decreasing_by
  simp only [List.length_cons] at *
  omega

theorem readObjectRef_yields (ts : List Token) :
    Yields ObjectRef.IsReadable (g.readObjectRef ts).plain :=
  fun r rest h => (g.readObjectRef_isReadable ts r rest h).1

/-- A position that is read by its object is named by one, and has a form of its own. -/
theorem readPlace_yields (ts : List Token) :
    Yields (fun q => q.IsPlace ∧ q.IsReadable) (g.readPlace ts).plain := by
  have object : ∀ (pos : SourcePos) (ts : List Token),
      Yields (fun q => q.IsPlace ∧ q.IsReadable) (g.readObjectPlace pos ts).plain := by
    intro pos ts
    rw [plain_readObjectPlace]
    refine .andThen (g.readObjectRef_yields ts) fun ref left _ href => ?_
    cases left with
    | nil => exact .ok ⟨trivial, href⟩ []
    | cons t rest =>
      dsimp only
      split <;> exact .ok ⟨trivial, href⟩ _
  have vertex : ∀ (pos : SourcePos) (place : Nat × Bool) (ts : List Token),
      Yields? (fun q => q.IsPlace ∧ q.IsReadable) (Reading.plain? (g.readVertex pos place ts)) := by
    intro pos place ts
    cases ts with
    | nil => exact .ok_none
    | cons t ts =>
      rw [plain?_readVertex_cons]
      refine .ite (.andThen (.trivial _) fun ofWord rest _ _ => ?_) .ok_none
      exact .andThen (g.readObjectRef_yields rest) fun ref rest _ href =>
        .ok_some ⟨trivial, href⟩ rest
  cases ts with
  | nil => exact .error _
  | cons t ts =>
    rw [plain_readPlace_cons]
    split
    · exact .andThen (g.readObjectRef_yields _) fun ref rest _ href => .ok ⟨trivial, href⟩ rest
    · have whole := object t.pos (t :: ts)
      unfold plainUnanchored
      cases plainOrdinal? (t :: ts) with
      | none => exact whole
      | some place =>
        refine (vertex t.pos place.1 place.2).orElse (fun v rest hv => ?_) whole
        exact Yields.ok (P := fun q : Position => q.IsPlace ∧ q.IsReadable) hv rest

theorem scalarOfPlace?_isReadable {pos : SourcePos} {q : Position} {word : String} {e : Scalar}
    (hq : q.IsPlace ∧ q.IsReadable) (h : scalarOfPlace? pos q word = some e) : e.IsReadable := by
  unfold scalarOfPlace? at h
  split at h
  · cases h
    exact hq
  · split at h
    · cases h
      exact hq.2
    · cases h

theorem readPlaceScalar_yields (ts : List Token) :
    Yields Scalar.IsReadable (g.readPlaceScalar ts).plain := by
  rw [plain_readPlaceScalar]
  refine .andThen (g.readPlace_yields ts) fun place left _ hplace => ?_
  rcases left with - | ⟨d, - | ⟨w, rest⟩⟩
  · exact .error _
  · exact .error _
  · dsimp only
    by_cases h : d.kind = .dot ∧ w.kind = .word
    · rw [if_pos h]
      cases he : scalarOfPlace? (g.peek ts).pos place w.text with
      | none => exact .error _
      | some e => exact .ok (scalarOfPlace?_isReadable hplace he) rest
    · rw [if_neg h]
      exact .error _

/-! ## Numbers and points -/

mutual

/-- A number that is read has a form of its own. -/
theorem readExpression_yields (ts : List Token) :
    Yields Scalar.IsReadable (g.readExpression ts).plain := by
  rw [plain_readExpression]
  exact .andThen (readTerm_yields ts) fun left rest hlt hleft => readSums_yields hleft rest
termination_by 16 * ts.length + 4

theorem readSums_yields {left : Scalar} (hleft : left.IsReadable) (ts : List Token) :
    Yields Scalar.IsReadable (g.readSums left ts).plain := by
  cases ts with
  | nil =>
    rw [plain_readSums_nil]
    exact .ok hleft []
  | cons t ts =>
    have operation : ∀ (op : BinaryOp) {right : Scalar}, right.IsReadable →
        (Scalar.binary t.pos op left right).IsReadable := fun op right hright => by
      rw [Scalar.IsReadable]
      exact ⟨hleft, hright⟩
    rw [plain_readSums_cons]
    cases t.kind
    case plus =>
      exact .andThen (readTerm_yields ts) fun right rest hlt hright =>
        readSums_yields (operation .add hright) rest
    case minus =>
      exact .andThen (readTerm_yields ts) fun right rest hlt hright =>
        readSums_yields (operation .sub hright) rest
    all_goals exact .ok hleft (t :: ts)
termination_by 16 * ts.length
decreasing_by
  all_goals
    simp only [List.length_cons] at *
    omega

theorem readTerm_yields (ts : List Token) : Yields Scalar.IsReadable (g.readTerm ts).plain := by
  rw [plain_readTerm]
  exact .andThen (readSigned_yields ts) fun left rest hlt hleft => readFactors_yields hleft rest
termination_by 16 * ts.length + 3

theorem readFactors_yields {left : Scalar} (hleft : left.IsReadable) (ts : List Token) :
    Yields Scalar.IsReadable (g.readFactors left ts).plain := by
  cases ts with
  | nil =>
    rw [plain_readFactors_nil]
    exact .ok hleft []
  | cons t ts =>
    have operation : ∀ (op : BinaryOp) {right : Scalar}, right.IsReadable →
        (Scalar.binary t.pos op left right).IsReadable := fun op right hright => by
      rw [Scalar.IsReadable]
      exact ⟨hleft, hright⟩
    rw [plain_readFactors_cons]
    cases t.kind
    case star =>
      exact .andThen (readSigned_yields ts) fun right rest hlt hright =>
        readFactors_yields (operation .mul hright) rest
    case slash =>
      exact .andThen (readSigned_yields ts) fun right rest hlt hright =>
        readFactors_yields (operation .div hright) rest
    all_goals exact .ok hleft (t :: ts)
termination_by 16 * ts.length
decreasing_by
  all_goals
    simp only [List.length_cons] at *
    omega

theorem readSigned_yields (ts : List Token) : Yields Scalar.IsReadable (g.readSigned ts).plain := by
  cases ts with
  | nil =>
    rw [plain_readSigned_nil]
    exact .error _
  | cons t ts =>
    have primary := readPrimary_yields (t :: ts)
    rw [plain_readSigned_cons]
    cases t.kind
    case minus =>
      refine .andThen (readSigned_yields ts) fun operand rest hlt hoperand => .ok ?_ rest
      rwa [Scalar.IsReadable]
    case plus => exact readSigned_yields ts
    all_goals exact primary
termination_by 16 * ts.length + 2

theorem readPrimary_yields (ts : List Token) :
    Yields Scalar.IsReadable (g.readPrimary ts).plain := by
  cases ts with
  | nil =>
    rw [plain_readPrimary_nil]
    exact .error _
  | cons t ts =>
    have place := g.readPlaceScalar_yields (t :: ts)
    have call := readCall_yields t ts
    have color : ∀ name, (Scalar.color t.pos name).IsReadable := fun name => by
      rw [Scalar.IsReadable]
      trivial
    have var : (Scalar.var t.pos t.text).IsReadable := by
      rw [Scalar.IsReadable]
      trivial
    rw [plain_readPrimary_cons]
    cases t.kind
    case number v u =>
      refine .ok ?_ ts
      rw [Scalar.IsReadable]
      trivial
    case percent v =>
      refine .ok ?_ ts
      rw [Scalar.IsReadable]
      trivial
    case sigil => exact .ok var ts
    case color name => exact .ok (color name) ts
    case label => exact .ite (.ok (color _) ts) place
    case lparen =>
      refine .andThen (readExpression_yields ts) fun inner rest hlt hinner => ?_
      exact .andThen (.trivial _) fun close rest _ _ => .ok hinner rest
    case nth n => exact place
    case word => exact .ite call (.ite (.ok var ts) (.ite place (.error _)))
    all_goals exact .error _
termination_by 16 * ts.length + 1

theorem readCall_yields (name : Token) (ts : List Token) :
    Yields Scalar.IsReadable (g.readCall name ts).plain := by
  have calls : ∀ f {es}, ScalarsReadable es → (Scalar.call name.pos f es).IsReadable :=
    fun f es hes => by rwa [Scalar.IsReadable]
  have dists : ∀ {qs}, PositionsReadable qs → (Scalar.dist name.pos qs).IsReadable :=
    fun hqs => by rwa [Scalar.IsReadable]
  rw [plain_readCall]
  refine .andThen (.trivial _) fun start rest hlt _ => ?_
  cases ScalarFunction.ofName? name.text with
  | some f =>
    refine .ite (.ok (calls f ?_) _) ?_
    · rw [ScalarsReadable]
      trivial
    · exact .andThen (readScalarArgs_yields rest) fun args rest _ hargs => .ok (calls f hargs) rest
  | none =>
    refine .ite (.ok (dists ?_) _) ?_
    · rw [PositionsReadable]
      trivial
    · exact .andThen (readPositionArgs_yields rest) fun args rest _ hargs => .ok (dists hargs) rest
termination_by 16 * ts.length

theorem readScalarArgs_yields (ts : List Token) :
    Yields ScalarsReadable (g.readScalarArgs ts).plain := by
  have cons : ∀ {e es}, e.IsReadable → ScalarsReadable es → ScalarsReadable (e :: es) :=
    fun he hes => by
      rw [ScalarsReadable]
      exact ⟨he, hes⟩
  have none : ScalarsReadable [] := by
    rw [ScalarsReadable]
    trivial
  rw [plain_readScalarArgs]
  refine .andThen (readExpression_yields ts) fun first left hlt hfirst => ?_
  cases left with
  | nil => exact .error _
  | cons t rest =>
    have : rest.length + 1 < ts.length := hlt
    dsimp only
    cases t.kind
    case rparen => exact .ok (cons hfirst none) rest
    case comma =>
      exact .andThen (readScalarArgs_yields rest) fun more rest _ hmore =>
        .ok (cons hfirst hmore) rest
    all_goals exact .error _
termination_by 16 * ts.length + 5

theorem readPositionArgs_yields (ts : List Token) :
    Yields PositionsReadable (g.readPositionArgs ts).plain := by
  have cons : ∀ {q qs}, q.IsReadable → PositionsReadable qs → PositionsReadable (q :: qs) :=
    fun hq hqs => by
      rw [PositionsReadable]
      exact ⟨hq, hqs⟩
  have none : PositionsReadable [] := by
    rw [PositionsReadable]
    trivial
  rw [plain_readPositionArgs]
  refine .andThen (readPosition_yields ts) fun first left hlt hfirst => ?_
  cases left with
  | nil => exact .error _
  | cons t rest =>
    have : rest.length + 1 < ts.length := hlt
    dsimp only
    cases t.kind
    case rparen => exact .ok (cons hfirst none) rest
    case comma =>
      exact .andThen (readPositionArgs_yields rest) fun more rest _ hmore =>
        .ok (cons hfirst hmore) rest
    all_goals exact .error _
termination_by 16 * ts.length + 9

/-- A point that is read has a form of its own. -/
theorem readPosition_yields (ts : List Token) :
    Yields Position.IsReadable (g.readPosition ts).plain := by
  rw [plain_readPosition]
  exact .andThen (readPositionPrimary_yields ts) fun base rest hlt hbase =>
    readOffsets_yields hbase rest
termination_by 16 * ts.length + 8

theorem readOffsets_yields {base : Position} (hbase : base.IsReadable) (ts : List Token) :
    Yields Position.IsReadable (g.readOffsets base ts).plain := by
  cases ts with
  | nil =>
    rw [plain_readOffsets_nil]
    exact .ok hbase []
  | cons t ts =>
    have pair := readOffsetPair_yields ts
    rw [plain_readOffsets_cons]
    refine .ite ?_ (.ok hbase _)
    cases hp : (g.readOffsetPair ts).plain with
    | error d => exact .ok hbase _
    | ok p =>
      have hlt := Reading.length_lt_of_plain hp
      refine readOffsets_yields ?_ p.2
      rw [Position.IsReadable]
      exact ⟨hbase, pair p.1 p.2 hp⟩
termination_by 16 * ts.length
decreasing_by
  all_goals
    simp only [List.length_cons] at *
    omega

theorem readOffsetPair_yields (ts : List Token) :
    Yields (fun d => d.1.IsReadable ∧ d.2.IsReadable) (g.readOffsetPair ts).plain := by
  cases ts with
  | nil =>
    rw [plain_readOffsetPair_nil]
    exact .error _
  | cons t ts =>
    rw [plain_readOffsetPair_cons]
    refine .ite ?_ ?_
    · refine .andThen (readExpression_yields ts) fun dx rest hdx hx => ?_
      refine .andThen (.trivial _) fun comma rest hcomma _ => ?_
      refine .andThen (readExpression_yields rest) fun dy rest hdy hy => ?_
      exact .andThen (.trivial _) fun close rest _ _ => .ok ⟨hx, hy⟩ rest
    · refine .andThen (readExpression_yields (t :: ts)) fun dx rest hdx hx => ?_
      refine .andThen (.trivial _) fun comma rest hcomma _ => ?_
      exact .andThen (readExpression_yields rest) fun dy rest hdy hy => .ok ⟨hx, hy⟩ rest
termination_by 16 * ts.length + 5
decreasing_by
  all_goals
    simp only [List.length_cons] at *
    omega

theorem readPositionPrimary_yields (ts : List Token) :
    Yields Position.IsReadable (g.readPositionPrimary ts).plain := by
  have again := readGroupOrPlace_yields ts
  have first := readExpression_yields ts
  rw [plain_readPositionPrimary]
  refine .ite ?_ ?_
  · refine .andThen (.trivial _) fun keyword rest hlt _ => ?_
    refine .andThen (readEnds_yields rest) fun ends rest _ hends => .ok ?_ rest
    rwa [Position.IsReadable]
  · cases hp : (g.readExpression ts).plain with
    | error d => exact again
    | ok p =>
      have hlt := Reading.length_lt_of_plain hp
      refine (readAfterScalar_yields _ (first p.1 p.2 hp) p.2).orElse (fun q rest hq => ?_) again
      exact Yields.ok hq rest
termination_by 16 * ts.length + 7

theorem readEnds_yields (ts : List Token) :
    Yields (fun e => e.1.IsReadable ∧ e.2.IsReadable) (g.readEnds ts).plain := by
  rw [plain_readEnds]
  refine .andThen (readPosition_yields ts) fun a rest ha hA => ?_
  refine .andThen (.trivial _) fun conjunction rest hconjunction _ => ?_
  exact .andThen (readPosition_yields rest) fun b rest hb hB => .ok ⟨hA, hB⟩ rest
termination_by 16 * ts.length + 9
decreasing_by
  all_goals
    dsimp only at *
    omega

theorem readGroupOrPlace_yields (ts : List Token) :
    Yields Position.IsReadable (g.readGroupOrPlace ts).plain := by
  have place : ∀ us, Yields Position.IsReadable (g.readPlace us).plain := fun us q rest h =>
    (g.readPlace_yields us q rest h).2
  cases ts with
  | nil =>
    rw [plain_readGroupOrPlace_nil]
    exact .error _
  | cons t ts =>
    rw [plain_readGroupOrPlace_cons]
    refine .ite ?_ (place (t :: ts))
    refine .andThen (readPosition_yields ts) fun first left hfirst hA => ?_
    cases left with
    | nil => exact .error _
    | cons u more =>
      have : more.length + 1 < ts.length := hfirst
      dsimp only
      cases u.kind
      case comma =>
        refine .andThen (readPosition_yields more) fun second rest hsecond hB => ?_
        refine .andThen (.trivial _) fun close rest _ _ => .ok ?_ rest
        rw [Position.IsReadable]
        exact ⟨hA, hB⟩
      case rparen => exact .ok hA more
      all_goals exact .error _
termination_by 16 * ts.length + 6

theorem readAfterScalar_yields (pos : SourcePos) {leading : Scalar} (hleading : leading.IsReadable)
    (ts : List Token) :
    Yields? Position.IsReadable (Reading.plain? (g.readAfterScalar pos leading ts)) := by
  cases ts with
  | nil =>
    rw [plain?_readAfterScalar_nil]
    exact .ok_none
  | cons t ts =>
    rw [plain?_readAfterScalar_cons]
    cases t.kind
    case comma =>
      refine .andThen (readExpression_yields ts) fun y rest _ hy => .ok_some ?_ rest
      rw [Position.IsReadable]
      exact ⟨hleading, hy⟩
    case less =>
      refine .andThen (readPosition_yields ts) fun a rest ha hA => ?_
      refine .andThen (.trivial _) fun comma rest hcomma _ => ?_
      refine .andThen (readPosition_yields rest) fun b rest hb hB => ?_
      refine .andThen (.trivial _) fun close rest _ _ => .ok_some ?_ rest
      rw [Position.IsReadable]
      exact ⟨hleading, hA, hB⟩
    case word =>
      have := (skipWord_suffix "of" ts).length_le
      have := (List.drop_suffix 2 ts).length_le
      refine .ite ?_ ?_
      · refine .andThen (.trivial _) fun between rest hbetween _ => ?_
        refine .andThen (readEnds_yields rest) fun ends rest _ hends => .ok_some ?_ rest
        rw [Position.IsReadable]
        exact ⟨hleading, hends⟩
      · cases relativeSide? t.text with
        | some side =>
          refine .andThen (readPosition_yields _) fun base rest _ hbase => .ok_some ?_ rest
          rw [Position.IsReadable]
          exact ⟨hleading, hbase⟩
        | none =>
          refine .ite ?_ .ok_none
          refine .andThen (readExpression_yields ts) fun angle rest hangle hA => ?_
          refine .andThen (.trivial _) fun source rest hsource _ => ?_
          refine .andThen (readPosition_yields rest) fun base rest _ hbase => .ok_some ?_ rest
          rw [Position.IsReadable]
          exact ⟨hleading, hA, hbase⟩
    all_goals exact .ok_none
termination_by 16 * ts.length
decreasing_by
  all_goals
    simp only [List.length_cons] at *
    omega

end

end Reader

/-! ## Reading again -/

/-- Any expression that some tokens are read as is read again from the tokens it is written as, when
these are followed by the end of a statement or of a group; and any position, when it is written in
parentheses.  None of their labels may name a colour, or it would be read as one. -/
theorem reread_tokens (g : Reader) {rest : List Token}
    (hrest : (g.peek rest).isTerminator = true) :
    (∀ (e : Scalar) (g' : Reader) (ts left : List Token),
      (g'.readExpression ts).plain = .ok (e, left) → (∀ l ∈ e.labels, g.colors.knows l = false) →
        (g.readExpression (e.tokens ++ rest)).plain = .ok (e.mapPos nowhere, rest)) ∧
    ∀ (q : Position) (g' : Reader) (ts left : List Token),
      (g'.readPosition ts).plain = .ok (q, left) → (∀ l ∈ q.labels, g.colors.knows l = false) →
        (g.readPosition (parens q.tokens ++ rest)).plain = .ok (q.mapPos nowhere, rest) := by
  have ends := Token.not_goesOn_of_isTerminator hrest
  constructor
  · intro e g' ts left h labels
    exact Scalar.reads_tokens (g'.readExpression_yields ts e left h) labels rest ends
  · intro q g' ts left h labels
    exact (Position.reads_tokens (g'.readPosition_yields ts q left h) labels).position ends

/-- The half of `B.x`, and the point that far to the right and 3 up. -/
theorem reread_half :
    let g : Reader := ⟨.standard, ⟨.eof, "", ⟨1, 1⟩⟩⟩
    let b : ObjectRef := .select .first (.label "B")
    let half : Scalar := .binary .first .div (.coordinate .first (.object .first b none) .x)
      (.number .first ⟨2, 0⟩ none)
    let point : Position := .pair .first half (.number .first ⟨3, 0⟩ none)
    (g.readExpression (half.tokens ++ [])).plain = .ok (half, []) ∧
      (g.readPosition (parens point.tokens ++ [])).plain = .ok (point, []) := by
  intro g b half point
  have again := reread_tokens g (show (g.peek []).isTerminator = true from rfl)
  have readHalf : (g.readExpression [⟨.label, "B", .first⟩, ⟨.dot, ".", .first⟩,
      ⟨.word, "x", .first⟩, ⟨.slash, "/", .first⟩, ⟨.number ⟨2, 0⟩ none, "2", .first⟩]).plain =
      .ok (half, []) := by
    cbv
  have readPoint : (g.readPosition [⟨.label, "B", .first⟩, ⟨.dot, ".", .first⟩,
      ⟨.word, "x", .first⟩, ⟨.slash, "/", .first⟩, ⟨.number ⟨2, 0⟩ none, "2", .first⟩,
      ⟨.comma, ",", .first⟩, ⟨.number ⟨3, 0⟩ none, "3", .first⟩]).plain = .ok (point, []) := by
    cbv
  have halfAgain := again.1 half g _ _ readHalf (by decide)
  have pointAgain := again.2 point g _ _ readPoint (by decide)
  exact ⟨halfAgain, pointAgain⟩

end DiagramScript
