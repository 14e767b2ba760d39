import DiagramScript.Proofs.StatementSteps
import DiagramScript.Proofs.TokenPlaces

/-!
# What readers leave, and where they stop

Readers take tokens from the front of the list, one after the other: what they leave is an end of
what there was.  A reader that stops points at a token: at one of those it was given, or at the end
of the script.

* `Reader.Stands` — an end of some tokens, which have places of some kind.
* `Reader.Reads` — a reading that leaves such an end, or stops at such a place.
* `readExpression_reads`, `readPosition_reads`, `readStatements_reads` — every reader does.
* `readStatement_suffix`, `readStatements_suffix` — what statements leave, whatever the places.
-/

namespace DiagramScript

variable {α β : Type}

namespace Reader

/-! ## Ends of the tokens -/

theorem skipWord_suffix (word : String) (ts : List Token) : skipWord word ts <:+ ts := by
  cases ts with
  | nil => exact List.suffix_rfl
  | cons t ts =>
    rw [skipWord]
    split_ifs
    · exact List.suffix_cons t ts
    · exact List.suffix_rfl

theorem skipEnds_suffix (ts : List Token) : skipEnds ts <:+ ts := List.dropWhile_suffix _

theorem plainOrdinal?_suffix {ts : List Token} {p : (Nat × Bool) × List Token}
    (h : plainOrdinal? ts = some p) : p.2 <:+ ts := by
  cases ts with
  | nil => cases h
  | cons t ts =>
    rw [plainOrdinal?_cons] at h
    have last : (if t.isWord "last" then some ((1, true), ts) else none) = some p →
        p.2 <:+ t :: ts := fun h => by
      split_ifs at h
      cases h
      exact List.suffix_cons t ts
    cases hk : t.kind <;> rw [hk] at h <;> try exact last h
    cases ts with
    | nil =>
      cases h
      exact List.nil_suffix
    | cons u ts =>
      dsimp only at h
      split_ifs at h <;> cases h
      · exact (List.suffix_cons u ts).trans (List.suffix_cons t _)
      · exact List.suffix_cons t _

theorem plainMembers_suffix (pos : SourcePos) (group : ObjectRef) (ts : List Token) :
    (plainMembers pos group ts).2 <:+ ts := by
  match ts with
  | [] => exact plainMembers_nil pos group ▸ List.suffix_rfl
  | [d] => exact plainMembers_singleton pos group d ▸ List.suffix_rfl
  | d :: l :: ts =>
    rw [plainMembers_cons_cons]
    split_ifs
    · exact (plainMembers_suffix pos _ ts).trans
        ((List.suffix_cons l ts).trans (List.suffix_cons d _))
    · exact List.suffix_rfl

/-! ## Readings -/

/-- Whether some tokens are an end of others, which have places of some kind, like the end of the
script. -/
structure Stands (g : Reader) (P : SourcePos → Prop) (us ts : List Token) : Prop where
  /-- The end of the script has one. -/
  final : P g.final.pos
  /-- So do the tokens. -/
  tokens : Within P us
  /-- What is left is an end of them. -/
  suffix : ts <:+ us

variable {g : Reader} {P : SourcePos → Prop} {t : Token} {us ts : List Token} {n : Nat}

namespace Stands

theorem head (h : g.Stands P us (t :: ts)) : P t.pos :=
  h.tokens t (h.suffix.subset List.mem_cons_self)

/-- What is left later is left, too. -/
theorem left {vs : List Token} (h : g.Stands P us ts) (hs : vs <:+ ts) : g.Stands P us vs :=
  ⟨h.final, h.tokens, hs.trans h.suffix⟩

theorem tail (h : g.Stands P us (t :: ts)) : g.Stands P us ts := h.left (List.suffix_cons t ts)

theorem drop (h : g.Stands P us ts) (k : Nat) : g.Stands P us (ts.drop k) :=
  h.left (List.drop_suffix k ts)

/-- Everything stands somewhere. -/
theorem all (us : List Token) : g.Stands (fun _ => True) us us :=
  ⟨trivial, fun _ _ => trivial, List.suffix_rfl⟩

theorem peek (h : g.Stands P us ts) : P (g.peek ts).pos := by
  cases ts with
  | nil => exact h.final
  | cons t ts => exact h.head

end Stands

/-- Whether a reading leaves an end of some tokens, or stops at a place of some kind. -/
def Reads (g : Reader) (P : SourcePos → Prop) (us : List Token)
    (r : Except Diagnostic (α × List Token)) : Prop :=
  Settles (Diagnostic.PointsTo P) (fun p => g.Stands P us p.2) r

/-- The same for a reading that may read nothing. -/
def Reads? (g : Reader) (P : SourcePos → Prop) (us : List Token)
    (r : Except Diagnostic (Option (α × List Token))) : Prop :=
  Settles (Diagnostic.PointsTo P) (fun o => ∀ p ∈ o, g.Stands P us p.2) r

namespace Reads

theorem ok {v : α} (h : g.Stands P us ts) : g.Reads P us (.ok (v, ts)) := .of_ok h

/-- Something else stands where a token was expected. -/
theorem mistake {e : ParseError} (h : P t.pos) :
    g.Reads P us (.error (grammarError t e) : Except Diagnostic (α × List Token)) :=
  .of_error (grammarError_pointsTo h e)

/-- What is read next is read from what was left. -/
theorem andThen {r : Reading α n} {next : α × List Token → Except Diagnostic (β × List Token)}
    (h : g.Reads P us r.plain)
    (hn : ∀ v rest, rest.length < n → g.Stands P us rest → g.Reads P us (next (v, rest))) :
    g.Reads P us (r.plain >>= next) := by
  cases hp : r.plain with
  | ok p => exact hn p.1 p.2 (Reading.length_lt_of_plain hp) (Settles.ok h p hp)
  | error d => exact .of_error (Settles.error h d hp)

theorem ite {c : Prop} [Decidable c] {r s : Except Diagnostic (α × List Token)}
    (hr : g.Reads P us r) (hs : g.Reads P us s) : g.Reads P us (if c then r else s) :=
  Settles.ite hr hs

theorem map {r : Except Diagnostic (α × List Token)} {f : α → β} (h : g.Reads P us r) :
    g.Reads P us (r.map fun p => (f p.1, p.2)) :=
  Settles.map h fun _ hp => hp

/-- The tokens that are left. -/
theorem stands {r : Except Diagnostic (α × List Token)} {p : α × List Token}
    (h : g.Reads P us r) (hp : r = .ok p) : g.Stands P us p.2 :=
  Settles.ok h p hp

end Reads

namespace Reads?

theorem none : g.Reads? P us (.ok none : Except Diagnostic (Option (α × List Token))) :=
  .of_ok fun _ hp => nomatch hp

theorem some {v : α} (h : g.Stands P us ts) : g.Reads? P us (.ok (some (v, ts))) :=
  .of_ok fun p hp => by
    cases hp
    exact h

theorem mistake {e : ParseError} (h : P t.pos) :
    g.Reads? P us (.error (grammarError t e) : Except Diagnostic (Option (α × List Token))) :=
  .of_error (grammarError_pointsTo h e)

theorem andThen {r : Reading α n}
    {next : α × List Token → Except Diagnostic (Option (β × List Token))}
    (h : g.Reads P us r.plain)
    (hn : ∀ v rest, rest.length < n → g.Stands P us rest → g.Reads? P us (next (v, rest))) :
    g.Reads? P us (r.plain >>= next) := by
  cases hp : r.plain with
  | ok p => exact hn p.1 p.2 (Reading.length_lt_of_plain hp) (h.stands hp)
  | error d => exact .of_error (Settles.error h d hp)

theorem ite {c : Prop} [Decidable c] {r s : Except Diagnostic (Option (α × List Token))}
    (hr : g.Reads? P us r) (hs : g.Reads? P us s) : g.Reads? P us (if c then r else s) :=
  Settles.ite hr hs

/-- A reading that may read nothing, and another in its place if it does. -/
theorem orElse {r : Except Diagnostic (Option (α × List Token))}
    {next : Option (α × List Token) → Except Diagnostic (β × List Token)} (h : g.Reads? P us r)
    (hsome : ∀ p, g.Stands P us p.2 → g.Reads P us (next (Option.some p)))
    (hnone : g.Reads P us (next Option.none)) : g.Reads P us (r >>= next) := by
  refine Settles.bind h fun o ho => ?_
  cases o with
  | none => exact hnone
  | some p => exact hsome p (ho p rfl)

end Reads?

/-! ## Tokens and references -/

theorem readToken_reads (h : g.Stands P us ts) (ok : Token → Bool) (what : Expected) :
    g.Reads P us (g.readToken ok what ts).plain := by
  cases ts with
  | nil => exact .mistake h.final
  | cons t ts =>
    rw [plain_readToken_cons]
    exact .ite (.ok h.tail) (.mistake h.head)

theorem readMark_reads (h : g.Stands P us ts) (kind : TokenKind) (mark : String) :
    g.Reads P us (g.readMark kind mark ts).plain :=
  readToken_reads h _ _

theorem readWord_reads (h : g.Stands P us ts) (word : String) :
    g.Reads P us (g.readWord word ts).plain :=
  readToken_reads h _ _

theorem readClass_reads (h : g.Stands P us ts) : g.Reads P us (g.readClass ts).plain := by
  cases ts with
  | nil => exact .mistake h.final
  | cons t ts =>
    rw [plain_readClass_cons]
    cases t.kind
    case word =>
      cases ObjectClass.ofKeyword? t.text with
      | none => exact .mistake h.head
      | some cls => exact .ok h.tail
    case lbracket =>
      cases ts with
      | nil => exact .mistake h.head
      | cons u ts => exact .ite (.ok h.tail.tail) (.mistake h.head)
    all_goals exact .mistake h.head

theorem readObjectRef_reads (ts : List Token) :
    g.Stands P us ts → g.Reads P us (g.readObjectRef ts).plain := by
  cases ts with
  | nil =>
    intro h
    rw [plain_readObjectRef_nil]
    exact .mistake h.final
  | cons t ts =>
    intro h
    rw [plain_readObjectRef_cons]
    refine .ite (.ok (h.tail.left (plainMembers_suffix _ _ _)))
      (.ite (.ok (h.tail.left (plainMembers_suffix _ _ _))) ?_)
    cases hp : plainOrdinal? (t :: ts) with
    | none => exact .mistake h.head
    | some p =>
      have hlt : p.2.length < (t :: ts).length := by
        obtain ⟨q, -, rfl⟩ := Option.map_eq_some_iff.1 hp
        exact q.shorter
      have stands := h.left (plainOrdinal?_suffix hp)
      refine .andThen (readClass_reads stands) fun cls left hleft hl => ?_
      cases left with
      | nil => exact .ok hl
      | cons u more =>
        refine .ite ?_ (.ok (hl.left (plainMembers_suffix _ _ _)))
        refine .andThen (readObjectRef_reads _ hl.tail) fun group rest _ hr => ?_
        exact .ok (hr.left (plainMembers_suffix _ _ _))
termination_by ts.length
decreasing_by
  simp only [List.length_cons] at *
  omega

theorem readAnchor_reads (h : g.Stands P us ts) : g.Reads P us (g.readAnchor ts).plain := by
  cases ts with
  | nil => exact .mistake h.final
  | cons t ts =>
    rw [plain_readAnchor_cons]
    cases anchorOf? t with
    | none => exact .mistake h.head
    | some a => exact .ok h.tail

theorem readVertex_reads (h : g.Stands P us ts) (pos : SourcePos) (place : Nat × Bool) :
    g.Reads? P us (Reading.plain? (g.readVertex pos place ts)) := by
  cases ts with
  | nil => exact .none
  | cons t ts =>
    rw [plain?_readVertex_cons]
    refine .ite ?_ .none
    refine .andThen (readWord_reads h.tail "of") fun ofWord rest _ hr => ?_
    exact .andThen (readObjectRef_reads _ hr) fun ref rest _ hr => .some hr

theorem readObjectPlace_reads (h : g.Stands P us ts) (pos : SourcePos) :
    g.Reads P us (g.readObjectPlace pos ts).plain := by
  rw [plain_readObjectPlace]
  refine .andThen (readObjectRef_reads _ h) fun ref left _ hl => ?_
  cases left with
  | nil => exact .ok hl
  | cons t rest =>
    dsimp only
    cases t.kind
    case edge a => exact .ok hl.tail
    all_goals exact .ok hl

theorem plainUnanchored_reads (h : g.Stands P us ts) (pos : SourcePos) :
    g.Reads P us (g.plainUnanchored pos ts) := by
  unfold plainUnanchored
  cases hp : plainOrdinal? ts with
  | none => exact readObjectPlace_reads h pos
  | some p =>
    have vertex := readVertex_reads (h.left (plainOrdinal?_suffix hp)) pos p.1
    exact vertex.orElse (fun q hq => .ok hq) (readObjectPlace_reads h pos)

theorem readPlace_reads (h : g.Stands P us ts) : g.Reads P us (g.readPlace ts).plain := by
  cases ts with
  | nil => exact .mistake h.final
  | cons t ts =>
    rw [plain_readPlace_cons]
    cases anchorOf? t with
    | none => exact plainUnanchored_reads h t.pos
    | some a =>
      cases (g.peek ts).isWord "of" with
      | false => exact plainUnanchored_reads h t.pos
      | true => exact .andThen (readObjectRef_reads _ (h.tail.drop 1)) fun ref rest _ hr => .ok hr

theorem readPlaceScalar_reads (h : g.Stands P us ts) :
    g.Reads P us (g.readPlaceScalar ts).plain := by
  rw [plain_readPlaceScalar]
  refine .andThen (readPlace_reads h) fun place left _ hl => ?_
  rcases left with - | ⟨d, - | ⟨w, rest⟩⟩
  · exact .mistake hl.peek
  · exact .mistake hl.peek
  · dsimp only
    generalize (if d.kind = .dot ∧ w.kind = .word
      then scalarOfPlace? (g.peek ts).pos place w.text else none) = s
    cases s with
    | none => exact .mistake hl.head
    | some s => exact .ok hl.tail.tail

/-! ## Numbers and points -/

mutual

/-- A number that cannot be read is a mistake at a token. -/
theorem readExpression_reads (ts : List Token) :
    g.Stands P us ts → g.Reads P us (g.readExpression ts).plain := by
  intro h
  rw [plain_readExpression]
  exact .andThen (readTerm_reads ts h) fun left rest hlt hr => readSums_reads left rest hr
termination_by 16 * ts.length + 4

theorem readSums_reads (left : Scalar) (ts : List Token) :
    g.Stands P us ts → g.Reads P us (g.readSums left ts).plain := by
  cases ts with
  | nil =>
    intro h
    rw [plain_readSums_nil]
    exact .ok h
  | cons t ts =>
    intro h
    rw [plain_readSums_cons]
    cases t.kind
    case plus =>
      exact .andThen (readTerm_reads ts h.tail) fun right rest hlt hr => readSums_reads _ rest hr
    case minus =>
      exact .andThen (readTerm_reads ts h.tail) fun right rest hlt hr => readSums_reads _ rest hr
    all_goals exact .ok h
termination_by 16 * ts.length
decreasing_by
  all_goals
    simp only [List.length_cons] at *
    omega

theorem readTerm_reads (ts : List Token) :
    g.Stands P us ts → g.Reads P us (g.readTerm ts).plain := by
  intro h
  rw [plain_readTerm]
  exact .andThen (readSigned_reads ts h) fun left rest hlt hr => readFactors_reads left rest hr
termination_by 16 * ts.length + 3

theorem readFactors_reads (left : Scalar) (ts : List Token) :
    g.Stands P us ts → g.Reads P us (g.readFactors left ts).plain := by
  cases ts with
  | nil =>
    intro h
    rw [plain_readFactors_nil]
    exact .ok h
  | cons t ts =>
    intro h
    rw [plain_readFactors_cons]
    cases t.kind
    case star =>
      exact .andThen (readSigned_reads ts h.tail) fun right rest hlt hr =>
        readFactors_reads _ rest hr
    case slash =>
      exact .andThen (readSigned_reads ts h.tail) fun right rest hlt hr =>
        readFactors_reads _ rest hr
    all_goals exact .ok h
termination_by 16 * ts.length
decreasing_by
  all_goals
    simp only [List.length_cons] at *
    omega

theorem readSigned_reads (ts : List Token) :
    g.Stands P us ts → g.Reads P us (g.readSigned ts).plain := by
  cases ts with
  | nil =>
    intro h
    rw [plain_readSigned_nil]
    exact .mistake h.final
  | cons t ts =>
    intro h
    rw [plain_readSigned_cons]
    have primary := readPrimary_reads (t :: ts) h
    cases t.kind
    case minus => exact .andThen (readSigned_reads ts h.tail) fun operand rest hlt hr => .ok hr
    case plus => exact readSigned_reads ts h.tail
    all_goals exact primary
termination_by 16 * ts.length + 2

theorem readPrimary_reads (ts : List Token) :
    g.Stands P us ts → g.Reads P us (g.readPrimary ts).plain := by
  cases ts with
  | nil =>
    intro h
    rw [plain_readPrimary_nil]
    exact .mistake h.final
  | cons t ts =>
    intro h
    have place := readPlaceScalar_reads h
    have call := readCall_reads t ts h.tail
    rw [plain_readPrimary_cons]
    cases t.kind
    case number v u => exact .ok h.tail
    case percent v => exact .ok h.tail
    case sigil => exact .ok h.tail
    case color name => exact .ok h.tail
    case label => exact .ite (.ok h.tail) place
    case lparen =>
      refine .andThen (readExpression_reads ts h.tail) fun inner rest hlt hr => ?_
      exact .andThen (readMark_reads hr .rparen ")") fun close rest hlt hr => .ok hr
    case nth n => exact place
    case word => exact .ite call (.ite (.ok h.tail) (.ite place (.mistake h.head)))
    all_goals exact .mistake h.head
termination_by 16 * ts.length + 1

theorem readCall_reads (name : Token) (ts : List Token) :
    g.Stands P us ts → g.Reads P us (g.readCall name ts).plain := by
  intro h
  rw [plain_readCall]
  refine .andThen (readMark_reads h .lparen "(") fun start rest hlt hr => ?_
  cases ScalarFunction.ofName? name.text with
  | some f =>
    refine .ite (.ok (hr.drop 1)) ?_
    exact .andThen (readScalarArgs_reads rest hr) fun args rest hlt hr => .ok hr
  | none =>
    refine .ite (.ok (hr.drop 1)) ?_
    exact .andThen (readPositionArgs_reads rest hr) fun args rest hlt hr => .ok hr
termination_by 16 * ts.length

theorem readScalarArgs_reads (ts : List Token) :
    g.Stands P us ts → g.Reads P us (g.readScalarArgs ts).plain := by
  intro h
  rw [plain_readScalarArgs]
  refine .andThen (readExpression_reads ts h) fun first left hlt hl => ?_
  cases left with
  | nil => exact .mistake h.final
  | cons t rest =>
    have : rest.length + 1 < ts.length := hlt
    dsimp only
    cases t.kind
    case rparen => exact .ok hl.tail
    case comma =>
      exact .andThen (readScalarArgs_reads rest hl.tail) fun more rest hlt hr => .ok hr
    all_goals exact .mistake hl.head
termination_by 16 * ts.length + 5

theorem readPositionArgs_reads (ts : List Token) :
    g.Stands P us ts → g.Reads P us (g.readPositionArgs ts).plain := by
  intro h
  rw [plain_readPositionArgs]
  refine .andThen (readPosition_reads ts h) fun first left hlt hl => ?_
  cases left with
  | nil => exact .mistake h.final
  | cons t rest =>
    have : rest.length + 1 < ts.length := hlt
    dsimp only
    cases t.kind
    case rparen => exact .ok hl.tail
    case comma =>
      exact .andThen (readPositionArgs_reads rest hl.tail) fun more rest hlt hr => .ok hr
    all_goals exact .mistake hl.head
termination_by 16 * ts.length + 9

/-- A point that cannot be read is a mistake at a token. -/
theorem readPosition_reads (ts : List Token) :
    g.Stands P us ts → g.Reads P us (g.readPosition ts).plain := by
  intro h
  rw [plain_readPosition]
  exact .andThen (readPositionPrimary_reads ts h) fun base rest hlt hr =>
    readOffsets_reads base rest hr
termination_by 16 * ts.length + 8

theorem readOffsets_reads (base : Position) (ts : List Token) :
    g.Stands P us ts → g.Reads P us (g.readOffsets base ts).plain := by
  cases ts with
  | nil =>
    intro h
    rw [plain_readOffsets_nil]
    exact .ok h
  | cons t ts =>
    intro h
    have pair := readOffsetPair_reads ts h.tail
    rw [plain_readOffsets_cons]
    refine .ite ?_ (.ok h)
    cases hp : (g.readOffsetPair ts).plain with
    | error d => exact .ok h
    | ok p =>
      have hlt := Reading.length_lt_of_plain hp
      exact readOffsets_reads _ p.2 (pair.stands hp)
termination_by 16 * ts.length
decreasing_by
  all_goals
    simp only [List.length_cons] at *
    omega

theorem readOffsetPair_reads (ts : List Token) :
    g.Stands P us ts → g.Reads P us (g.readOffsetPair ts).plain := by
  cases ts with
  | nil =>
    intro h
    rw [plain_readOffsetPair_nil]
    exact .mistake h.final
  | cons t ts =>
    intro h
    rw [plain_readOffsetPair_cons]
    refine .ite ?_ ?_
    · refine .andThen (readExpression_reads ts h.tail) fun dx rest hdx hr => ?_
      refine .andThen (readMark_reads hr .comma ",") fun comma rest hcomma hr => ?_
      refine .andThen (readExpression_reads rest hr) fun dy rest hdy hr => ?_
      exact .andThen (readMark_reads hr .rparen ")") fun close rest hlt hr => .ok hr
    · refine .andThen (readExpression_reads (t :: ts) h) fun dx rest hdx hr => ?_
      refine .andThen (readMark_reads hr .comma ",") fun comma rest hcomma hr => ?_
      exact .andThen (readExpression_reads rest hr) fun dy rest hdy hr => .ok hr
termination_by 16 * ts.length + 5
decreasing_by
  all_goals
    simp only [List.length_cons] at *
    omega

theorem readPositionPrimary_reads (ts : List Token) :
    g.Stands P us ts → g.Reads P us (g.readPositionPrimary ts).plain := by
  intro h
  have again := readGroupOrPlace_reads ts h
  have first := readExpression_reads ts h
  rw [plain_readPositionPrimary]
  refine .ite ?_ ?_
  · refine .andThen (readWord_reads h "between") fun keyword rest hlt hr => ?_
    exact .andThen (readEnds_reads rest hr) fun ends rest hends hr => .ok hr
  · cases hp : (g.readExpression ts).plain with
    | error d => exact again
    | ok p =>
      have hlt := Reading.length_lt_of_plain hp
      have point := readAfterScalar_reads (g.peek ts).pos p.1 p.2 (first.stands hp)
      exact point.orElse (fun q hq => .ok hq) again
termination_by 16 * ts.length + 7

theorem readEnds_reads (ts : List Token) :
    g.Stands P us ts → g.Reads P us (g.readEnds ts).plain := by
  intro h
  rw [plain_readEnds]
  refine .andThen (readPosition_reads ts h) fun a rest ha hr => ?_
  refine .andThen (readWord_reads hr "and") fun conjunction rest hconjunction hr => ?_
  exact .andThen (readPosition_reads rest hr) fun b rest hb hr => .ok hr
termination_by 16 * ts.length + 9
decreasing_by
  all_goals
    dsimp only at *
    omega

theorem readGroupOrPlace_reads (ts : List Token) :
    g.Stands P us ts → g.Reads P us (g.readGroupOrPlace ts).plain := by
  cases ts with
  | nil =>
    intro h
    rw [plain_readGroupOrPlace_nil]
    exact .mistake h.final
  | cons t ts =>
    intro h
    rw [plain_readGroupOrPlace_cons]
    refine .ite ?_ (readPlace_reads h)
    refine .andThen (readPosition_reads ts h.tail) fun first left hfirst hl => ?_
    cases left with
    | nil => exact .mistake h.final
    | cons u more =>
      have : more.length + 1 < ts.length := hfirst
      dsimp only
      cases u.kind
      case comma =>
        refine .andThen (readPosition_reads more hl.tail) fun second rest hsecond hr => ?_
        exact .andThen (readMark_reads hr .rparen ")") fun close rest hlt hr => .ok hr
      case rparen => exact .ok hl.tail
      all_goals exact .mistake hl.head
termination_by 16 * ts.length + 6

theorem readAfterScalar_reads (pos : SourcePos) (leading : Scalar) (ts : List Token) :
    g.Stands P us ts → g.Reads? P us (Reading.plain? (g.readAfterScalar pos leading ts)) := by
  cases ts with
  | nil =>
    intro h
    rw [plain?_readAfterScalar_nil]
    exact .none
  | cons t ts =>
    intro h
    rw [plain?_readAfterScalar_cons]
    cases t.kind
    case comma => exact .andThen (readExpression_reads ts h.tail) fun y rest hlt hr => .some hr
    case less =>
      refine .andThen (readPosition_reads ts h.tail) fun a rest ha hr => ?_
      refine .andThen (readMark_reads hr .comma ",") fun comma rest hcomma hr => ?_
      refine .andThen (readPosition_reads rest hr) fun b rest hb hr => ?_
      exact .andThen (readMark_reads hr .greater ">") fun close rest hlt hr => .some hr
    case word =>
      have skipped := skipWord_suffix "of" ts
      have := skipped.length_le
      have dropped := (List.drop_suffix 2 ts).length_le
      refine .ite ?_ ?_
      · refine .andThen (readWord_reads (h.tail.drop 2) "between")
          fun between rest hbetween hr => ?_
        exact .andThen (readEnds_reads rest hr) fun ends rest hends hr => .some hr
      · cases relativeSide? t.text with
        | some side =>
          exact .andThen (readPosition_reads _ (h.tail.left skipped)) fun base rest hbase hr =>
            .some hr
        | none =>
          refine .ite ?_ .none
          refine .andThen (readExpression_reads ts h.tail) fun angle rest hangle hr => ?_
          refine .andThen (readWord_reads hr "from") fun source rest hsource hr => ?_
          exact .andThen (readPosition_reads rest hr) fun base rest hbase hr => .some hr
    all_goals exact .none
termination_by 16 * ts.length
decreasing_by
  all_goals
    simp only [List.length_cons] at *
    omega

end

/-! ## Clauses -/

theorem readSize_reads (h : g.Stands P us ts) : g.Reads P us (g.readSize ts).plain := by
  cases ts with
  | nil => exact readExpression_reads [] h
  | cons t ts =>
    rw [plain_readSize_cons]
    cases t.kind
    case percent v => exact .ok h.tail
    all_goals exact readExpression_reads (t :: ts) h

theorem plainOptionalSize_stands (h : g.Stands P us ts) :
    g.Stands P us (g.plainOptionalSize ts).2 := by
  rw [plainOptionalSize_eq]
  split_ifs
  · cases hp : (g.readSize ts).plain with
    | error d => exact h
    | ok p => exact (readSize_reads h).stands hp
  · exact h

theorem readUntil_reads (h : g.Stands P us ts) : g.Reads P us (g.readUntil ts).plain := by
  rw [plain_readUntil]
  refine .andThen (readWord_reads h "even") fun even rest _ hr => ?_
  exact .andThen (readWord_reads hr "with") fun word rest _ hr => readPosition_reads rest hr

theorem readWordClause_reads (t : Token) (h : g.Stands P us ts) :
    g.Reads? P us (Reading.plain? (g.readWordClause t ts)) := by
  have optional : ∀ {c : Clause} {rest : List Token}, g.Stands P us rest →
      g.Reads? P us (.ok (some (c, (g.plainOptionalSize rest).2))) := fun hr =>
    .some (plainOptionalSize_stands hr)
  rw [plain?_readWordClause]
  cases Dimension.ofWord? t.text with
  | some d => exact .andThen (readSize_reads h) fun v rest _ hr => .some hr
  | none =>
    cases Flag.ofWord? t.text with
    | some f => exact .some h
    | none =>
      cases Direction.ofName? t.text with
      | some d =>
        refine .ite ?_ (optional h)
        exact .andThen (readUntil_reads (h.drop 1)) fun p rest _ hr => .some hr
      | none =>
        dsimp only
        generalize t.text = word
        split
        case h_1 => exact .andThen (readSize_reads h) fun v rest _ hr => .some hr
        case h_2 => exact optional h
        case h_3 => exact optional h
        case h_7 =>
          refine .ite ?_ (.some h)
          exact .andThen (readObjectRef_reads _ (h.drop 1)) fun ref rest _ hr => .some hr
        case h_9 =>
          refine .andThen (readAnchor_reads h) fun a rest _ hr => ?_
          refine .andThen (readWord_reads hr "at") fun word rest _ hr => ?_
          exact .andThen (readPosition_reads rest hr) fun p rest _ hr => .some hr
        case h_12 => exact .ite (.mistake h.peek) (.some h)
        case h_13 =>
          exact .andThen (readExpression_reads ts h) fun angle rest _ hr => optional hr
        case h_14 => exact .andThen (readUntil_reads h) fun p rest _ hr => .some hr
        case h_15 => exact .none
        all_goals first
          | exact .andThen (readExpression_reads ts h) fun v rest _ hr => .some hr
          | exact .andThen (readPosition_reads ts h) fun p rest _ hr => .some hr

theorem readDistance_reads (h : g.Stands P us (t :: ts)) :
    g.Reads P us (g.readDistance t ts).plain := by
  rw [plain_readDistance]
  refine .ite ?_ (.ite (.mistake h.head) (.mistake h.head))
  exact .andThen (readSize_reads h) fun v rest _ hr => .ok hr

theorem readAttribute_reads (before : Clauses) (h : g.Stands P us ts) :
    g.Reads P us (g.readAttribute before ts).plain := by
  cases ts with
  | nil => exact .mistake h.final
  | cons t ts =>
    have distance : g.Reads P us (do
        let c ← (g.readDistance t ts).plain
        .ok (before ++ [(⟨t.pos, c.1⟩ : Attribute)], c.2)) :=
      .andThen (readDistance_reads h) fun c rest _ hr => .ok hr
    rw [plain_readAttribute_cons]
    cases t.kind
    case str text => exact .ok h.tail
    case arrow => exact .ok h.tail
    case word =>
      refine Reads?.orElse (readWordClause_reads t h.tail) (fun c hc => .ok hc) ?_
      refine .ite (.ok h.tail) ?_
      cases TextModifier.ofName? t.text with
      | none => exact .ite (.mistake h.head) distance
      | some m =>
        dsimp only
        cases markLastText m before with
        | none => exact .mistake h.head
        | some marked => exact .ok h.tail
    all_goals exact distance

theorem readAttributes_reads (before : Clauses) (ts : List Token) :
    g.Stands P us ts → g.Reads P us (g.readAttributes before ts).plain := by
  intro h
  rw [plain_readAttributes]
  refine .ite (.ok h) ?_
  exact .andThen (readAttribute_reads before h) fun one rest hlt hr =>
    readAttributes_reads one rest hr
termination_by ts.length

/-! ## Statements -/

theorem readPrintItem_reads (h : g.Stands P us ts) : g.Reads P us (g.readPrintItem ts).plain := by
  have number :
      g.Reads P us ((g.readExpression ts).plain.map fun e => (PrintItem.value e.1, e.2)) :=
    (readExpression_reads ts h).map
  cases ts with
  | nil =>
    rw [plain_readPrintItem_nil]
    exact number
  | cons t ts =>
    rw [plain_readPrintItem_cons]
    cases t.kind
    case str text => exact .ok h.tail
    all_goals exact number

theorem readPrintItems_reads (ts : List Token) :
    g.Stands P us ts → g.Reads P us (g.readPrintItems ts).plain := by
  intro h
  rw [plain_readPrintItems]
  refine .andThen (readPrintItem_reads h) fun first left hlt hl => ?_
  cases left with
  | nil => exact .ok hl
  | cons c rest =>
    have : rest.length + 1 < ts.length := hlt
    refine .ite ?_ (.ok hl)
    exact .andThen (readPrintItems_reads rest hl.tail) fun more rest _ hr => .ok hr
termination_by ts.length

theorem readAssertion_reads (pos : SourcePos) (h : g.Stands P us ts) :
    g.Reads P us (g.readAssertion pos ts).plain := by
  have scalars : g.Reads P us (g.plainComparedScalars pos ts) := by
    refine .andThen (readExpression_reads ts h) fun left rest _ hr => ?_
    refine .andThen (readMark_reads hr .equal "==") fun eq rest _ hr => ?_
    refine .andThen (readExpression_reads rest hr) fun right rest _ hr => ?_
    exact .andThen (readMark_reads hr .rparen ")") fun close rest _ hr => .ok hr
  have positions : g.Reads P us (g.plainComparedPositions pos ts) := by
    refine .andThen (readPosition_reads ts h) fun left rest _ hr => ?_
    refine .andThen (readMark_reads hr .equal "==") fun eq rest _ hr => ?_
    refine .andThen (readPosition_reads rest hr) fun right rest _ hr => ?_
    exact .andThen (readMark_reads hr .rparen ")") fun close rest _ hr => .ok hr
  rw [plain_readAssertion]
  cases hp : g.plainComparedScalars pos ts with
  | error d => exact positions
  | ok p => exact .ok (scalars.stands hp)

theorem readObject_reads (pos : SourcePos) (label : Option String) (cls : ObjectClass)
    (h : g.Stands P us ts) : g.Reads P us (g.readObject pos label cls ts).plain := by
  rw [plain_readObject]
  exact .andThen (readAttributes_reads [] ts h) fun attributes rest _ hr => .ok hr

mutual

theorem readDeclaration_reads (pos : SourcePos) (label : Option String) (ts : List Token) :
    g.Stands P us ts → g.Reads P us (g.readDeclaration pos label ts).plain := by
  cases ts with
  | nil =>
    intro h
    rw [plain_readDeclaration_nil]
    exact .mistake h.final
  | cons t ts =>
    intro h
    have object : g.Reads P us (match ObjectClass.ofKeyword? t.text with
        | some cls => (g.readObject pos label cls ts).plain
        | none => .error (unexpected t .statement)) := by
      cases ObjectClass.ofKeyword? t.text with
      | none => exact .mistake h.head
      | some cls => exact readObject_reads pos label cls h.tail
    rw [plain_readDeclaration_cons]
    cases t.kind
    case lbracket =>
      have opened : ∀ o ∈ some t, P o.pos := by
        intro o ho
        cases ho
        exact h.head
      refine .andThen (readStatements_reads (some t) ts opened h.tail) fun body rest _ hr => ?_
      refine .andThen (readMark_reads hr .rbracket "]") fun close rest _ hr => ?_
      exact .andThen (readAttributes_reads [] rest hr) fun attributes rest _ hr => .ok hr
    case str text =>
      refine .andThen (readAttribute_reads [] h) fun first rest _ hr => ?_
      exact .andThen (readAttributes_reads first rest hr) fun attributes rest _ hr => .ok hr
    all_goals exact object
termination_by 4 * ts.length

theorem readStatement_reads (ts : List Token) :
    g.Stands P us ts → g.Reads P us (g.readStatement ts).plain := by
  cases ts with
  | nil =>
    intro h
    rw [plain_readStatement_nil]
    exact .mistake h.final
  | cons t ts =>
    intro h
    have := (List.drop_suffix 1 ts).length_le
    rw [plain_readStatement_cons]
    refine .ite (.ite (readDeclaration_reads _ _ _ (h.tail.drop 1)) ?_) ?_
    · exact .andThen (readPosition_reads _ (h.tail.drop 1)) fun p rest _ hr => .ok hr
    · generalize (if t.kind = .word ∧ (g.peek ts).isTerminator = true
        then Direction.ofName? t.text else none) = direction
      cases direction with
      | some d => exact .ok h.tail
      | none =>
        refine .ite ?_ (.ite ?_ (.ite ?_ (.ite (readDeclaration_reads _ _ _ h) ?_)))
        · exact .andThen (readExpression_reads _ (h.tail.drop 1)) fun e rest _ hr => .ok hr
        · exact .andThen (readPrintItems_reads ts h.tail) fun items rest _ hr => .ok hr
        · exact .andThen (readMark_reads h.tail .lparen "(") fun start rest _ hr =>
            readAssertion_reads t.pos hr
        · exact .mistake h.head
termination_by 4 * ts.length + 1

/-- Statements that cannot be read are a mistake at a token, or at the bracket that opens them. -/
theorem readStatements_reads (opener : Option Token) (ts : List Token)
    (ho : ∀ o ∈ opener, P o.pos) :
    g.Stands P us ts → g.Reads P us (g.readStatements opener ts).plain := by
  intro h
  have skipped := skipEnds_suffix ts
  have := skipped.length_le
  have left := h.left skipped
  have step : g.Reads P us (do
      let s ← (g.readStatement (skipEnds ts)).plain
      if (g.peek s.2).isTerminator then do
        let more ← (g.readStatements opener s.2).plain
        .ok (s.1 :: more.1, more.2)
      else .error (unexpected (g.peek s.2) .endOfStatement)) := by
    refine .andThen (readStatement_reads (skipEnds ts) left) fun s rest hlt hr => ?_
    refine .ite ?_ (.mistake hr.peek)
    exact .andThen (readStatements_reads opener rest ho hr) fun more rest _ hr => .ok hr
  rw [plain_readStatements]
  cases (g.peek (skipEnds ts)).kind <;> cases opener <;> first
    | exact step
    | exact .ok left
    | exact .mistake left.peek
    | exact .mistake (ho _ rfl)
termination_by 4 * ts.length + 2

end

/-! ## Whatever the places -/

/-- A statement that is read leaves an end of the tokens. -/
theorem readStatement_suffix {p : Statement × List Token}
    (h : (g.readStatement ts).plain = .ok p) : p.2 <:+ ts :=
  ((readStatement_reads ts (.all ts)).stands h).suffix

/-- So do statements. -/
theorem readStatements_suffix {opener : Option Token} {p : List Statement × List Token}
    (h : (g.readStatements opener ts).plain = .ok p) : p.2 <:+ ts :=
  ((readStatements_reads opener ts (fun _ _ => trivial) (.all ts)).stands h).suffix

end Reader

end DiagramScript
