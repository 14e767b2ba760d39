import DiagramScript.Proofs.MirroredViews
import DiagramScript.Proofs.Rereading

/-!
# Numbers at the start of positions

A position may start with a number, and only what follows tells; where nothing does, the tokens are
read again, as a reference.  Here is what the first tokens and those after the number decide.

* `Reader.extendsNumber`, `Reader.makesPosition` — what goes on with a number before it.
* `Reader.plainOperations_sameRest` — which operations are read does not depend on the number.
* `Reader.Rewinds`, `Reader.readPositionPrimary_cases` — whether a number is read first in vain.
* `Reader.readPlace_begins` — what begins a reference.
* `Reader.plain_readPosition_label`, `Reader.readPosition_ne_label` — a label is a position, unless
  it names a colour and what follows goes on with a number.
-/

namespace DiagramScript

theorem Token.isWord_iff {t : Token} {word : String} :
    t.isWord word = true ↔ t.kind = .word ∧ t.text = word := by
  rw [isWord, Bool.and_eq_true, decide_eq_true_eq, decide_eq_true_eq]

/-! ## Operations on a number that stands before them -/

/-- Two answers that leave the same tokens. -/
def SameRest {α β : Type} (p : α × List Token) (p' : β × List Token) : Prop := p'.2 = p.2

namespace Reader

variable (g : Reader)

/-- Whether tokens go on with a number that stands before them, in a longer expression. -/
def extendsNumber : List Token → Bool
  | [] => false
  | t :: rest =>
    match t.kind with
    | .plus => (g.readTerm rest).toBool
    | .minus => (g.readTerm rest).toBool
    | .star => (g.readSigned rest).toBool
    | .slash => (g.readSigned rest).toBool
    | _ => false

/-- Whether tokens go on with a number that stands before them, in a position. -/
def makesPosition : List Token → Bool
  | [] => false
  | t :: rest =>
    match t.kind with
    | .comma => true
    | .less => true
    | .word =>
      (t.text = "of" ∧ (g.peek rest).isWord "the" ∧ (g.peekSecond rest).isWord "way") ||
        (relativeSide? t.text).isSome || t.text = "heading"
    | _ => false

/-- What is read after the first operand of an expression. -/
def plainOperations (left : Scalar) (ts : List Token) :
    Except Diagnostic (Scalar × List Token) := do
  let product ← (g.readFactors left ts).plain
  (g.readSums product.1 product.2).plain

theorem plain_readExpression_operations (ts : List Token) :
    (g.readExpression ts).plain = (do
      let first ← (g.readSigned ts).plain
      g.plainOperations first.1 first.2) := by
  rw [plain_readExpression, plain_readTerm]
  cases (g.readSigned ts).plain <;> rfl

/-- What cannot be read as an operand starts no expression. -/
theorem plain_readExpression_of_signed_error {ts : List Token} {e : Diagnostic}
    (h : (g.readSigned ts).plain = .error e) : (g.readExpression ts).plain = .error e := by
  rw [plain_readExpression_operations, h]
  rfl

theorem readFactors_sameRest (left left' : Scalar) (ts : List Token) :
    Together SameRest (g.readFactors left ts).plain (g.readFactors left' ts).plain := by
  cases ts with
  | nil =>
    rw [plain_readFactors_nil, plain_readFactors_nil]
    exact .ok rfl
  | cons t ts =>
    rw [plain_readFactors_cons, plain_readFactors_cons]
    have operation (op : BinaryOp) :
        Together SameRest
          ((g.readSigned ts).plain >>= fun right =>
            (g.readFactors (.binary t.pos op left right.1) right.2).plain)
          ((g.readSigned ts).plain >>= fun right =>
            (g.readFactors (.binary t.pos op left' right.1) right.2).plain) := by
      cases hr : (g.readSigned ts).plain with
      | error d => exact .error d d
      | ok right =>
        have := Reading.length_lt_of_plain hr
        exact readFactors_sameRest _ _ right.2
    cases t.kind
    case star => exact operation .mul
    case slash => exact operation .div
    all_goals exact .ok rfl
termination_by ts.length
decreasing_by
  simp only [List.length_cons] at *
  omega

theorem readSums_sameRest (left left' : Scalar) (ts : List Token) :
    Together SameRest (g.readSums left ts).plain (g.readSums left' ts).plain := by
  cases ts with
  | nil =>
    rw [plain_readSums_nil, plain_readSums_nil]
    exact .ok rfl
  | cons t ts =>
    rw [plain_readSums_cons, plain_readSums_cons]
    have operation (op : BinaryOp) :
        Together SameRest
          ((g.readTerm ts).plain >>= fun right =>
            (g.readSums (.binary t.pos op left right.1) right.2).plain)
          ((g.readTerm ts).plain >>= fun right =>
            (g.readSums (.binary t.pos op left' right.1) right.2).plain) := by
      cases hr : (g.readTerm ts).plain with
      | error d => exact .error d d
      | ok right =>
        have := Reading.length_lt_of_plain hr
        exact readSums_sameRest _ _ right.2
    cases t.kind
    case plus => exact operation .add
    case minus => exact operation .sub
    all_goals exact .ok rfl
termination_by ts.length
decreasing_by
  simp only [List.length_cons] at *
  omega

/-- Which operations are read does not depend on the number before them. -/
theorem plainOperations_sameRest (left left' : Scalar) (ts : List Token) :
    Together SameRest (g.plainOperations left ts) (g.plainOperations left' ts) := by
  refine (g.readFactors_sameRest left left' ts).bind ?_
  rintro ⟨product, rest⟩ ⟨product', rest'⟩ - hrest
  cases hrest
  exact g.readSums_sameRest product product' rest

theorem readExpression_sameRest {ts ts' : List Token}
    (h : Together SameRest (g.readSigned ts).plain (g.readSigned ts').plain) :
    Together SameRest (g.readExpression ts).plain (g.readExpression ts').plain := by
  rw [plain_readExpression_operations, plain_readExpression_operations]
  refine h.bind ?_
  rintro ⟨first, rest⟩ ⟨first', rest'⟩ - hrest
  cases hrest
  exact g.plainOperations_sameRest first first' rest

/-- Where no operation follows a number, none is read, or the one that is begun fails. -/
theorem plainOperations_of_not_extends {ts : List Token} (h : g.extendsNumber ts = false)
    (left : Scalar) :
    (∃ d, g.plainOperations left ts = .error d) ∨ g.plainOperations left ts = .ok (left, ts) := by
  have fails {n : Nat} {r : Reading Scalar n} (hr : r.toBool = false) :
      ∃ d, r.plain = .error d := by
    cases r with
    | error d => exact ⟨d, rfl⟩
    | ok p => cases hr
  unfold plainOperations
  cases ts with
  | nil => exact .inr (by rw [plain_readFactors_nil, ok_bind, plain_readSums_nil])
  | cons t ts =>
    rw [extendsNumber] at h
    rw [plain_readFactors_cons]
    cases hk : t.kind <;> rw [hk] at h <;> dsimp only at h ⊢
    case star =>
      obtain ⟨d, hd⟩ := fails h
      rw [hd]
      exact .inl ⟨d, rfl⟩
    case slash =>
      obtain ⟨d, hd⟩ := fails h
      rw [hd]
      exact .inl ⟨d, rfl⟩
    case plus =>
      obtain ⟨d, hd⟩ := fails h
      rw [ok_bind, plain_readSums_cons, hk]
      dsimp only
      rw [hd]
      exact .inl ⟨d, rfl⟩
    case minus =>
      obtain ⟨d, hd⟩ := fails h
      rw [ok_bind, plain_readSums_cons, hk]
      dsimp only
      rw [hd]
      exact .inl ⟨d, rfl⟩
    all_goals
      rw [ok_bind, plain_readSums_cons, hk]
      exact .inr rfl

variable {pos : SourcePos} {leading : Scalar} {ts : List Token}

theorem readAfterScalar_eq_none (h : g.makesPosition ts = false) :
    Reading.plain? (g.readAfterScalar pos leading ts) = .ok none := by
  cases ts with
  | nil => exact g.plain?_readAfterScalar_nil pos leading
  | cons t ts =>
    rw [makesPosition] at h
    rw [plain?_readAfterScalar_cons]
    cases hk : t.kind <;> rw [hk] at h <;> dsimp only at h ⊢
    case comma => cases h
    case less => cases h
    case word =>
      simp only [Bool.or_eq_false_iff, decide_eq_false_iff_not] at h
      obtain ⟨⟨notFraction, notSide⟩, notHeading⟩ := h
      rw [if_neg notFraction, Option.isSome_eq_false_iff.1 notSide |> Option.isNone_iff_eq_none.1]
      exact if_neg notHeading

theorem readAfterScalar_isSome (h : g.makesPosition ts = true) :
    Ensures (Option.isSome · = true) (Reading.plain? (g.readAfterScalar pos leading ts)) := by
  cases ts with
  | nil => cases h
  | cons t ts =>
    rw [makesPosition] at h
    rw [plain?_readAfterScalar_cons]
    cases hk : t.kind <;> rw [hk] at h <;> dsimp only at h ⊢
    case comma => exact .andThen fun y => .ok rfl
    case less =>
      exact .andThen fun a => .andThen fun comma => .andThen fun b => .andThen fun close => .ok rfl
    case word =>
      by_cases hf : t.text = "of" ∧ (g.peek ts).isWord "the" ∧ (g.peekSecond ts).isWord "way"
      · rw [if_pos hf]
        exact .andThen fun between => .andThen fun ends => .ok rfl
      rw [if_neg hf]
      cases hside : relativeSide? t.text with
      | some side => exact .andThen fun base => .ok rfl
      | none =>
        have heading : t.text = "heading" := by simpa [hf, hside] using h
        dsimp only
        rw [if_pos heading]
        exact .andThen fun angle => .andThen fun source => .andThen fun base => .ok rfl
    all_goals cases h

theorem kind_peek_of_makesPosition (h : g.makesPosition ts = true) :
    (g.peek ts).kind ≠ .rparen := by
  cases ts with
  | nil => cases h
  | cons t ts =>
    intro hk
    rw [makesPosition, ← g.peek_cons t ts, hk] at h
    cases h

/-! ## Positions that begin with a number -/

/-- Whether no position is made of a number that is read first. -/
def Rewinds (ts : List Token) : Prop :=
  Ensures (fun p => g.makesPosition p.2 = false) (g.readExpression ts).plain

/-- If no position is made of a number, the tokens are read again. -/
theorem plain_readPositionPrimary_of_rewinds {ts : List Token}
    (hb : (g.peek ts).isWord "between" = false) (h : g.Rewinds ts) :
    (g.readPositionPrimary ts).plain = (g.readGroupOrPlace ts).plain := by
  rw [plain_readPositionPrimary, hb, if_neg (by simp)]
  cases hr : (g.readExpression ts).plain with
  | error d => rfl
  | ok leading =>
    dsimp only
    rw [g.readAfterScalar_eq_none (h leading hr)]
    rfl

/-- Either a position is made of a number that is read first, or the tokens are read again. -/
theorem readPositionPrimary_cases {ts : List Token} {p : Position × List Token}
    (hb : (g.peek ts).isWord "between" = false)
    (h : (g.readPositionPrimary ts).plain = .ok p) :
    (g.Rewinds ts ∧ (g.readGroupOrPlace ts).plain = .ok p) ∨
      ∃ leading, (g.readExpression ts).plain = .ok leading ∧ g.makesPosition leading.2 = true ∧
        Reading.plain? (g.readAfterScalar (g.peek ts).pos leading.1 leading.2) = .ok (some p) := by
  by_cases hr : g.Rewinds ts
  · exact .inl ⟨hr, g.plain_readPositionPrimary_of_rewinds hb hr ▸ h⟩
  · simp only [Rewinds, Ensures, not_forall, Bool.not_eq_false] at hr
    obtain ⟨leading, hl, hmakes⟩ := hr
    rw [plain_readPositionPrimary, hb, if_neg (by simp), hl] at h
    obtain ⟨q, hq, hp⟩ := exists_of_bind_eq_ok h
    cases q with
    | none => exact absurd (g.readAfterScalar_isSome hmakes none hq) (by simp)
    | some q =>
      cases hp
      exact .inr ⟨leading, hl, hmakes, hq⟩

/-- Whether tokens begin with a dot, or with a sign that no offset follows: nothing that may
follow a position within another one. -/
def dangles : List Token → Prop
  | [] => False
  | t :: rest =>
    t.kind = .dot ∨
      ((t.kind = .plus ∨ t.kind = .minus) ∧ ∀ pair, (g.readOffsetPair rest).plain ≠ .ok pair)

theorem plain_readOffsets_of_dangles {ts : List Token} (h : g.dangles ts) (base : Position) :
    (g.readOffsets base ts).plain = .ok (base, ts) := by
  cases ts with
  | nil => exact h.elim
  | cons t ts =>
    rw [plain_readOffsets_cons]
    rcases h with hd | ⟨hsign, hpair⟩
    · rw [if_neg (by simp [hd])]
    · rw [if_pos hsign]
      cases hp : (g.readOffsetPair ts).plain with
      | error d => rfl
      | ok pair => exact absurd hp (hpair pair)

/-! ## First tokens of positions -/

theorem peek_drop_one (ts : List Token) : g.peekSecond ts = g.peek (ts.drop 1) := by
  cases ts with
  | nil => rfl
  | cons t ts => exact g.peekSecond_cons t ts

theorem plain_readSigned_parens {t : Token} (ht : t.kind = .lparen) (ts : List Token) :
    (g.readSigned (t :: ts)).plain = (do
      let inner ← (g.readExpression ts).plain
      let close ← (g.readMark .rparen ")" inner.2).plain
      .ok (inner.1, close.2)) := by
  rw [plain_readSigned_cons, ht]
  dsimp only
  rw [plain_readPrimary_cons, ht]

theorem readMark_fails {kind : TokenKind} {ts : List Token} (h : (g.peek ts).kind ≠ kind)
    (mark : String) : ∃ d, (g.readMark kind mark ts).plain = .error d := by
  cases ts with
  | nil => exact ⟨_, rfl⟩
  | cons t ts =>
    rw [readMark, plain_readToken_cons, if_neg (by simpa using h)]
    exact ⟨_, rfl⟩

theorem plain_readSigned_label {t : Token} (ht : t.kind = .label) (ts : List Token) :
    (g.readSigned (t :: ts)).plain =
      if g.namesColor t (g.peek ts) then .ok (.color t.pos (lowercase t.text), ts)
      else (g.readPlaceScalar (t :: ts)).plain := by
  rw [plain_readSigned_cons, ht]
  dsimp only
  rw [plain_readPrimary_cons, ht]

theorem plain_readSigned_word {t : Token} (ht : t.kind = .word)
    (hf : isFunctionName t.text = false) (hk : isKeyword t.text = true) (ts : List Token) :
    (g.readSigned (t :: ts)).plain =
      if t.text = "previous" ∨ t.text = "last" then (g.readPlaceScalar (t :: ts)).plain
      else .error (unexpected t .expression) := by
  rw [plain_readSigned_cons, ht]
  dsimp only
  rw [plain_readPrimary_cons, ht]
  dsimp only
  rw [if_neg (by simp [hf]), if_neg (by simp [hk])]

/-- A number begins with the word of a reference only if it is made of the object. -/
theorem plain_readSigned_of_isWord {word : String} (hw : word = "previous" ∨ word = "last")
    {t : Token} (ht : t.isWord word = true) (ts : List Token) :
    (g.readSigned (t :: ts)).plain = (g.readPlaceScalar (t :: ts)).plain := by
  obtain ⟨hk, rfl⟩ := Token.isWord_iff.1 ht
  have noFunction : isFunctionName t.text = false := by
    rcases hw with hw | hw <;> rw [hw] <;> decide
  have keyword : isKeyword t.text = true := by
    rcases hw with hw | hw <;> rw [hw] <;> decide
  rw [g.plain_readSigned_word hk noFunction keyword, if_pos hw]

theorem plain_readSigned_nth {t : Token} {n : Nat} (ht : t.kind = .nth n) (ts : List Token) :
    (g.readSigned (t :: ts)).plain = (g.readPlaceScalar (t :: ts)).plain := by
  rw [plain_readSigned_cons, ht]
  dsimp only
  rw [plain_readPrimary_cons, ht]

/-- No number begins with the word for a point between others. -/
theorem readSigned_of_between {ts : List Token} (h : (g.peek ts).isWord "between" = true) :
    ∃ d, (g.readSigned ts).plain = .error d := by
  cases ts with
  | nil => exact ⟨_, g.plain_readSigned_nil⟩
  | cons t ts =>
    rw [peek_cons, Token.isWord_iff] at h
    obtain ⟨hk, ht⟩ := h
    rw [g.plain_readSigned_word hk (by rw [ht]; decide) (by rw [ht]; decide),
      if_neg (by rw [ht]; decide)]
    exact ⟨_, rfl⟩

/-- The words for anchors are reserved, and say nothing else. -/
theorem reserved_of_mem_anchorWords : ∀ word ∈ anchorWords, isFunctionName word = false ∧
    isKeyword word = true ∧ ¬ (word = "previous" ∨ word = "last" ∨ word = "between") := by
  decide

/-- No number begins with the name of an anchor. -/
theorem readSigned_of_anchor {t : Token} {a : Anchor} (ha : anchorOf? t = some a)
    (ts : List Token) : ∃ d, (g.readSigned (t :: ts)).plain = .error d := by
  rw [anchorOf?] at ha
  cases hk : t.kind <;> rw [hk] at ha <;> dsimp only at ha
  case edge =>
    rw [plain_readSigned_cons, hk]
    dsimp only
    rw [plain_readPrimary_cons, hk]
    exact ⟨_, rfl⟩
  case word =>
    split_ifs at ha with hmem
    obtain ⟨noFunction, keyword, noReference⟩ :=
      reserved_of_mem_anchorWords t.text (List.contains_iff_mem.1 hmem)
    rw [g.plain_readSigned_word hk noFunction keyword, if_neg (by tauto)]
    exact ⟨_, rfl⟩
  all_goals cases ha

/-- A measure of an object is read where the object is followed by a dot. -/
theorem readPlaceScalar_rest {ts : List Token} {p : Position × List Token}
    {s : Scalar × List Token} (hp : (g.readPlace ts).plain = .ok p)
    (hs : (g.readPlaceScalar ts).plain = .ok s) : ∃ d w, p.2 = d :: w :: s.2 ∧ d.kind = .dot := by
  rw [plain_readPlaceScalar, hp, ok_bind] at hs
  obtain ⟨place, left⟩ := p
  rcases left with - | ⟨d, - | ⟨w, rest⟩⟩
  · cases hs
  · cases hs
  · dsimp only at hs
    split at hs
    · rename_i e he
      cases hs
      refine ⟨d, w, rfl, ?_⟩
      by_contra hd
      rw [if_neg fun h => hd h.1] at he
      cases he
    · cases hs

/-- What begins a position that is named by an object. -/
theorem readPlace_begins {t : Token} {ts : List Token} {p : Position × List Token}
    (h : (g.readPlace (t :: ts)).plain = .ok p) :
    t.kind = .label ∨ (∃ a, anchorOf? t = some a) ∨ t.isWord "previous" = true ∨
      t.isWord "last" = true ∨ ∃ n, t.kind = .nth n := by
  by_contra hnone
  simp only [not_or, not_exists, Bool.not_eq_true] at hnone
  obtain ⟨notLabel, noAnchor, notPrevious, notLast, notNth⟩ := hnone
  have noOrdinal : plainOrdinal? (t :: ts) = none := by
    rw [plainOrdinal?_cons]
    cases hk : t.kind
    case nth n => exact absurd hk (notNth n)
    all_goals exact if_neg (by simp [notLast])
  rw [plain_readPlace_cons, Option.eq_none_iff_forall_ne_some.2 noAnchor] at h
  dsimp only at h
  rw [plainUnanchored, noOrdinal] at h
  dsimp only at h
  rw [plain_readObjectPlace, plain_readObjectRef_cons, if_neg notLabel, notPrevious,
    if_neg (by simp), noOrdinal] at h
  cases h

/-- A label with no dot and no anchor after it is a position by itself. -/
theorem plain_readPlace_label {t : Token} (ht : t.kind = .label) {ts : List Token}
    (notDot : (g.peek ts).kind ≠ .dot) (notEdge : ∀ a, (g.peek ts).kind ≠ .edge a) :
    (g.readPlace (t :: ts)).plain =
      .ok (.object t.pos (.select t.pos (.label t.text)) none, ts) := by
  have noAnchor : anchorOf? t = none := by rw [anchorOf?, ht]
  have noOrdinal : plainOrdinal? (t :: ts) = none := by
    rw [plainOrdinal?_cons, ht]
    exact if_neg (by simp [Token.isWord, ht])
  have alone : plainMembers t.pos (.select t.pos (.label t.text)) ts =
      (.select t.pos (.label t.text), ts) := by
    rcases ts with - | ⟨d, - | ⟨l, ts⟩⟩
    · exact plainMembers_nil _ _
    · exact plainMembers_singleton _ _ d
    · rw [plainMembers_cons_cons, if_neg]
      exact fun h => notDot h.1
  rw [plain_readPlace_cons, noAnchor]
  dsimp only
  rw [plainUnanchored, noOrdinal]
  dsimp only
  rw [plain_readObjectPlace, plain_readObjectRef_cons, if_pos ht, alone, ok_bind]
  cases ts with
  | nil => rfl
  | cons d ts =>
    rw [peek_cons] at notEdge
    dsimp only
    cases hd : d.kind
    case edge a => exact absurd hd (notEdge a)
    all_goals rfl

/-- A measure of an object that begins with its label has a dot or an anchor after that label. -/
theorem namesColor_eq_false_of_placeScalar {t : Token} (ht : t.kind = .label) {ts : List Token}
    {s : Scalar × List Token} (h : (g.readPlaceScalar (t :: ts)).plain = .ok s) (u : Token) :
    g.namesColor u (g.peek ts) = false := by
  by_contra hcolor
  have notDot : (g.peek ts).kind ≠ .dot := fun hd => hcolor (by rw [namesColor, hd])
  have notEdge a : (g.peek ts).kind ≠ .edge a := fun hd => hcolor (by rw [namesColor, hd])
  rw [plain_readPlaceScalar, g.plain_readPlace_label ht notDot notEdge, ok_bind] at h
  match ts, notDot with
  | [], _ => cases h
  | [d], _ => cases h
  | d :: w :: rest, notDot =>
    dsimp only at h
    rw [if_neg fun hd => notDot hd.1] at h
    cases h

/-! ## Labels as positions -/

/-- A label that names no colour is a position, unless a dot, an anchor or a sign follows. -/
theorem plain_readPosition_label {t : Token} (ht : t.kind = .label)
    (hc : g.colors.knows t.text = false) {ts : List Token} (notDot : (g.peek ts).kind ≠ .dot)
    (notEdge : ∀ a, (g.peek ts).kind ≠ .edge a) (notPlus : (g.peek ts).kind ≠ .plus)
    (notMinus : (g.peek ts).kind ≠ .minus) :
    (g.readPosition (t :: ts)).plain =
      .ok (.object t.pos (.select t.pos (.label t.text)) none, ts) := by
  have notBetween : (g.peek (t :: ts)).isWord "between" = false := by simp [Token.isWord, ht]
  have noColor : g.namesColor t (g.peek ts) = false := by
    rw [namesColor]
    split
    · rfl
    · rfl
    · exact hc
  have rewinds : g.Rewinds (t :: ts) := by
    intro p hp
    rw [plain_readExpression_operations, g.plain_readSigned_label ht, noColor,
      if_neg (by simp)] at hp
    obtain ⟨s, hs, -⟩ := exists_of_bind_eq_ok hp
    obtain ⟨d, w, hd, hdot⟩ := g.readPlaceScalar_rest (g.plain_readPlace_label ht notDot notEdge) hs
    change ts = d :: w :: s.2 at hd
    exact absurd (by rw [hd]; exact hdot) notDot
  rw [plain_readPosition, g.plain_readPositionPrimary_of_rewinds notBetween rewinds,
    plain_readGroupOrPlace_cons, if_neg (by simp [ht]), g.plain_readPlace_label ht notDot notEdge,
    ok_bind]
  cases ts with
  | nil => exact g.plain_readOffsets_nil _
  | cons u ts => rw [plain_readOffsets_cons, if_neg (by rintro (h | h) <;> contradiction)]

theorem goesOn_peek_of_makesPosition {ts : List Token} (h : g.makesPosition ts = true) :
    (g.peek ts).kind.goesOn = false := by
  cases ts with
  | nil => cases h
  | cons t ts =>
    rw [makesPosition] at h
    rw [peek_cons]
    cases hk : t.kind <;> rw [hk] at h <;> first
      | rfl
      | cases h

/-- A label that names a colour is no position where what follows makes one of a number. -/
theorem readPosition_ne_label {t : Token} (ht : t.kind = .label) {ts : List Token}
    (hc : g.namesColor t (g.peek ts) = true) (hm : g.makesPosition ts = true) (q : Position) :
    (g.readPosition (t :: ts)).plain ≠ .ok (q, ts) := by
  intro h
  have notBetween : (g.peek (t :: ts)).isWord "between" = false := by simp [Token.isWord, ht]
  have signed := g.plain_readSigned_label ht ts
  rw [if_pos hc] at signed
  have number := plain_readExpression_of_signed signed (g.goesOn_peek_of_makesPosition hm)
  rw [plain_readPosition] at h
  obtain ⟨base, hbase, hoffsets⟩ := exists_of_bind_eq_ok h
  have hleft := Reading.length_lt_of_plain hoffsets
  rcases g.readPositionPrimary_cases notBetween hbase with ⟨rewinds, -⟩ | ⟨p, hp, -, hafter⟩
  · exact absurd (rewinds _ number) (by simp [hm])
  · rw [number] at hp
    cases hp
    have shorter : base.2.length < ts.length := Reading.length_lt_of_plain? hafter
    omega

end Reader

end DiagramScript
