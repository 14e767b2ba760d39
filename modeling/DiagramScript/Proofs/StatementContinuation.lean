import DiagramScript.Proofs.Continuation
import DiagramScript.Proofs.Remainder

/-!
# Statements that go on

Clauses and statements are read alike on their own and with more text after them.

* `Continuation.readAttributes_alike`, `Continuation.readAssertion_alike` — all readers up to those
  of statements.
-/

namespace DiagramScript

namespace Continuation

variable (x : Continuation)

/-! ## Clauses -/

theorem beginsScalar_extend (ts : List Token) :
    x.outer.beginsScalar (x.extend ts) = x.inner.beginsScalar ts := by
  cases ts with
  | nil =>
    unfold Reader.beginsScalar
    dsimp only [extend_nil, Reader.peek_nil]
    rw [x.final]
    rcases x.kind_peek_tail with h | h <;> rw [h]
  | cons t ts =>
    unfold Reader.beginsScalar
    dsimp only [extend_cons, Reader.peek_cons]
    rw [Reader.peekSecond_cons, Reader.peekSecond_cons, Token.mapPos_kind, Token.mapPos_text]
    rcases x.peek_extend ts with h | ⟨-, ho | ho, hi⟩
    · rw [h, Token.mapPos_kind]
    · rw [ho, hi]
      rfl
    · rw [ho, hi]

theorem readSize_alike (ts : List Token) :
    Alike (x.carry (Scalar.mapPos x.move)) (x.inner.readSize ts).plain
      (x.outer.readSize (x.extend ts)).plain := by
  have number := x.readExpression_alike ts
  cases ts with
  | nil =>
    rw [extend_nil] at number ⊢
    revert number
    refine x.tail_cases id fun stop more hs number => ?_
    rw [Reader.plain_readSize_cons, hs]
    exact number
  | cons t ts =>
    rw [extend_cons] at number ⊢
    rw [Reader.plain_readSize_cons, Reader.plain_readSize_cons, Token.mapPos_kind]
    cases t.kind
    case percent v => exact .of_eq_ok rfl
    all_goals exact number

/-- A size that may be missing is missing in both texts, or in none. -/
theorem plainOptionalSize_extend (ts : List Token) :
    x.outer.plainOptionalSize (x.extend ts) =
      x.carry (Option.map (Scalar.mapPos x.move)) (x.inner.plainOptionalSize ts) := by
  have size := x.readSize_alike ts
  rw [Reader.plainOptionalSize_eq, Reader.plainOptionalSize_eq, beginsScalar_extend]
  split_ifs
  · generalize (x.inner.readSize ts).plain = r at size ⊢
    generalize (x.outer.readSize (x.extend ts)).plain = r' at size ⊢
    cases size <;> rfl
  · rfl

theorem readUntil_alike (ts : List Token) :
    Alike (x.carry (Position.mapPos x.move)) (x.inner.readUntil ts).plain
      (x.outer.readUntil (x.extend ts)).plain := by
  rw [Reader.plain_readUntil, Reader.plain_readUntil]
  refine x.andThen (x.readWord_alike "even" ts) fun even rest _ => ?_
  exact x.andThen (x.readWord_alike "with" rest) fun word rest _ => x.readPosition_alike rest

theorem readWordClause_alike (t : Token) (ts : List Token) :
    Alike (Option.map (x.carry (Clause.mapPos x.move)))
      (Reading.plain? (x.inner.readWordClause t ts))
      (Reading.plain? (x.outer.readWordClause (t.mapPos x.move) (x.extend ts))) := by
  have number := x.readExpression_alike ts
  have point := x.readPosition_alike ts
  have size := x.readSize_alike ts
  rw [Reader.plain?_readWordClause, Reader.plain?_readWordClause, Token.mapPos_text,
    isWord_peek_extend, isTerminator_peek_extend, plainOptionalSize_extend]
  cases Dimension.ofWord? t.text with
  | some d => exact x.andThen size fun v rest _ => .of_eq_ok rfl
  | none =>
    cases Flag.ofWord? t.text with
    | some flag => exact .of_eq_ok rfl
    | none =>
      cases Direction.ofName? t.text with
      | some d =>
        refine .ite Iff.rfl (fun h => ?_) fun _ => .of_eq_ok rfl
        rw [x.extend_drop_one (x.ne_nil_of_isWord_peek h)]
        exact x.andThen (x.readUntil_alike _) fun p rest _ => .of_eq_ok rfl
      | none =>
        dsimp only
        rw [isWord_peek_extend]
        generalize t.text = word
        split
        case h_1 => exact x.andThen size fun v rest _ => .of_eq_ok rfl
        case h_4 => exact x.andThen number fun v rest _ => .of_eq_ok rfl
        case h_5 => exact x.andThen number fun v rest _ => .of_eq_ok rfl
        case h_6 => exact x.andThen number fun v rest _ => .of_eq_ok rfl
        case h_7 =>
          refine .ite Iff.rfl (fun h => ?_) fun _ => .of_eq_ok rfl
          rw [x.extend_drop_one (x.ne_nil_of_isWord_peek h)]
          exact x.andThen (x.readObjectRef_alike _) fun ref rest _ => .of_eq_ok rfl
        case h_9 =>
          refine x.andThen (x.readAnchor_alike ts) fun a rest _ => ?_
          refine x.andThen (x.readWord_alike "at" rest) fun word rest _ => ?_
          exact x.andThen (x.readPosition_alike rest) fun p rest _ => .of_eq_ok rfl
        case h_12 => exact .ite Iff.rfl (fun _ => .error _ _) fun _ => .of_eq_ok rfl
        case h_13 =>
          refine x.andThen number fun angle rest _ => .of_eq_ok ?_
          dsimp only
          rw [plainOptionalSize_extend]
          rfl
        case h_14 => exact x.andThen (x.readUntil_alike ts) fun p rest _ => .of_eq_ok rfl
        all_goals first
          | exact .of_eq_ok rfl
          | exact x.andThen point fun p rest _ => .of_eq_ok rfl

theorem readDistance_alike (t : Token) (ts : List Token) :
    Alike (x.carry (Clause.mapPos x.move)) (x.inner.readDistance t ts).plain
      (x.outer.readDistance (t.mapPos x.move) (x.extend ts)).plain := by
  rw [Reader.plain_readDistance, Reader.plain_readDistance, ← extend_cons, beginsScalar_extend]
  refine .ite Iff.rfl (fun _ => ?_) fun _ => .ite Iff.rfl (fun _ => .error _ _) fun _ => .error _ _
  exact x.andThen (x.readSize_alike (t :: ts)) fun v rest _ => .of_eq_ok rfl

theorem markLastText_map (f : SourcePos → SourcePos) (m : TextModifier) (cs : Reader.Clauses) :
    Reader.markLastText m (cs.map (Attribute.mapPos f)) =
      (Reader.markLastText m cs).map (List.map (Attribute.mapPos f)) := by
  induction cs with
  | nil => rfl
  | cons a cs ih =>
    rw [List.map_cons, Reader.markLastText, Reader.markLastText, ih]
    cases Reader.markLastText m cs with
    | some marked => rfl
    | none =>
      obtain ⟨p, c⟩ := a
      cases c <;> rfl

theorem readAttribute_alike (before : Reader.Clauses) (ts : List Token) :
    Alike (x.carry (List.map (Attribute.mapPos x.move))) (x.inner.readAttribute before ts).plain
      (x.outer.readAttribute (before.map (Attribute.mapPos x.move)) (x.extend ts)).plain := by
  have more : ∀ (t : Token) (c : Clause),
      before.map (Attribute.mapPos x.move) ++ [⟨x.move t.pos, c.mapPos x.move⟩] =
        (before ++ [(⟨t.pos, c⟩ : Attribute)]).map (Attribute.mapPos x.move) := fun t c => by
    rw [List.map_append]
    rfl
  cases ts with
  | nil =>
    rw [extend_nil]
    refine x.tail_cases (.error _ _) fun stop more hs => ?_
    rw [Reader.plain_readAttribute_cons, hs]
    dsimp only
    rw [Reader.plain_readDistance, Reader.beginsScalar, Reader.peek_cons, hs]
    exact .error _ _
  | cons t ts =>
    have distance : Alike (x.carry (List.map (Attribute.mapPos x.move)))
        (do
          let c ← (x.inner.readDistance t ts).plain
          .ok (before ++ [⟨t.pos, c.1⟩], c.2))
        (do
          let c ← (x.outer.readDistance (t.mapPos x.move) (x.extend ts)).plain
          .ok (before.map (Attribute.mapPos x.move) ++ [(⟨x.move t.pos, c.1⟩ : Attribute)], c.2)) :=
      x.andThen (x.readDistance_alike t ts) fun c rest _ =>
        .of_eq_ok (congrArg (·, x.extend rest) (more t c))
    rw [extend_cons, Reader.plain_readAttribute_cons, Reader.plain_readAttribute_cons,
      Token.mapPos_kind]
    cases t.kind
    case str text => exact .of_eq_ok (congrArg (·, x.extend ts) (more t (.text { text := text })))
    case arrow => exact .of_eq_ok (congrArg (·, x.extend ts) (more t (.arrow (.ofSign t.text))))
    case word =>
      refine (x.readWordClause_alike t ts).bind fun c _ => ?_
      cases c with
      | some c => exact .of_eq_ok (congrArg (·, x.extend c.2) (more t c.1))
      | none =>
        refine .ite Iff.rfl (fun _ => .of_eq_ok rfl) fun _ => ?_
        rw [Token.mapPos_text]
        cases TextModifier.ofName? t.text with
        | none => exact .ite Iff.rfl (fun _ => .error _ _) fun _ => distance
        | some m =>
          dsimp only
          rw [markLastText_map]
          cases Reader.markLastText m before with
          | none => exact .error _ _
          | some marked => exact .ok (marked, ts)
    all_goals exact distance

/-- The clauses of a declaration are read alike. -/
theorem readAttributes_alike (before : Reader.Clauses) (ts : List Token) :
    Alike (x.carry (List.map (Attribute.mapPos x.move))) (x.inner.readAttributes before ts).plain
      (x.outer.readAttributes (before.map (Attribute.mapPos x.move)) (x.extend ts)).plain := by
  rw [Reader.plain_readAttributes, Reader.plain_readAttributes, isTerminator_peek_extend]
  refine .ite Iff.rfl (fun _ => .ok (before, ts)) fun _ => ?_
  exact x.andThen (x.readAttribute_alike before ts) fun one rest hlt =>
    readAttributes_alike one rest
termination_by ts.length

/-! ## Statements -/

theorem readPrintItem_alike (ts : List Token) :
    Alike (x.carry (PrintItem.mapPos x.move)) (x.inner.readPrintItem ts).plain
      (x.outer.readPrintItem (x.extend ts)).plain := by
  have number : Alike (x.carry (PrintItem.mapPos x.move))
      ((x.inner.readExpression ts).plain.map fun e => (PrintItem.value e.1, e.2))
      ((x.outer.readExpression (x.extend ts)).plain.map fun e => (PrintItem.value e.1, e.2)) := by
    have e := x.readExpression_alike ts
    generalize (x.inner.readExpression ts).plain = r at e ⊢
    generalize (x.outer.readExpression (x.extend ts)).plain = r' at e ⊢
    cases e with
    | error d e => exact .error _ _
    | ok p => exact .of_eq_ok rfl
  cases ts with
  | nil =>
    rw [extend_nil] at number ⊢
    rw [Reader.plain_readPrintItem_nil]
    revert number
    refine x.tail_cases (fun number => ?_) fun stop more hs number => ?_
    · rw [Reader.plain_readPrintItem_nil]
      exact number
    · rw [Reader.plain_readPrintItem_cons, hs]
      exact number
  | cons t ts =>
    rw [extend_cons] at number ⊢
    rw [Reader.plain_readPrintItem_cons, Reader.plain_readPrintItem_cons, Token.mapPos_kind]
    cases t.kind
    case str text => exact .of_eq_ok rfl
    all_goals exact number

theorem readPrintItems_alike (ts : List Token) :
    Alike (x.carry (List.map (PrintItem.mapPos x.move))) (x.inner.readPrintItems ts).plain
      (x.outer.readPrintItems (x.extend ts)).plain := by
  rw [Reader.plain_readPrintItems, Reader.plain_readPrintItems]
  refine x.andThen (x.readPrintItem_alike ts) fun first left hlt => ?_
  cases left with
  | nil =>
    dsimp only [extend_nil]
    refine .of_answer ?_
    rw [carry, extend_nil]
    refine x.tail_cases rfl fun stop more hs => ?_
    dsimp only
    rw [if_neg (by simp [hs])]
    rfl
  | cons c rest =>
    have : rest.length + 1 < ts.length := hlt
    refine .ite Iff.rfl (fun _ => ?_) fun _ => .of_eq_ok rfl
    exact x.andThen (readPrintItems_alike rest) fun more rest _ => .of_eq_ok rfl
termination_by ts.length

theorem readAssertion_alike (pos : SourcePos) (ts : List Token) :
    Alike (x.carry (Statement.mapPos x.move)) (x.inner.readAssertion pos ts).plain
      (x.outer.readAssertion (x.move pos) (x.extend ts)).plain := by
  have scalars : Alike (x.carry (Statement.mapPos x.move)) (x.inner.plainComparedScalars pos ts)
      (x.outer.plainComparedScalars (x.move pos) (x.extend ts)) := by
    refine x.andThen (x.readExpression_alike ts) fun left rest _ => ?_
    refine x.andThen (x.readMark_alike (by simp) "==" rest) fun eq rest _ => ?_
    refine x.andThen (x.readExpression_alike rest) fun right rest _ => ?_
    exact x.andThen (x.readMark_alike (by simp) ")" rest) fun close rest _ => .of_eq_ok rfl
  have positions : Alike (x.carry (Statement.mapPos x.move)) (x.inner.plainComparedPositions pos ts)
      (x.outer.plainComparedPositions (x.move pos) (x.extend ts)) := by
    refine x.andThen (x.readPosition_alike ts) fun left rest _ => ?_
    refine x.andThen (x.readMark_alike (by simp) "==" rest) fun eq rest _ => ?_
    refine x.andThen (x.readPosition_alike rest) fun right rest _ => ?_
    exact x.andThen (x.readMark_alike (by simp) ")" rest) fun close rest _ => .of_eq_ok rfl
  rw [Reader.plain_readAssertion, Reader.plain_readAssertion]
  generalize x.inner.plainComparedScalars pos ts = r at scalars ⊢
  generalize x.outer.plainComparedScalars (x.move pos) (x.extend ts) = r' at scalars ⊢
  cases scalars with
  | ok p => exact .ok p
  | error d e => exact positions

theorem readObject_alike (pos : SourcePos) (label : Option String) (cls : ObjectClass)
    (ts : List Token) :
    Alike (x.carry (Statement.mapPos x.move)) (x.inner.readObject pos label cls ts).plain
      (x.outer.readObject (x.move pos) label cls (x.extend ts)).plain := by
  rw [Reader.plain_readObject, Reader.plain_readObject]
  exact x.andThen (x.readAttributes_alike [] ts) fun attributes rest _ => .of_eq_ok rfl

theorem beginsObject_extend (ts : List Token) :
    x.outer.beginsObject (x.extend ts) = x.inner.beginsObject ts := by
  unfold Reader.beginsObject
  dsimp only
  rcases x.peek_extend ts with h | ⟨-, ho | ho, hi⟩
  · rw [h, Token.mapPos_kind, Token.mapPos_text]
  all_goals rw [ho, hi]

/-! ## Statements that are read in both texts

A group that is not closed in the text may be closed after it.  So for statements only one direction
holds: what can be read from the text on its own can be read from the longer text. -/

/-- What the first reading answers, the second answers too. -/
def Follows {α β : Type} (φ : α → β) (r : Except Diagnostic α) (r' : Except Diagnostic β) : Prop :=
  ∀ p, r = .ok p → r' = .ok (φ p)

theorem follows_of_alike {α β : Type} {φ : α → β} {r : Except Diagnostic α}
    {r' : Except Diagnostic β} (h : Alike φ r r') : Follows φ r r' :=
  fun _ hp => h.eq_ok hp

theorem follows_error {α β : Type} {φ : α → β} (d : Diagnostic) (r' : Except Diagnostic β) :
    Follows φ (.error d) r' :=
  fun _ h => nomatch h

theorem follows_ite {α β : Type} {φ : α → β} {r s : Except Diagnostic α}
    {r' s' : Except Diagnostic β} {c c' : Prop} [Decidable c] [Decidable c'] (hc : c' ↔ c)
    (hr : c → Follows φ r r') (hs : ¬ c → Follows φ s s') :
    Follows φ (if c then r else s) (if c' then r' else s') := by
  by_cases h : c
  · rw [if_pos h, if_pos (hc.2 h)]
    exact hr h
  · rw [if_neg h, if_neg (mt hc.1 h)]
    exact hs h

theorem followed {α γ δ : Type} {k : α → α} {φ : γ → δ} {n : Nat} {r : Reading α n}
    {r' : Except Diagnostic (α × List Token)} {next : α × List Token → Except Diagnostic γ}
    {next' : α × List Token → Except Diagnostic δ} (h : Follows (x.carry k) r.plain r')
    (hn : ∀ v rest, rest.length < n → Follows φ (next (v, rest)) (next' (k v, x.extend rest))) :
    Follows φ (r.plain >>= next) (r' >>= next') := by
  intro q hq
  cases hp : r.plain with
  | error d =>
    rw [hp] at hq
    cases hq
  | ok p =>
    rw [hp] at hq
    rw [h p hp]
    exact hn p.1 p.2 (Reading.length_lt_of_plain hp) q hq

theorem skipEnds_cons_of_eol {t : Token} (h : t.kind = .eol) (ts : List Token) :
    Reader.skipEnds (t :: ts) = Reader.skipEnds ts := by
  rw [Reader.skipEnds, List.dropWhile_cons_of_pos (by simp [h])]
  rfl

/-- The ends of statements at the start of the text are skipped alike; at its end, more are
skipped. -/
theorem skipEnds_extend (ts : List Token) :
    Reader.skipEnds (x.extend ts) =
      if Reader.skipEnds ts = [] then Reader.skipEnds x.tail
      else x.extend (Reader.skipEnds ts) := by
  induction ts with
  | nil => exact (if_pos rfl).symm
  | cons t ts ih =>
    rw [extend_cons]
    by_cases h : t.kind = .eol
    · rw [skipEnds_cons_of_eol h, skipEnds_cons_of_eol (t := t.mapPos x.move) h, ih]
    · have stays : ∀ u : Token, u.kind ≠ .eol → ∀ us, Reader.skipEnds (u :: us) = u :: us :=
        fun u hu us => List.dropWhile_cons_of_neg (by simp [hu])
      rw [stays t h, stays (t.mapPos x.move) h, if_neg (List.cons_ne_nil _ _)]
      rfl

mutual

theorem readDeclaration_follows (pos : SourcePos) (label : Option String) (ts : List Token) :
    Follows (x.carry (Statement.mapPos x.move)) (x.inner.readDeclaration pos label ts).plain
      (x.outer.readDeclaration (x.move pos) label (x.extend ts)).plain := by
  cases ts with
  | nil =>
    rw [Reader.plain_readDeclaration_nil]
    exact follows_error _ _
  | cons t ts =>
    have object : Follows (x.carry (Statement.mapPos x.move))
        (match ObjectClass.ofKeyword? t.text with
        | some cls => (x.inner.readObject pos label cls ts).plain
        | none => .error (unexpected t .statement))
        (match ObjectClass.ofKeyword? t.text with
        | some cls => (x.outer.readObject (x.move pos) label cls (x.extend ts)).plain
        | none => .error (unexpected (t.mapPos x.move) .statement)) := by
      cases ObjectClass.ofKeyword? t.text with
      | none => exact follows_error _ _
      | some cls => exact follows_of_alike (x.readObject_alike pos label cls ts)
    have text := x.readAttribute_alike [] (t :: ts)
    rw [extend_cons] at text ⊢
    rw [Reader.plain_readDeclaration_cons, Reader.plain_readDeclaration_cons, Token.mapPos_kind]
    cases t.kind
    case lbracket =>
      refine x.followed (readStatements_follows t ts) fun body rest _ => ?_
      refine follows_of_alike
        (x.andThen (x.readMark_alike (by simp) "]" rest) fun close rest _ => ?_)
      refine x.andThen (x.readAttributes_alike [] rest) fun attributes rest _ => .of_eq_ok ?_
      rw [carry, Statement.mapPos, statementsMapPos_eq_map]
    case str =>
      refine follows_of_alike (x.andThen text fun first rest _ => ?_)
      exact x.andThen (x.readAttributes_alike first rest) fun attributes rest _ => .of_eq_ok rfl
    all_goals exact object
termination_by 4 * ts.length

theorem readStatement_follows (ts : List Token) :
    Follows (x.carry (Statement.mapPos x.move)) (x.inner.readStatement ts).plain
      (x.outer.readStatement (x.extend ts)).plain := by
  cases ts with
  | nil =>
    rw [Reader.plain_readStatement_nil]
    exact follows_error _ _
  | cons t ts =>
    have declaration := readDeclaration_follows t.pos none (t :: ts)
    have begins := x.beginsObject_extend (t :: ts)
    rw [extend_cons] at declaration begins ⊢
    rw [Reader.plain_readStatement_cons, Reader.plain_readStatement_cons, begins,
      isTerminator_peek_extend]
    refine follows_ite ?_ (fun h => ?_) fun _ => ?_
    · rw [x.kind_peek_extend_iff ts (by simp) (by simp), Token.mapPos_kind]
    · have := (List.drop_suffix 1 ts).length_le
      rw [x.extend_drop_one (x.ne_nil_of_kind_peek (by simp) h.2), beginsObject_extend]
      refine follows_ite Iff.rfl (fun _ => ?_) fun _ => follows_of_alike ?_
      · exact readDeclaration_follows t.pos (some t.text) (ts.drop 1)
      · exact x.andThen (x.readPosition_alike _) fun p rest _ => .of_eq_ok rfl
    · rw [Token.mapPos_kind, Token.mapPos_text]
      generalize (if t.kind = .word ∧ (x.inner.peek ts).isTerminator = true
        then Direction.ofName? t.text else none) = direction
      cases direction with
      | some d => exact follows_of_alike (.of_eq_ok rfl)
      | none =>
        refine follows_ite ?_ (fun h => ?_) fun _ => ?_
        · rw [x.kind_peek_extend_iff ts (by simp) (by simp)]
          rfl
        · have hne := x.ne_nil_of_kind_peek (by simp) h.1
          rw [x.extend_drop_one hne]
          refine follows_of_alike
            (x.andThen (x.readExpression_alike _) fun e rest _ => .of_eq_ok ?_)
          cases ts with
          | nil => exact absurd rfl hne
          | cons u ts => rfl
        · refine follows_ite Iff.rfl (fun _ => ?_) fun _ => ?_
          · exact follows_of_alike (x.andThen (x.readPrintItems_alike ts) fun items rest _ =>
              .of_eq_ok rfl)
          · refine follows_ite Iff.rfl (fun _ => ?_) fun _ => ?_
            · exact follows_of_alike (x.andThen (x.readMark_alike (by simp) "(" ts)
                fun start rest _ => x.readAssertion_alike t.pos rest)
            · exact follows_ite Iff.rfl (fun _ => declaration) fun _ => follows_error _ _
termination_by 4 * ts.length + 1

/-- The body of a group is read from the longer text as from the text. -/
theorem readStatements_follows (opener : Token) (ts : List Token) :
    Follows (x.carry (List.map (Statement.mapPos x.move)))
      (x.inner.readStatements (some opener) ts).plain
      (x.outer.readStatements (some (opener.mapPos x.move)) (x.extend ts)).plain := by
  by_cases hf : (x.inner.peek (Reader.skipEnds ts)).kind = .eof
  · rw [Reader.plain_readStatements, hf]
    exact follows_error _ _
  · have skipped := x.skipEnds_extend ts
    rw [if_neg (x.ne_nil_of_kind_peek hf rfl)] at skipped
    have first := x.peek_extend (Reader.skipEnds ts)
    rw [← skipped] at first
    have same : (x.outer.peek (Reader.skipEnds (x.extend ts))).kind
        = (x.inner.peek (Reader.skipEnds ts)).kind := by
      rcases first with h | ⟨-, -, hi⟩
      · rw [h, Token.mapPos_kind]
      · exact absurd hi hf
    by_cases hb : (x.inner.peek (Reader.skipEnds ts)).kind = .rbracket
    · rw [Reader.plain_readStatements, Reader.plain_readStatements, same, hb, skipped]
      exact follows_of_alike (.of_eq_ok rfl)
    · have := Reader.length_skipEnds_le ts
      rw [Reader.plain_readStatements_step _ hf hb,
        Reader.plain_readStatements_step _ (same ▸ hf) (same ▸ hb), skipped]
      refine x.followed (readStatement_follows (Reader.skipEnds ts)) fun s rest _ => ?_
      dsimp only
      rw [isTerminator_peek_extend]
      refine follows_ite Iff.rfl (fun _ => ?_) fun _ => follows_error _ _
      exact x.followed (readStatements_follows opener rest) fun more rest _ =>
        follows_of_alike (.of_eq_ok rfl)
termination_by 4 * ts.length + 2

end

/-- The statements of a text are the first statements of the longer text. -/
theorem readStatements_extend (opener : Option Token) {ts : List Token}
    (ends : ∀ t ∈ ts, t.kind ≠ .eof) {ss : List Statement} {rest : List Token}
    (h : (x.inner.readStatements none ts).plain = .ok (ss, rest)) :
    (x.outer.readStatements opener (x.extend ts)).plain = (do
      let more ← (x.outer.readStatements opener x.tail).plain
      .ok (ss.map (Statement.mapPos x.move) ++ more.1, more.2)) := by
  have skipped := x.skipEnds_extend ts
  cases hs : Reader.skipEnds ts with
  | nil =>
    rw [Reader.plain_readStatements, hs, Reader.peek_nil, x.final] at h
    cases h
    rw [hs, if_pos rfl] at skipped
    rw [Reader.plain_readStatements, skipped, ← Reader.plain_readStatements]
    cases (x.outer.readStatements opener x.tail).plain <;> rfl
  | cons t us =>
    have suffix := Reader.skipEnds_suffix ts
    rw [hs] at suffix skipped
    rw [if_neg (List.cons_ne_nil t us)] at skipped
    have hf : t.kind ≠ .eof := ends t (suffix.subset (List.mem_cons_self ..))
    have hb : t.kind ≠ .rbracket := fun hb => by
      rw [Reader.plain_readStatements, hs, Reader.peek_cons, hb] at h
      cases h
    rw [Reader.plain_readStatements_step _ (by rw [hs]; exact hf) (by rw [hs]; exact hb), hs] at h
    rw [Reader.plain_readStatements_step _ (by rw [skipped]; exact hf) (by rw [skipped]; exact hb),
      skipped]
    obtain ⟨⟨s, left⟩, hp, h⟩ := exists_of_bind_eq_ok h
    have := Reading.length_lt_of_plain hp
    have := suffix.length_le
    have last : ∀ u ∈ left, u.kind ≠ .eof := fun u hu =>
      ends u (suffix.subset ((Reader.readStatement_suffix hp).subset hu))
    have follows : (x.outer.readStatement (x.extend (t :: us))).plain
        = .ok (s.mapPos x.move, x.extend left) := x.readStatement_follows (t :: us) _ hp
    rw [follows, ok_bind]
    by_cases ht : (x.inner.peek left).isTerminator = true
    · rw [if_pos ht] at h
      rw [if_pos ((x.isTerminator_peek_extend left).trans ht)]
      obtain ⟨⟨more, rest'⟩, hm, h⟩ := exists_of_bind_eq_ok h
      cases h
      rw [readStatements_extend opener last hm]
      cases (x.outer.readStatements opener x.tail).plain <;> rfl
    · rw [if_neg ht] at h
      cases h
termination_by ts.length

end Continuation

end DiagramScript
