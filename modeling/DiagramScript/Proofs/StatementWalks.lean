import Mathlib
import DiagramScript.Proofs.Concatenation
import DiagramScript.Proofs.ExpressionWalks

/-!
# Walks over statements

Walks over clauses and statements follow their readers too, and so does the walk over a whole
script.  So a parser with an index ends, and its index has left a trail.

* `attributes_follows`, `printItems_follows` — what a declaration says, and what is printed.
* `statements_follows` — statements, and the bodies of groups.
* `parse_ends` — a parser with an index ends as scripts are read, with its index inside.
-/

namespace DiagramScript

namespace Tape

variable {α β : Type} {x : Tape} {outer : List Pending} {i : Nat}

/-! ## Operands -/

theorem startsScalar_eq (x : Tape) (i : Nat) :
    x.startsScalar i = some ⟨.ok (x.reader.beginsScalar (x.left i)), i, []⟩ := by
  have ahead : x.reader.beginsScalar [x.reader.peek (x.left i), x.reader.peekSecond (x.left i)] =
      x.reader.beginsScalar (x.left i) := rfl
  rw [← ahead]
  simp only [startsScalar, bind, pure, peek_zero, peek_eq x i 1]
  rfl

theorem startsObject_eq (x : Tape) (i : Nat) :
    x.startsObject i = some ⟨.ok (x.reader.beginsObject (x.left i)), i, []⟩ := by
  simp [startsObject, bind, pure, peek_zero]
  rfl

theorem size_follows {depth : Nat} (hi : i ≤ x.body.length)
    (hd : 16 * (x.body.length - i) + 4 < depth) :
    x.Follows outer (x.size depth) i (x.reader.readSize (x.left i)).plain := by
  have number : x.Follows outer (x.expression depth) i _ := expression_follows depth hi hd
  refine Ends.peek ?_
  rcases x.left_cases i with hl | ⟨t, hl, hlt⟩
  · rw [hl] at number
    rw [hl, Reader.peek_nil, x.final]
    exact number
  rw [hl] at number
  rw [hl, Reader.peek_cons, Reader.plain_readSize_cons]
  cases hk : t.kind <;> dsimp only
  case percent => exact Ends.next hl (by simp [hk]) (Ends.pure hlt rfl)
  all_goals exact number

theorem optionalSize_follows {depth : Nat} (hi : i ≤ x.body.length)
    (hd : 16 * (x.body.length - i) + 4 < depth) :
    x.Follows outer (x.optionalSize depth) i (.ok (x.reader.plainOptionalSize (x.left i))) := by
  refine Ends.after (startsScalar_eq x i) (.nil _) ?_
  rw [Reader.plainOptionalSize_eq]
  cases hs : x.reader.beginsScalar (x.left i) with
  | false => exact Ends.pure hi rfl
  | true =>
    have tried : x.Follows outer (.tried (x.size depth)) i _ := Ends.tried hi (size_follows hi hd)
    rw [if_pos rfl, if_pos rfl]
    cases hp : (x.reader.readSize (x.left i)).plain with
    | error d =>
      rw [hp] at tried
      exact tried
    | ok s =>
      rw [hp] at tried
      exact tried

theorem levelWith_follows {depth : Nat} (hi : i ≤ x.body.length)
    (hd : 16 * (x.body.length - i) < depth) :
    x.Follows outer (x.levelWith depth) i (x.reader.readUntil (x.left i)).plain := by
  rw [Reader.plain_readUntil]
  refine Follows.bind (Ends.expectWord _ hi) fun even j hj he => ?_
  have hij := lt_of_plain hj he
  refine Follows.bind (Ends.expectWord _ hj) fun word k hk hw => ?_
  exact position_follows depth hk (by have := lt_of_plain hk hw; omega)

/-! ## Clauses -/

/-- A clause made of a word and an operand after it. -/
theorem operand_follows {m : Walk α} {p : Except Diagnostic (α × List Token)} {t : Token}
    {ts : List Token} (f : α → Clause) (hl : x.left i = t :: x.left (i + 1))
    (hf : t.kind ≠ .eof) (hm : x.Follows outer m (i + 1) p) :
    x.Follows outer (do
      let _ ← x.next
      let v ← m
      pure (some (f v))) i (orNothing ts (do
        let v ← p
        .ok (some (f v.1, v.2)))) :=
  Ends.next hl hf (Follows.bind? hm fun _ _ hj _ => Ends.pure hj rfl)

theorem wordClause_follows {depth : Nat} {t : Token} (hl : x.left i = t :: x.left (i + 1))
    (hf : t.kind ≠ .eof) (hlt : i + 1 ≤ x.body.length)
    (hd : 16 * (x.body.length - i) < depth) :
    x.Follows outer (x.wordClause depth t) i
      (orNothing (x.left i)
        (Reading.plain? (x.reader.readWordClause t (x.left (i + 1))))) := by
  have sized : x.Follows outer (x.size depth) (i + 1) _ := size_follows hlt (by omega)
  have maybe : x.Follows outer (x.optionalSize depth) (i + 1) _ :=
    optionalSize_follows hlt (by omega)
  have number : x.Follows outer (x.expression depth) (i + 1) _ :=
    expression_follows depth hlt (by omega)
  have point : x.Follows outer (x.position depth) (i + 1) _ :=
    position_follows depth hlt (by omega)
  rw [Reader.plain?_readWordClause, wordClause]
  cases Dimension.ofWord? t.text with
  | some d => exact operand_follows (.size d) hl hf sized
  | none =>
    cases Flag.ofWord? t.text with
    | some f => exact Ends.next hl hf (Ends.pure hlt rfl)
    | none =>
      cases Direction.ofName? t.text with
      | some d =>
        dsimp only
        refine Ends.next hl hf (Ends.accept (fun _ => Ends.isWord_stops)
          (fun u hu hl' hlt' => ?_) fun hn => ?_)
        · rw [hl', Reader.peek_cons, if_pos hu]
          refine Follows.bind? (levelWith_follows hlt' (by omega)) fun p j hj _ => ?_
          exact Ends.pure hj rfl
        · rw [if_neg (Bool.eq_false_iff.1 hn)]
          exact Ends.given maybe fun j hj hrest => Ends.pure hj (by rw [Gives, ← hrest]; rfl)
      | none =>
        dsimp only
        generalize t.text = word
        split
        case h_1 => exact operand_follows .thickness hl hf sized
        case h_2 => exact operand_follows .dotted hl hf maybe
        case h_3 => exact operand_follows .dashed hl hf maybe
        case h_4 => exact operand_follows .fill hl hf number
        case h_5 | h_6 => exact operand_follows .color hl hf number
        case h_7 =>
          refine Ends.next hl hf (Ends.accept (fun _ => Ends.isWord_stops)
            (fun u hu hl' hlt' => ?_) fun hn => ?_)
          · rw [hl', Reader.peek_cons, if_pos hu]
            refine Follows.bind? (objectRef_follows depth hlt' (by omega)) fun p j hj _ => ?_
            exact Ends.pure hj rfl
          · rw [if_neg (Bool.eq_false_iff.1 hn)]
            exact Ends.pure hlt rfl
        case h_8 => exact operand_follows .located hl hf point
        case h_9 =>
          refine Ends.next hl hf (Follows.bind? (anchor_follows hlt) fun a j hj ha => ?_)
          have hij := lt_of_plain hj ha
          refine Follows.bind? (Ends.expectWord _ hj) fun word k hk hw => ?_
          have hjk := lt_of_plain hk hw
          refine Follows.bind? (position_follows depth hk (by omega)) fun p l hl' _ => ?_
          exact Ends.pure hl' rfl
        case h_10 => exact operand_follows .start hl hf point
        case h_11 => exact operand_follows .target hl hf point
        case h_12 =>
          refine Ends.next hl hf (Ends.peek ?_)
          exact Follows.ite? (fun _ => Ends.fail hlt rfl) fun _ => Ends.pure hlt rfl
        case h_13 =>
          refine Ends.next hl hf (Follows.bind? number fun angle j hj ha => ?_)
          have hij := lt_of_plain hj ha
          exact Ends.given (optionalSize_follows hj (by omega)) fun k hk hrest =>
            Ends.pure hk (by rw [Gives, ← hrest]; rfl)
        case h_14 => exact operand_follows .untilEven hl hf (levelWith_follows hlt (by omega))
        case h_15 =>
          simp only [*]
          exact Ends.pure (by omega) (by rw [Gives, hl]; rfl)

theorem distance_follows {depth : Nat} {t : Token} (hl : x.left i = t :: x.left (i + 1))
    (hlt : i + 1 ≤ x.body.length) (hd : 16 * (x.body.length - i) + 4 < depth) :
    x.Follows outer (x.distance depth t) i (x.reader.readDistance t (x.left (i + 1))).plain := by
  rw [Reader.plain_readDistance, ← hl]
  refine Ends.after (startsScalar_eq x i) (.nil _) ?_
  refine Follows.ite (fun _ => ?_) fun _ => ?_
  · exact Follows.bind (size_follows (by omega) hd) fun v j hj _ => Ends.pure hj rfl
  · exact Follows.ite (fun _ => Ends.fail (by omega) rfl) fun _ => Ends.fail (by omega) rfl

theorem addAttribute_follows {depth : Nat} (before : Reader.Clauses) {t : Token}
    (hl : x.left i = t :: x.left (i + 1)) (hlt : i + 1 ≤ x.body.length)
    (hd : 16 * (x.body.length - i) + 4 < depth) :
    x.Follows outer (x.addAttribute depth before) i
      (x.reader.readAttribute before (x.left i)).plain := by
  have hi : i ≤ x.body.length := by omega
  have bare : x.Follows outer (do
      let c ← x.distance depth t
      pure (before ++ [⟨t.pos, c⟩])) i (do
      let c ← (x.reader.readDistance t (x.left (i + 1))).plain
      .ok (before ++ [⟨t.pos, c.1⟩], c.2)) :=
    Follows.bind (distance_follows hl hlt hd) fun c j hj _ => Ends.pure hj rfl
  refine Ends.peek ?_
  rw [hl, Reader.peek_cons, Reader.plain_readAttribute_cons]
  cases hk : t.kind <;> dsimp only
  case str => exact Ends.next hl (by simp [hk]) (Ends.pure hlt rfl)
  case arrow => exact Ends.next hl (by simp [hk]) (Ends.pure hlt rfl)
  case word =>
    have hf : t.kind ≠ .eof := by simp [hk]
    refine Follows.orElse hi (wordClause_follows hl hf hlt (by omega))
      (fun c j hj _ => Ends.pure hj rfl) fun _ => ?_
    dsimp only
    refine Follows.ite (fun _ => Ends.next hl hf (Ends.pure hlt rfl)) fun _ => ?_
    cases TextModifier.ofName? t.text with
    | some m =>
      refine Ends.next hl hf ?_
      dsimp only
      cases Reader.markLastText m before with
      | some marked => exact Ends.pure hlt rfl
      | none => exact Ends.fail hlt rfl
    | none =>
      dsimp only
      exact Follows.ite (fun _ => Ends.fail hi rfl) fun _ => bare
  all_goals exact bare

/-- Clauses follow one another, and each takes a token. -/
theorem attributes_follows (depth : Nat) (before : Reader.Clauses) {outer : List Pending} {i : Nat}
    (hi : i ≤ x.body.length) (hd : 16 * (x.body.length - i) + 5 < depth) :
    x.Follows outer (x.attributes depth before) i
      (x.reader.readAttributes before (x.left i)).plain := by
  induction depth generalizing outer i before with
  | zero => exact absurd hd (Nat.not_lt_zero _)
  | succ depth ih =>
    rw [attributes, Reader.plain_readAttributes]
    refine Ends.pass (Ends.peek ?_)
    by_cases hstop : (x.reader.peek (x.left i)).isTerminator = true
    · rw [if_pos hstop, if_pos hstop]
      exact Ends.pure hi rfl
    rw [if_neg hstop, if_neg hstop]
    rcases x.left_cases i with hl | ⟨t, hl, hlt⟩
    · rw [hl, Reader.peek_nil, Token.isTerminator, x.final] at hstop
      exact absurd rfl hstop
    refine Follows.turn (addAttribute_follows before hl hlt (by omega)) fun one j hj ho => ?_
    have := lt_of_plain hj ho
    exact Ends.pure hj ⟨this, ih one hj (by omega)⟩

/-! ## Statements -/

theorem Follows.map {m : Walk α} {p : Except Diagnostic (α × List Token)} (f : α → β)
    (hm : x.Follows outer m i p) :
    x.Follows outer (do
      let v ← m
      pure (f v)) i (p.map fun r => (f r.1, r.2)) := by
  refine Ends.follow hm (fun v j hj hp => ?_) fun e j hp => ?_
  · rw [hp]
    exact Ends.pure hj rfl
  · rw [hp]
    rfl

theorem printItem_follows {depth : Nat} (hi : i ≤ x.body.length)
    (hd : 16 * (x.body.length - i) + 4 < depth) :
    x.Follows outer (x.printItem depth) i (x.reader.readPrintItem (x.left i)).plain := by
  have number : x.Follows outer (do
      let e ← x.expression depth
      pure (PrintItem.value e)) i _ := Follows.map PrintItem.value (expression_follows depth hi hd)
  refine Ends.peek ?_
  rcases x.left_cases i with hl | ⟨t, hl, hlt⟩
  · rw [hl] at number
    rw [hl, Reader.peek_nil, x.final, Reader.plain_readPrintItem_nil]
    exact number
  rw [hl] at number
  rw [hl, Reader.peek_cons, Reader.plain_readPrintItem_cons]
  cases hk : t.kind <;> dsimp only
  case str => exact Ends.next hl (by simp [hk]) (Ends.pure hlt rfl)
  all_goals exact number

theorem printItems_follows (depth : Nat) {outer : List Pending} {i : Nat}
    (hi : i ≤ x.body.length) (hd : 16 * (x.body.length - i) + 5 < depth) :
    x.Follows outer (x.printItems depth) i (x.reader.readPrintItems (x.left i)).plain := by
  induction depth generalizing outer i with
  | zero => exact absurd hd (Nat.not_lt_zero _)
  | succ depth ih =>
    rw [printItems, Reader.plain_readPrintItems]
    refine Ends.pass (Follows.turn (printItem_follows hi (by omega)) fun item j hj hitem => ?_)
    have hij := lt_of_plain hj hitem
    dsimp only
    rcases x.left_cases j with hl | ⟨c, hl, hlt⟩
    · rw [hl]
      exact Ends.declines (by simp [hl, x.final]) (Ends.pure hj (by rw [Repeats, hl]))
    rw [hl]
    dsimp only
    by_cases hc : c.kind = .comma
    · rw [if_pos hc]
      refine Ends.accepts hl (by simp [hc]) (by simp [hc]) (Ends.pure hlt ⟨by omega, ?_⟩)
      exact Follows.bind (ih hlt (by omega)) fun more k hk _ => Ends.pure hk rfl
    · rw [if_neg hc]
      exact Ends.declines (by simp [hl, hc]) (Ends.pure hj (by rw [Repeats, hl]))

theorem comparedScalars_follows {depth : Nat} (pos : SourcePos) (hi : i ≤ x.body.length)
    (hd : 16 * (x.body.length - i) + 4 < depth) :
    x.Follows outer (x.comparedScalars depth pos) i
      (x.reader.plainComparedScalars pos (x.left i)) := by
  refine Follows.bind (expression_follows depth hi hd) fun left j hj hl => ?_
  have hij := lt_of_plain hj hl
  refine Follows.bind (Ends.expectMark (by simp) _ hj) fun eq k hk he => ?_
  have hjk := lt_of_plain hk he
  refine Follows.bind (expression_follows depth hk (by omega)) fun right l hl' _ => ?_
  exact Follows.bind (Ends.expectMark (by simp) _ hl') fun close m hm _ => Ends.pure hm rfl

theorem comparedPositions_follows {depth : Nat} (pos : SourcePos) (hi : i ≤ x.body.length)
    (hd : 16 * (x.body.length - i) + 8 < depth) :
    x.Follows outer (x.comparedPositions depth pos) i
      (x.reader.plainComparedPositions pos (x.left i)) := by
  refine Follows.bind (position_follows depth hi hd) fun left j hj hl => ?_
  have hij := lt_of_plain hj hl
  refine Follows.bind (Ends.expectMark (by simp) _ hj) fun eq k hk he => ?_
  have hjk := lt_of_plain hk he
  refine Follows.bind (position_follows depth hk (by omega)) fun right l hl' _ => ?_
  exact Follows.bind (Ends.expectMark (by simp) _ hl') fun close m hm _ => Ends.pure hm rfl

theorem assertion_follows {depth : Nat} (pos : SourcePos) (hi : i ≤ x.body.length)
    (hd : 16 * (x.body.length - i) + 8 < depth) :
    x.Follows outer (x.assertion depth pos) i (x.reader.readAssertion pos (x.left i)).plain := by
  have tried : x.Follows outer (.tried (x.comparedScalars depth pos)) i _ :=
    Ends.tried hi (comparedScalars_follows pos hi (by omega))
  rw [Reader.plain_readAssertion]
  cases hp : x.reader.plainComparedScalars pos (x.left i) with
  | ok s =>
    rw [hp] at tried
    exact Ends.given tried fun j hj hrest => Ends.pure hj (by rw [Gives, ← hrest])
  | error d =>
    rw [hp] at tried
    exact Ends.known tried hi (comparedPositions_follows pos hi hd)

theorem skipEnds_follows (depth : Nat) {outer : List Pending} {i : Nat}
    (hi : i ≤ x.body.length) (hd : x.body.length - i < depth) :
    x.Follows outer (x.skipEnds depth) i (.ok ((), Reader.skipEnds (x.left i))) := by
  induction depth generalizing outer i with
  | zero => exact absurd hd (Nat.not_lt_zero _)
  | succ depth ih =>
    rw [skipEnds]
    refine Ends.pass (Ends.accept ?_ (fun t ht hl hlt => ?_) fun hn => ?_)
    · intro t ht
      rw [of_decide_eq_true ht]
      simp
    · have skipped : Reader.skipEnds (x.left i) = Reader.skipEnds (x.left (i + 1)) := by
        rw [hl, Continuation.skipEnds_cons_of_eol (of_decide_eq_true ht)]
      rw [skipped]
      exact Ends.pure hlt ⟨by omega, ih hlt (by omega)⟩
    · have kept : Reader.skipEnds (x.left i) = x.left i := by
        revert hn
        cases x.left i with
        | nil => exact fun _ => rfl
        | cons t rest => exact fun hn => List.dropWhile_cons_of_neg (Bool.eq_false_iff.1 hn)
      rw [kept]
      exact Ends.pure hi rfl

theorem assignment_follows {depth : Nat} {t : Token} (hl : x.left i = t :: x.left (i + 1))
    (hsign : (x.reader.peek (x.left (i + 1))).kind = .assign)
    (ht : Reader.isAssignable t = true) (hd : 16 * (x.body.length - i) < depth) :
    x.Follows outer (x.assignment depth t) i (do
      let e ← (x.reader.readExpression ((x.left (i + 1)).drop 1)).plain
      .ok (.assign t.pos t.text (.ofSign (x.reader.peek (x.left (i + 1))).text) e.1, e.2)) := by
  rcases x.left_cases (i + 1) with hl' | ⟨u, hl', hlt'⟩
  · rw [hl', Reader.peek_nil, x.final] at hsign
    cases hsign
  rw [hl', Reader.peek_cons] at hsign
  rw [drop_left, hl', Reader.peek_cons]
  refine Ends.next hl (fun hf => ?_) (Ends.next hl' (by simp [hsign]) ?_)
  · rw [Reader.isAssignable, hf] at ht
    cases ht
  · exact Follows.bind (expression_follows depth hlt' (by omega)) fun e j hj _ => Ends.pure hj rfl

theorem printed_follows {depth : Nat} {t : Token} (hl : x.left i = t :: x.left (i + 1))
    (hlt : i + 1 ≤ x.body.length) (ht : t.isWord "print" = true)
    (hd : 16 * (x.body.length - i) < depth) :
    x.Follows outer (x.printed depth t) i (do
      let items ← (x.reader.readPrintItems (x.left (i + 1))).plain
      .ok (.print t.pos items.1, items.2)) := by
  refine Ends.next hl (Ends.isWord_stops ht) ?_
  exact Follows.bind (printItems_follows depth hlt (by omega)) fun items j hj _ => Ends.pure hj rfl

theorem asserted_follows {depth : Nat} {t : Token} (hl : x.left i = t :: x.left (i + 1))
    (hlt : i + 1 ≤ x.body.length) (ht : t.isWord "assert" = true)
    (hd : 16 * (x.body.length - i) < depth) :
    x.Follows outer (x.asserted depth t) i (do
      let start ← (x.reader.readMark .lparen "(" (x.left (i + 1))).plain
      (x.reader.readAssertion t.pos start.2).plain) := by
  refine Ends.next hl (Ends.isWord_stops ht) ?_
  refine Follows.bind (Ends.expectMark (by simp) _ hlt) fun start j hj hs => ?_
  have hij := lt_of_plain hj hs
  exact assertion_follows t.pos hj (by omega)

/-- At the end of the script no object is declared. -/
theorem left_of_beginsObject (h : x.reader.beginsObject (x.left i) = true) :
    ∃ t, x.left i = t :: x.left (i + 1) ∧ i + 1 ≤ x.body.length ∧ t.kind ≠ .eof := by
  rcases x.left_cases i with hl | ⟨t, hl, hlt⟩
  · rw [hl, Reader.beginsObject, Reader.peek_nil, x.final] at h
    cases h
  · refine ⟨t, hl, hlt, fun ht => ?_⟩
    rw [hl, Reader.beginsObject, Reader.peek_cons, ht] at h
    cases h

mutual

theorem declaration_follows (depth : Nat) (pos : SourcePos) (label : Option String)
    {outer : List Pending} {i : Nat} (hb : x.reader.beginsObject (x.left i) = true)
    (hi : i ≤ x.body.length) (hd : 16 * (x.body.length - i) + 6 < depth) :
    x.Follows outer (x.declaration depth pos label) i
      (x.reader.readDeclaration pos label (x.left i)).plain := by
  cases depth with
  | zero => exact absurd hd (Nat.not_lt_zero _)
  | succ depth =>
    obtain ⟨t, hl, hlt, hf⟩ := left_of_beginsObject hb
    rw [declaration]
    refine Ends.peek ?_
    rw [hl, Reader.peek_cons, Reader.plain_readDeclaration_cons]
    cases hk : t.kind <;> dsimp only
    case lbracket =>
      refine Ends.next hl hf ?_
      have inner : x.Follows outer (x.statements depth (some t)) (i + 1) _ :=
        statements_follows depth (some t) hlt (by omega)
      refine Follows.bind inner fun body j hj hb => ?_
      have hij := le_of_plain hlt hj hb
      refine Follows.bind (Ends.expectMark (by simp) _ hj) fun close k hk hc => ?_
      have hjk := lt_of_plain hk hc
      refine Follows.bind (attributes_follows depth [] hk (by omega)) fun clauses l hl' _ => ?_
      exact Ends.pure hl' rfl
    case str =>
      -- The reader takes the text as the first clause; here the loop over clauses does.
      have stays : (x.reader.peek (x.left i)).isTerminator ≠ true := by
        rw [hl, Reader.peek_cons, Token.isTerminator, hk]
        simp
      have all : x.Follows outer (x.attributes depth []) i _ :=
        attributes_follows depth [] hi (by omega)
      rw [Reader.plain_readAttributes, if_neg stays, hl] at all
      have whole := Follows.bind all
        (f := fun clauses => pure (Statement.object pos .text label clauses))
        (k := fun r => .ok (Statement.object pos .text label r.1, r.2))
        fun clauses j hj _ => Ends.pure hj rfl
      rwa [bind_assoc] at whole
    all_goals
      cases ObjectClass.ofKeyword? t.text with
      | none => exact Ends.fail hi rfl
      | some cls =>
        refine Ends.next hl hf ?_
        dsimp only
        rw [Reader.plain_readObject]
        exact Follows.bind (attributes_follows depth [] hlt (by omega)) fun clauses j hj _ =>
          Ends.pure hj rfl
termination_by depth

theorem statement_follows (depth : Nat) {outer : List Pending} {i : Nat}
    (hi : i ≤ x.body.length) (hd : 16 * (x.body.length - i) + 7 < depth) :
    x.Follows outer (x.statement depth) i (x.reader.readStatement (x.left i)).plain := by
  cases depth with
  | zero => exact absurd hd (Nat.not_lt_zero _)
  | succ depth =>
    rw [statement]
    refine Ends.peek (Ends.peekSecond ?_)
    rcases x.left_cases i with hl | ⟨t, hl, hlt⟩
    · have none_ : x.reader.beginsObject (x.left i) ≠ true := by
        simp [hl, Reader.beginsObject, x.final]
      rw [hl, Reader.plain_readStatement_nil, Reader.peekSecond_nil, Reader.peek_nil,
        if_neg (by simp [x.final]), if_neg (by simp [x.final])]
      dsimp only
      rw [if_neg (by simp [x.final]), if_neg (by simp [Token.isWord, x.final]),
        if_neg (by simp [Token.isWord, x.final])]
      refine Ends.after (startsObject_eq x i) (.nil _) ?_
      rw [if_neg none_]
      exact Ends.fail hi rfl
    rw [hl, Reader.peek_cons, Reader.peekSecond_cons, Reader.plain_readStatement_cons]
    refine Follows.ite (fun hplace => ?_) fun _ => ?_
    · rcases x.left_cases (i + 1) with hl' | ⟨u, hl', hlt'⟩
      · rw [hl', Reader.peek_nil, x.final] at hplace
        cases hplace.2
      have hcolon := hplace.2
      rw [hl', Reader.peek_cons] at hcolon
      refine Ends.next hl (by simp [hplace.1]) (Ends.next hl' (by simp [hcolon])
        (Ends.after (startsObject_eq x _) (.nil _) ?_))
      rw [drop_left]
      refine Follows.ite (fun hb => ?_) fun _ => ?_
      · exact declaration_follows depth t.pos (some t.text) hb hlt' (by omega)
      · exact Follows.bind (position_follows depth hlt' (by omega)) fun p j hj _ => Ends.pure hj rfl
    generalize hturn : (if t.kind = .word ∧ (x.reader.peek (x.left (i + 1))).isTerminator = true
      then Direction.ofName? t.text else none) = direction
    cases direction with
    | some d =>
      refine Ends.next hl (fun ht => ?_) (Ends.pure hlt rfl)
      rw [if_neg (by simp [ht])] at hturn
      cases hturn
    | none =>
      dsimp only
      refine Follows.ite (fun hassign => ?_) fun _ => ?_
      · exact assignment_follows hl hassign.1 hassign.2 (by omega)
      refine Follows.ite (fun hprint => printed_follows hl hlt hprint (by omega)) fun _ => ?_
      refine Follows.ite (fun hassert => asserted_follows hl hlt hassert (by omega)) fun _ => ?_
      rw [← hl]
      refine Ends.after (startsObject_eq x i) (.nil _) (Follows.ite (fun hb => ?_) fun _ => ?_)
      · exact declaration_follows depth t.pos none hb hi (by omega)
      · exact Ends.fail hi rfl
termination_by depth

theorem statements_follows (depth : Nat) (opener : Option Token) {outer : List Pending} {i : Nat}
    (hi : i ≤ x.body.length) (hd : 16 * (x.body.length - i) + 8 < depth) :
    x.Follows outer (x.statements depth opener) i
      (x.reader.readStatements opener (x.left i)).plain := by
  cases depth with
  | zero => exact absurd hd (Nat.not_lt_zero _)
  | succ depth =>
    rw [statements]
    refine Ends.pass (Ends.given (skipEnds_follows depth hi (by omega)) fun j hj hrest =>
      Ends.peek ?_)
    have hij : i ≤ j := by
      have := Reader.length_skipEnds_le (x.left i)
      rw [hrest, length_left, length_left] at this
      omega
    -- The end of a statement is taken in this pass, while the reader leaves it to the next one,
    -- which skips it.
    have step : x.Ends (.pass .statements i :: outer) (do
        let s ← x.statement depth
        let u ← x.peek 0
        if u.kind = .eol then do
          let _ ← x.next
          pure (.again s)
        else if u.isTerminator then pure (.again s)
        else .unexpected u .endOfStatement) j
        (x.Repeats outer i (fun s => do
          let more ← x.statements depth opener
          pure (s :: more)) (do
            let s ← (x.reader.readStatement (x.left j)).plain
            if (x.reader.peek s.2).isTerminator then do
              let more ← (x.reader.readStatements opener s.2).plain
              .ok (s.1 :: more.1, more.2)
            else .error (unexpected (x.reader.peek s.2) .endOfStatement))) := by
      refine Follows.turn (statement_follows depth hj (by omega)) fun s k hk hs => Ends.peek ?_
      have hjk := lt_of_plain hk hs
      have more : ∀ l, k ≤ l → l ≤ x.body.length → x.Follows outer (do
          let more ← x.statements depth opener
          pure (s :: more)) l (do
            let more ← (x.reader.readStatements opener (x.left l)).plain
            .ok (s :: more.1, more.2)) := fun l hkl hl =>
        Follows.bind (statements_follows depth opener hl (by omega)) fun more m hm _ =>
          Ends.pure hm rfl
      dsimp only
      by_cases heol : (x.reader.peek (x.left k)).kind = .eol
      · rcases x.left_cases k with hl | ⟨u, hl, hlt⟩
        · rw [hl, Reader.peek_nil, x.final] at heol
          cases heol
        rw [if_pos heol, if_pos (by simp [Token.isTerminator, heol])]
        rw [hl, Reader.peek_cons] at heol
        rw [hl, Reader.plain_readStatements_eol x.reader heol]
        exact Ends.next hl (by simp [heol]) (Ends.pure hlt ⟨by omega, more _ (by omega) hlt⟩)
      rw [if_neg heol]
      by_cases hstop : (x.reader.peek (x.left k)).isTerminator = true
      · rw [if_pos hstop, if_pos hstop]
        exact Ends.pure hk ⟨by omega, more k (Nat.le_refl k) hk⟩
      · rw [if_neg hstop, if_neg hstop]
        exact Ends.fail hk rfl
    rw [Reader.plain_readStatements, hrest]
    cases hk : (x.reader.peek (x.left j)).kind <;> cases opener <;> first
      | exact step
      | exact Ends.fail hj rfl
      | exact Ends.pure hj rfl
termination_by depth

end

/-! ## Scripts -/

/-- Where the script ends, its end is found and stays. -/
theorem expect_final (what : Expected) (hi : i ≤ x.body.length)
    (h : (x.reader.peek (x.left i)).kind = .eof) :
    x.expect (·.kind = .eof) what i = some ⟨.ok (x.reader.peek (x.left i)), i, []⟩ := by
  have found : x.tokens[i]? = some (x.reader.peek (x.left i)) := by
    rcases x.left_cases i with hl | ⟨t, hl, hlt⟩
    · have last : i = x.body.length := eq_of_left_eq hi (Nat.le_refl _) (hl.trans left_end.symm)
      rw [hl, last, tokens, List.getElem?_concat_length, Reader.peek_nil]
    · rw [tokens_getElem? hl, hl, Reader.peek_cons]
  simp [expect, bind, peek_zero, next, found, h]

theorem parse_follows (depth : Nat) (hd : 16 * x.body.length + 8 < depth) :
    x.Follows [] (x.parse depth) 0 (x.reader.readStatements none x.body).plain := by
  have all : x.Follows [] (x.statements depth none) 0 _ :=
    statements_follows depth none (Nat.zero_le _) hd
  refine Ends.follow all (fun ss j hj hss => ?_) fun e j hss => hss
  have stops := expect_final .endOfInput hj (x.reader.peek_readStatements hss)
  exact Ends.after stops (.nil _) (Ends.pure hj hss)

/-- Scripts are read as their tokens are, up to the end of the script. -/
theorem program_ofTokens (colors : ColorTable) (ts : List Token) :
    Program.ofTokens colors ts =
      ((ofTokens colors ts).reader.readStatements none (ofTokens colors ts).body).plain.map
        Prod.fst := by
  have same : Program.ofTokens colors ts = (do
      let r ← (ofTokens colors ts).reader.readStatements none (ofTokens colors ts).body
      let last := (ofTokens colors ts).reader.peek r.rest
      if last.kind = .eof then .ok r.value else .error (unexpected last .endOfInput)) := rfl
  rw [same]
  cases h : (ofTokens colors ts).reader.readStatements none (ofTokens colors ts).body with
  | error d => rfl
  | ok r => exact if_pos (Reader.peek_readStatements _ (congrArg Reading.plain h))

/-- A parser that keeps the tokens of a script and moves an index over them ends, with the
statements of the script or with a grammatical mistake, as soon as it may call itself deeply
enough.  Its index always addresses a token, with no end of a script before it; it becomes smaller
only where a call goes back to the index that it has saved, and a pass of a loop leads to another
only behind where it began. -/
theorem parse_ends (colors : ColorTable) (ts : List Token) {depth : Nat}
    (enough : 16 * ts.length + 8 < depth) :
    ∃ run, (ofTokens colors ts).parse depth 0 = some run ∧
      run.result.mapError Mistake.diagnostic = Program.ofTokens colors ts ∧
      (ofTokens colors ts).tokens = ended ts ∧
      Trail (ended ts) ⟨0, []⟩ run.log ⟨run.index, []⟩ ∧
      Addresses (ended ts) 0 ∧ ∀ e ∈ run.log, Addresses (ended ts) e.index := by
  have short : (ofTokens colors ts).body.length ≤ ts.length := Program.length_splitFinal_le ts
  obtain ⟨run, hrun, trail, -, answer⟩ :=
    parse_follows (x := ofTokens colors ts) depth (by omega)
  have start : Addresses (ofTokens colors ts).tokens 0 := addresses_zero _ _
  have inside := trail.addresses (ofTokens colors ts).final ⟨start, by simp⟩
  rw [tokens_ofTokens] at trail start
  refine ⟨run, hrun, ?_, tokens_ofTokens colors ts, trail, start, ?_⟩
  · rw [program_ofTokens]
    cases h : run.result with
    | ok ss =>
      rw [h] at answer
      exact (congrArg (Except.map Prod.fst) answer).symm
    | error e =>
      rw [h] at answer
      exact (congrArg (Except.map Prod.fst) answer).symm
  · rw [← tokens_ofTokens colors ts]
    exact inside

/-- In a script of two boxes, the first of which is placed at the object before it, the parser goes
back to that object once, and reads the second statement in a second pass. -/
theorem parse_ends_rewinding :
    let ts : List Token := [⟨.word, "box", ⟨1, 1⟩⟩, ⟨.word, "at", ⟨1, 5⟩⟩,
      ⟨.word, "previous", ⟨1, 8⟩⟩, ⟨.eol, "\n", ⟨1, 16⟩⟩, ⟨.word, "box", ⟨2, 1⟩⟩]
    16 * ts.length + 8 < 89 ∧
      ∃ run, (ofTokens .standard ts).parse 89 0 = some run ∧
        run.result.mapError Mistake.diagnostic = Program.ofTokens .standard ts ∧
        Trail (ended ts) ⟨0, []⟩ run.log ⟨run.index, []⟩ ∧
        ⟨.rewind, 2⟩ ∈ run.log ∧ ⟨.again .statements, 4⟩ ∈ run.log := by
  intro ts
  have enough : 16 * ts.length + 8 < 89 := by decide
  obtain ⟨run, hrun, result, -, trail, -⟩ := parse_ends .standard ts enough
  have log : ((ofTokens .standard ts).parse 89 0).map (fun r =>
      decide (⟨.rewind, 2⟩ ∈ r.log ∧ ⟨.again .statements, 4⟩ ∈ r.log)) = some true := by
    decide +kernel
  rw [hrun] at log
  exact ⟨enough, run, hrun, result, trail, of_decide_eq_true (Option.some.inj log)⟩

end Tape

end DiagramScript
