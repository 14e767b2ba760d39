import DiagramScript.Proofs.ReadingSteps
import DiagramScript.Script.Program

/-!
# Statements step by step

The readers of clauses and statements, one equation each, as for expressions.

* `plain_readExpression_of_apart` — where an expression ends.
* `plain?_readWordClause`, `plain_readAttributes` — what a declaration says.
* `plain_readStatement_cons`, `plain_readStatements` — statements, and the bodies of groups.
-/

namespace DiagramScript

namespace Reader

variable (g : Reader)

/-! ## Expressions -/

variable {g} in
/-- An operand that no operator follows is an expression by itself. -/
theorem plain_readExpression_of_apart {ts rest : List Token} {e : Scalar} {next : Token}
    (operand : (g.readSigned ts).plain = .ok (e, next :: rest))
    (apart : isOperator next.kind = false) :
    (g.readExpression ts).plain = .ok (e, next :: rest) := by
  rw [plain_readExpression, plain_readTerm, operand, ok_bind, plain_readFactors_cons]
  cases kind : next.kind <;> first
    | (rw [kind] at apart; cases apart; done)
    | (dsimp only
       rw [ok_bind, plain_readSums_cons, kind])

/-! ## Clauses -/

theorem plain_readSize_cons (t : Token) (rest : List Token) :
    (g.readSize (t :: rest)).plain = match t.kind with
      | .percent v => .ok (.percent t.pos v, rest)
      | _ => (g.readExpression (t :: rest)).plain := by
  rw [readSize.eq_def]
  dsimp only
  cases t.kind <;> rfl

/-- A size that may be missing, and the tokens after it. -/
def plainOptionalSize (ts : List Token) : Option Scalar × List Token :=
  (g.readOptionalSize ts).plain

/-- A size that cannot be read is left alone. -/
theorem plainOptionalSize_eq (ts : List Token) :
    g.plainOptionalSize ts =
      if g.beginsScalar ts then
        match (g.readSize ts).plain with
        | .ok s => (some s.1, s.2)
        | .error _ => (none, ts)
      else (none, ts) := by
  rw [plainOptionalSize, readOptionalSize]
  split_ifs with h
  · cases g.readSize ts <;> rfl
  · rfl

theorem plain_readUntil (ts : List Token) :
    (g.readUntil ts).plain = (do
      let even ← (g.readWord "even" ts).plain
      let word ← (g.readWord "with" even.2).plain
      (g.readPosition word.2).plain) := by
  rw [readUntil]
  exact Reading.plain_bind fun even => Reading.plain_bind fun word =>
    Reading.plain_bind_same fun p => rfl

theorem plain?_readWordClause (t : Token) (ts : List Token) :
    Reading.plain? (g.readWordClause t ts) =
      match Dimension.ofWord? t.text, Flag.ofWord? t.text, Direction.ofName? t.text with
      | some d, _, _ => (do
        let v ← (g.readSize ts).plain
        .ok (some (.size d v.1, v.2)))
      | none, some f, _ => .ok (some (.flag f, ts))
      | none, none, some d =>
        if (g.peek ts).isWord "until" then (do
          let p ← (g.readUntil (ts.drop 1)).plain
          .ok (some (.directionUntil d p.1, p.2)))
        else .ok (some (.direction d (g.plainOptionalSize ts).1, (g.plainOptionalSize ts).2))
      | none, none, none =>
        match t.text with
        | "thickness" => (do
          let v ← (g.readSize ts).plain
          .ok (some (.thickness v.1, v.2)))
        | "dotted" => .ok (some (.dotted (g.plainOptionalSize ts).1, (g.plainOptionalSize ts).2))
        | "dashed" => .ok (some (.dashed (g.plainOptionalSize ts).1, (g.plainOptionalSize ts).2))
        | "fill" => (do
          let v ← (g.readExpression ts).plain
          .ok (some (.fill v.1, v.2)))
        | "color" | "colour" => (do
          let v ← (g.readExpression ts).plain
          .ok (some (.color v.1, v.2)))
        | "same" =>
          if (g.peek ts).isWord "as" then (do
            let ref ← (g.readObjectRef (ts.drop 1)).plain
            .ok (some (.same (some ref.1), ref.2)))
          else .ok (some (.same none, ts))
        | "at" => (do
          let p ← (g.readPosition ts).plain
          .ok (some (.located p.1, p.2)))
        | "with" => (do
          let a ← (g.readAnchor ts).plain
          let word ← (g.readWord "at" a.2).plain
          let p ← (g.readPosition word.2).plain
          .ok (some (.anchored a.1 p.1, p.2)))
        | "from" => (do
          let p ← (g.readPosition ts).plain
          .ok (some (.start p.1, p.2)))
        | "to" => (do
          let p ← (g.readPosition ts).plain
          .ok (some (.target p.1, p.2)))
        | "then" =>
          if (g.peek ts).isTerminator then .error (unexpected (g.peek ts) .pathSegment)
          else .ok (some (.next, ts))
        | "heading" => (do
          let angle ← (g.readExpression ts).plain
          let distance := g.plainOptionalSize angle.2
          .ok (some (.heading angle.1 distance.1, distance.2)))
        | "until" => (do
          let p ← (g.readUntil ts).plain
          .ok (some (.untilEven p.1, p.2)))
        | _ => .ok none := by
  rw [readWordClause]
  cases Dimension.ofWord? t.text with
  | some d => exact Reading.plain?_bind fun v => rfl
  | none =>
    cases Flag.ofWord? t.text with
    | some f => rfl
    | none =>
      cases Direction.ofName? t.text with
      | some d =>
        exact Reading.plain?_ite (Reading.plain?_bind fun p => rfl) rfl
      | none =>
        dsimp only
        generalize t.text = word
        split
        case h_7 => exact Reading.plain?_ite (Reading.plain?_bind fun ref => rfl) rfl
        case h_9 =>
          exact Reading.plain?_bind fun a => Reading.plain?_bind fun word =>
            Reading.plain?_bind fun p => rfl
        case h_12 => exact Reading.plain?_ite rfl rfl
        case h_15 => simp [*]
        all_goals first
          | rfl
          | exact Reading.plain?_bind fun v => rfl

theorem plain_readDistance (t : Token) (ts : List Token) :
    (g.readDistance t ts).plain =
      if g.beginsScalar (t :: ts) then (do
        let v ← (g.readSize (t :: ts)).plain
        .ok (.distance v.1, v.2))
      else if t.kind = .word then .error (grammarError t (.unknownAttribute t.text))
      else .error (unexpected t .attributeClause) := by
  rw [readDistance]
  split_ifs with h₁ h₂
  · exact Reading.plain_bind fun v => rfl
  · rfl
  · rfl

theorem plain_readAttribute_cons (before : Clauses) (t : Token) (rest : List Token) :
    (g.readAttribute before (t :: rest)).plain =
      match t.kind with
      | .str s => .ok (before ++ [⟨t.pos, .text { text := s }⟩], rest)
      | .arrow => .ok (before ++ [⟨t.pos, .arrow (.ofSign t.text)⟩], rest)
      | .word => (do
        match ← Reading.plain? (g.readWordClause t rest) with
        | some c => .ok (before ++ [⟨t.pos, c.1⟩], c.2)
        | none =>
          if t.text = "go" then .ok (before, rest)
          else
            match TextModifier.ofName? t.text with
            | some m =>
              match markLastText m before with
              | some marked => .ok (marked, rest)
              | none => .error (grammarError t (.modifierWithoutText t.text))
            | none =>
              if isKeyword t.text then .error (grammarError t (.unexpectedKeyword t.text))
              else do
                let c ← (g.readDistance t rest).plain
                .ok (before ++ [⟨t.pos, c.1⟩], c.2))
      | _ => (do
        let c ← (g.readDistance t rest).plain
        .ok (before ++ [⟨t.pos, c.1⟩], c.2)) := by
  rw [readAttribute.eq_def]
  dsimp only
  cases t.kind <;> dsimp only
  case str => rfl
  case arrow => rfl
  case word =>
    refine Reading.plain_bind? fun c => ?_
    cases c with
    | some c => rfl
    | none =>
      refine Reading.plain_ite rfl ?_
      cases TextModifier.ofName? t.text with
      | some m =>
        dsimp only
        cases markLastText m before <;> rfl
      | none => exact Reading.plain_ite rfl (Reading.plain_bind fun c => rfl)
  all_goals exact Reading.plain_bind fun c => rfl

variable {g} in
/-- A clause that starts with a word goes after the others. -/
theorem plain_readAttribute_of_clause {w : Token} {ts rest : List Token} {c : Clause}
    (word : w.kind = .word)
    (clause : Reading.plain? (g.readWordClause w ts) = .ok (some (c, rest))) (before : Clauses) :
    (g.readAttribute before (w :: ts)).plain = .ok (before ++ [⟨w.pos, c⟩], rest) := by
  rw [plain_readAttribute_cons, word]
  dsimp only
  rw [clause, ok_bind]

theorem plain_readAttributes (before : Clauses) (ts : List Token) :
    (g.readAttributes before ts).plain =
      if (g.peek ts).isTerminator then .ok (before, ts)
      else (do
        let one ← (g.readAttribute before ts).plain
        (g.readAttributes one.1 one.2).plain) := by
  rw [readAttributes]
  split_ifs with h
  · rfl
  · exact Reading.plain_bind fun one => Reading.plain_bind_same fun all => rfl

/-! ## Statements -/

theorem plain_readPrintItem_nil :
    (g.readPrintItem []).plain = (g.readExpression []).plain.map fun e => (.value e.1, e.2) := by
  rw [readPrintItem]
  cases g.readExpression [] <;> rfl

theorem plain_readPrintItem_cons (t : Token) (rest : List Token) :
    (g.readPrintItem (t :: rest)).plain = match t.kind with
      | .str s => .ok (.text s, rest)
      | _ => (g.readExpression (t :: rest)).plain.map fun e => (.value e.1, e.2) := by
  rw [readPrintItem.eq_def]
  dsimp only
  cases t.kind <;> first
    | rfl
    | (dsimp only
       cases g.readExpression (t :: rest) <;> rfl)

theorem plain_readPrintItems (ts : List Token) :
    (g.readPrintItems ts).plain = (do
      let first ← (g.readPrintItem ts).plain
      match first.2 with
      | c :: rest =>
        if c.kind = .comma then do
          let more ← (g.readPrintItems rest).plain
          .ok (first.1 :: more.1, more.2)
        else .ok ([first.1], c :: rest)
      | [] => .ok ([first.1], [])) := by
  rw [readPrintItems]
  refine Reading.plain_bind fun first => ?_
  obtain ⟨first, left, hlt⟩ := first
  cases left with
  | nil => rfl
  | cons c rest =>
    dsimp only [Parsed.plain]
    split_ifs with h
    · exact Reading.plain_bind fun more => rfl
    · rfl

/-- Two numbers, as an assertion compares them. -/
def plainComparedScalars (pos : SourcePos) (ts : List Token) :
    Except Diagnostic (Statement × List Token) := do
  let left ← (g.readExpression ts).plain
  let eq ← (g.readMark .equal "==" left.2).plain
  let right ← (g.readExpression eq.2).plain
  let close ← (g.readMark .rparen ")" right.2).plain
  .ok (.assertScalars pos left.1 right.1, close.2)

/-- Two points, as an assertion compares them. -/
def plainComparedPositions (pos : SourcePos) (ts : List Token) :
    Except Diagnostic (Statement × List Token) := do
  let left ← (g.readPosition ts).plain
  let eq ← (g.readMark .equal "==" left.2).plain
  let right ← (g.readPosition eq.2).plain
  let close ← (g.readMark .rparen ")" right.2).plain
  .ok (.assertPositions pos left.1 right.1, close.2)

/-- One reading, or another if it fails. -/
theorem plain_orElse {ts : List Token} {r other : Reading Statement ts.length}
    {r' other' : Except Diagnostic (Statement × List Token)} :
    r.plain = r' → other.plain = other' →
      Reading.plain (match r with | .ok s => .ok s | .error _ => other) =
        match r' with | .ok s => .ok s | .error _ => other' := by
  rintro rfl rfl
  cases r <;> rfl

/-- What cannot be read as two numbers is read again as two points. -/
theorem plain_readAssertion (pos : SourcePos) (ts : List Token) :
    (g.readAssertion pos ts).plain =
      match g.plainComparedScalars pos ts with
      | .ok s => .ok s
      | .error _ => g.plainComparedPositions pos ts := by
  rw [readAssertion]
  refine plain_orElse ?_ ?_
  · exact Reading.plain_bind fun left => Reading.plain_bind fun eq =>
      Reading.plain_bind fun right => Reading.plain_bind fun close => rfl
  · exact Reading.plain_bind fun left => Reading.plain_bind fun eq =>
      Reading.plain_bind fun right => Reading.plain_bind fun close => rfl

theorem plain_readObject (pos : SourcePos) (label : Option String) (cls : ObjectClass)
    (ts : List Token) :
    (g.readObject pos label cls ts).plain = (do
      let attributes ← (g.readAttributes [] ts).plain
      .ok (.object pos cls label attributes.1, attributes.2)) := by
  rw [readObject]
  exact Reading.plain_bind fun attributes => rfl

theorem plain_readDeclaration_nil (pos : SourcePos) (label : Option String) :
    (g.readDeclaration pos label []).plain = .error (unexpected g.final .statement) := by
  rw [readDeclaration]
  rfl

theorem plain_readDeclaration_cons (pos : SourcePos) (label : Option String) (t : Token)
    (rest : List Token) :
    (g.readDeclaration pos label (t :: rest)).plain = match t.kind with
      | .lbracket => (do
        let body ← (g.readStatements (some t) rest).plain
        let close ← (g.readMark .rbracket "]" body.2).plain
        let attributes ← (g.readAttributes [] close.2).plain
        .ok (.group pos body.1 label attributes.1, attributes.2))
      | .str _ => (do
        let first ← (g.readAttribute [] (t :: rest)).plain
        let attributes ← (g.readAttributes first.1 first.2).plain
        .ok (.object pos .text label attributes.1, attributes.2))
      | _ =>
        match ObjectClass.ofKeyword? t.text with
        | some cls => (g.readObject pos label cls rest).plain
        | none => .error (unexpected t .statement) := by
  rw [readDeclaration.eq_def]
  dsimp only
  cases t.kind <;> dsimp only
  case lbracket =>
    exact Reading.plain_bind fun body => Reading.plain_bind fun close =>
      Reading.plain_bind fun attributes => rfl
  case str => exact Reading.plain_bind fun first => Reading.plain_bind fun attributes => rfl
  all_goals cases ObjectClass.ofKeyword? t.text <;> rfl

theorem plain_readStatement_nil :
    (g.readStatement []).plain = .error (unexpected g.final .statement) := by
  rw [readStatement]
  rfl

theorem plain_readStatement_cons (t : Token) (rest : List Token) :
    (g.readStatement (t :: rest)).plain =
      if t.kind = .label ∧ (g.peek rest).kind = .colon then
        if g.beginsObject (rest.drop 1) then
          (g.readDeclaration t.pos (some t.text) (rest.drop 1)).plain
        else (do
          let p ← (g.readPosition (rest.drop 1)).plain
          .ok (.place t.pos t.text p.1, p.2))
      else
        match if t.kind = .word ∧ (g.peek rest).isTerminator
          then Direction.ofName? t.text else none with
        | some d => .ok (.direction t.pos d, rest)
        | none =>
          if (g.peek rest).kind = .assign ∧ isAssignable t = true then (do
            let e ← (g.readExpression (rest.drop 1)).plain
            .ok (.assign t.pos t.text (.ofSign (g.peek rest).text) e.1, e.2))
          else if t.isWord "print" then (do
            let items ← (g.readPrintItems rest).plain
            .ok (.print t.pos items.1, items.2))
          else if t.isWord "assert" then (do
            let start ← (g.readMark .lparen "(" rest).plain
            (g.readAssertion t.pos start.2).plain)
          else if g.beginsObject (t :: rest) then
            (g.readDeclaration t.pos none (t :: rest)).plain
          else .error (unexpected t .statement) := by
  rw [readStatement]
  refine Reading.plain_ite (Reading.plain_ite ?_ ?_) ?_
  · exact Reading.plain_bind_same fun s => rfl
  · exact Reading.plain_bind fun p => rfl
  · generalize (if t.kind = .word ∧ (g.peek rest).isTerminator = true
      then Direction.ofName? t.text else none) = direction
    cases direction with
    | some d => rfl
    | none =>
      refine Reading.plain_ite ?_ (Reading.plain_ite ?_ (Reading.plain_ite ?_
        (Reading.plain_ite rfl rfl)))
      · exact Reading.plain_bind fun e => rfl
      · exact Reading.plain_bind fun items => rfl
      · exact Reading.plain_bind fun start => Reading.plain_bind_same fun s => rfl

/-- Statements end with the script, or with the bracket that closes their group. -/
theorem plain_readStatements (opener : Option Token) (ts : List Token) :
    (g.readStatements opener ts).plain =
      match (g.peek (skipEnds ts)).kind, opener with
      | .eof, some o => .error (grammarError o .unterminatedGroup)
      | .eof, none => .ok ([], skipEnds ts)
      | .rbracket, none => .error (grammarError (g.peek (skipEnds ts)) .unmatchedBracket)
      | .rbracket, some _ => .ok ([], skipEnds ts)
      | _, _ => (do
        let s ← (g.readStatement (skipEnds ts)).plain
        if (g.peek s.2).isTerminator then do
          let more ← (g.readStatements opener s.2).plain
          .ok (s.1 :: more.1, more.2)
        else .error (unexpected (g.peek s.2) .endOfStatement)) := by
  rw [readStatements.eq_def]
  dsimp only
  have step : Reading.plain (do
        let s ← g.readStatement (skipEnds ts)
        if (g.peek s.rest).isTerminator then do
          let more ← g.readStatements opener s.rest
          .ok ((s.continuing (more.map (s.value :: ·))).widen
            (Nat.le_succ_of_le (length_skipEnds_le ts)))
        else .error (unexpected (g.peek s.rest) .endOfStatement)) = (do
        let s ← (g.readStatement (skipEnds ts)).plain
        if (g.peek s.2).isTerminator then do
          let more ← (g.readStatements opener s.2).plain
          .ok (s.1 :: more.1, more.2)
        else .error (unexpected (g.peek s.2) .endOfStatement)) :=
    Reading.plain_bind fun s => Reading.plain_ite (Reading.plain_bind fun more => rfl) rfl
  cases (g.peek (skipEnds ts)).kind <;> cases opener <;> first
    | rfl
    | exact step

/-- Where neither the script nor a group ends, there is a statement. -/
theorem plain_readStatements_step {ts : List Token} (hf : (g.peek (skipEnds ts)).kind ≠ .eof)
    (hb : (g.peek (skipEnds ts)).kind ≠ .rbracket) (opener : Option Token) :
    (g.readStatements opener ts).plain = (do
      let s ← (g.readStatement (skipEnds ts)).plain
      if (g.peek s.2).isTerminator then do
        let more ← (g.readStatements opener s.2).plain
        .ok (s.1 :: more.1, more.2)
      else .error (unexpected (g.peek s.2) .endOfStatement)) := by
  rw [plain_readStatements]
  cases h : (g.peek (skipEnds ts)).kind <;> first
    | exact absurd h hf
    | exact absurd h hb
    | rfl

end Reader

end DiagramScript
