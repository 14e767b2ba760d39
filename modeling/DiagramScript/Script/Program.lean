import DiagramScript.Script.ReadingExpressions
import DiagramScript.Script.Statement
import DiagramScript.Token.Expansion

/-!
# Reading scripts

* `readAttribute` — one clause of a declaration, added to the clauses before it.  A
  word that marks a line of text changes the last line instead.
* `readStatement`, `readStatements` — statements, and the bodies of groups.
* `Program.ofTokens` — the statements that a list of tokens makes up.
* `Program.ofSource` — the statements of a script: its tokens are scanned, its
  definitions expanded, and what remains is read.
-/

namespace DiagramScript

namespace Reader

variable (g : Reader)

/-! ## Operands -/

/-- Whether the kind of a token is that of an operator between numbers. -/
def isOperator (kind : TokenKind) : Bool :=
  kind = .plus || kind = .minus || kind = .star || kind = .slash

/-- Whether an operand that may be missing is there, judged by its first two tokens. -/
def beginsScalar (ts : List Token) : Bool :=
  let t := g.peek ts
  let following := g.peekSecond ts
  match t.kind with
  | .number .. => true
  | .percent _ => true
  | .sigil => true
  | .lparen => true
  | .minus => true
  | .label =>
    match following.kind with
    | .dot => true
    | .edge _ => true
    | _ => false
  | .word =>
    !isKeyword t.text
      && (isBuiltinVariable t.text || isFunctionName t.text || isOperator following.kind)
  | _ => false

/-- Reads a size: a single percentage, or a number. -/
def readSize (ts : List Token) : Reading Scalar ts.length :=
  match ts with
  | [] => g.readExpression []
  | t :: rest =>
    match t.kind with
    | .percent v => .ok (.single (.percent t.pos v) t rest)
    | _ => g.readExpression (t :: rest)

/-- Reads a size that may be missing; whatever is no size is left alone. -/
def readOptionalSize (ts : List Token) : Parsed (Option Scalar) (ts.length + 1) :=
  if g.beginsScalar ts then
    match g.readSize ts with
    | .ok s => (s.map some).weaken
    | .error _ => .unread none ts
  else .unread none ts

/-! ## Clauses -/

/-- Clauses, and the tokens after them. -/
abbrev Clauses := List Attribute

/-- Marks the last line of text among some clauses; without one there is nothing to mark. -/
def markLastText (m : TextModifier) : Clauses → Option Clauses
  | [] => none
  | a :: rest =>
    match markLastText m rest with
    | some marked => some (a :: marked)
    | none =>
      match a.clause with
      | .text line => some ({ a with clause := .text (line.modify m) } :: rest)
      | _ => none

/-- Reads the point that a path runs level with. -/
def readUntil (ts : List Token) : Reading Position ts.length := do
  let even ← g.readWord "even" ts
  let word ← g.readWord "with" even.rest
  let p ← g.readPosition word.rest
  .ok (even.following (word.following p))

/-- Reads a clause that starts with a word, given the word. -/
def readWordClause (t : Token) (ts : List Token) :
    Except Diagnostic (Option (Parsed Clause (ts.length + 1))) :=
  match Dimension.ofWord? t.text, Flag.ofWord? t.text, Direction.ofName? t.text with
  | some d, _, _ => do
    let v ← g.readSize ts
    .ok (some ((v.map (.size d)).after t))
  | none, some f, _ => .ok (some (.unread (.flag f) ts))
  | none, none, some d =>
    if (g.peek ts).isWord "until" then do
      let p ← g.readUntil (ts.drop 1)
      .ok (some (p.map (.directionUntil d)).afterDrop)
    else .ok (some ((g.readOptionalSize ts).map (.direction d)))
  | none, none, none =>
    match t.text with
    | "thickness" => do
      let v ← g.readSize ts
      .ok (some ((v.map .thickness).after t))
    | "dotted" => .ok (some ((g.readOptionalSize ts).map .dotted))
    | "dashed" => .ok (some ((g.readOptionalSize ts).map .dashed))
    | "fill" => do
      let v ← g.readExpression ts
      .ok (some ((v.map .fill).after t))
    | "color" | "colour" => do
      let v ← g.readExpression ts
      .ok (some ((v.map .color).after t))
    | "same" =>
      if (g.peek ts).isWord "as" then do
        let ref ← g.readObjectRef (ts.drop 1)
        .ok (some (ref.map fun r => .same (some r)).afterDrop)
      else .ok (some (.unread (.same none) ts))
    | "at" => do
      let p ← g.readPosition ts
      .ok (some ((p.map .located).after t))
    | "with" => do
      let a ← g.readAnchor ts
      let word ← g.readWord "at" a.rest
      let p ← g.readPosition word.rest
      .ok (some ((a.following (word.following (p.map (.anchored a.value)))).after t))
    | "from" => do
      let p ← g.readPosition ts
      .ok (some ((p.map .start).after t))
    | "to" => do
      let p ← g.readPosition ts
      .ok (some ((p.map .target).after t))
    | "then" =>
      if (g.peek ts).isTerminator then .error (unexpected (g.peek ts) .pathSegment)
      else .ok (some (.unread .next ts))
    | "heading" => do
      let angle ← g.readExpression ts
      let distance := g.readOptionalSize angle.rest
      .ok (some ((angle.continuing (distance.map (.heading angle.value))).after t))
    | "until" => do
      let p ← g.readUntil ts
      .ok (some ((p.map .untilEven).after t))
    | _ => .ok none

/-- Reads a bare length; the mistake, if there is none, depends on what stands there. -/
def readDistance (t : Token) (ts : List Token) : Reading Clause (ts.length + 1) :=
  if g.beginsScalar (t :: ts) then do
    let v ← g.readSize (t :: ts)
    .ok (v.map .distance)
  else if t.kind = .word then .error (grammarError t (.unknownAttribute t.text))
  else .error (unexpected t .attributeClause)

/-- Reads one clause, and adds it to the clauses before it. -/
def readAttribute (before : Clauses) (ts : List Token) : Reading Clauses ts.length :=
  match ts with
  | [] => .error (unexpected g.final .attributeClause)
  | t :: rest =>
    let add (c : Parsed Clause (rest.length + 1)) : Reading Clauses (t :: rest).length :=
      .ok (c.map fun c => before ++ [⟨t.pos, c⟩])
    match t.kind with
    | .str s => add (.unread (.text { text := s }) rest)
    | .arrow => add (.unread (.arrow (.ofSign t.text)) rest)
    | .word => do
      match ← g.readWordClause t rest with
      | some c => add c
      | none =>
        if t.text = "go" then .ok (.single before t rest)
        else
          match TextModifier.ofName? t.text with
          | some m =>
            match markLastText m before with
            | some marked => .ok (.single marked t rest)
            | none => .error (grammarError t (.modifierWithoutText t.text))
          | none =>
            if isKeyword t.text then .error (grammarError t (.unexpectedKeyword t.text))
            else do
              let c ← g.readDistance t rest
              add c
    | _ => do
      let c ← g.readDistance t rest
      add c

/-- Reads all clauses of a declaration. -/
def readAttributes (before : Clauses) (ts : List Token) : Reading Clauses (ts.length + 1) :=
  if (g.peek ts).isTerminator then .ok (.unread before ts)
  else do
    let one ← g.readAttribute before ts
    let all ← readAttributes one.value one.rest
    .ok (one.continuing all).weaken
termination_by ts.length
decreasing_by exact one.shorter

/-! ## Statements -/

/-- Whether an object is declared next. -/
def beginsObject (ts : List Token) : Bool :=
  let t := g.peek ts
  match t.kind with
  | .str _ => true
  | .lbracket => true
  | .word => (ObjectClass.ofKeyword? t.text).isSome
  | _ => false

/-- Whether a token can be assigned to. -/
def isAssignable (t : Token) : Bool :=
  match t.kind with
  | .sigil => true
  | .word => !isKeyword t.text || t.text = "fill" || t.text = "color" || t.text = "thickness"
  | _ => false

/-- Reads one thing that is printed: a string, or a number. -/
def readPrintItem (ts : List Token) : Reading PrintItem ts.length :=
  match ts with
  | [] => (g.readExpression []).map (·.map .value)
  | t :: rest =>
    match t.kind with
    | .str s => .ok (.single (.text s) t rest)
    | _ => (g.readExpression (t :: rest)).map (·.map .value)

/-- Reads what is printed, separated by commas. -/
def readPrintItems (ts : List Token) : Reading (List PrintItem) ts.length := do
  let first ← g.readPrintItem ts
  match hr : first.rest with
  | c :: rest =>
    if c.kind = .comma then do
      let more ← readPrintItems rest
      .ok ((more.map (first.value :: ·)).widen (Nat.le_of_lt (Parsed.length_lt_of_rest hr)))
    else .ok (first.map ([·]))
  | [] => .ok (first.map ([·]))
termination_by ts.length
decreasing_by exact Parsed.length_lt_of_rest hr

/-- Reads an assertion, after its opening parenthesis: about two numbers if it can be read so,
and otherwise about two points. -/
def readAssertion (pos : SourcePos) (ts : List Token) : Reading Statement ts.length :=
  let scalars : Reading Statement ts.length := do
    let left ← g.readExpression ts
    let eq ← g.readMark .equal "==" left.rest
    let right ← g.readExpression eq.rest
    let close ← g.readMark .rparen ")" right.rest
    .ok ⟨.assertScalars pos left.value right.value, close.rest, by
      have := left.shorter; have := eq.shorter; have := right.shorter; have := close.shorter
      omega⟩
  match scalars with
  | .ok s => .ok s
  | .error _ => do
    let left ← g.readPosition ts
    let eq ← g.readMark .equal "==" left.rest
    let right ← g.readPosition eq.rest
    let close ← g.readMark .rparen ")" right.rest
    .ok ⟨.assertPositions pos left.value right.value, close.rest, by
      have := left.shorter; have := eq.shorter; have := right.shorter; have := close.shorter
      omega⟩

/-- Drops the ends of statements at the start of some tokens. -/
def skipEnds (ts : List Token) : List Token := ts.dropWhile (·.kind = .eol)

theorem length_skipEnds_le (ts : List Token) : (skipEnds ts).length ≤ ts.length :=
  (List.dropWhile_sublist _).length_le

/-- Reads the attributes of an object of the given class. -/
def readObject (pos : SourcePos) (label : Option String) (cls : ObjectClass) (ts : List Token) :
    Reading Statement (ts.length + 1) := do
  let attributes ← g.readAttributes [] ts
  .ok (attributes.map (.object pos cls label))

mutual

/-- Reads the declaration of an object or of a group, which may have a label before it. -/
def readDeclaration (pos : SourcePos) (label : Option String) (ts : List Token) :
    Reading Statement ts.length :=
  match ts with
  | [] => .error (unexpected g.final .statement)
  | t :: rest =>
    match t.kind with
    | .lbracket => do
      let body ← readStatements (some t) rest
      let close ← g.readMark .rbracket "]" body.rest
      let attributes ← g.readAttributes [] close.rest
      let group := attributes.map (Statement.group pos body.value label)
      .ok (body.following (close.continuing group))
    | .str _ => do
      -- The string itself is the first clause, so that a text without clauses cannot arise.
      let first ← g.readAttribute [] (t :: rest)
      let attributes ← g.readAttributes first.value first.rest
      .ok (first.continuing (attributes.map (.object pos .text label)))
    | _ =>
      match ObjectClass.ofKeyword? t.text with
      | some cls => g.readObject pos label cls rest
      | none => .error (unexpected t .statement)
termination_by 4 * ts.length
decreasing_by simp; omega

/-- Reads a statement. -/
def readStatement (ts : List Token) : Reading Statement ts.length :=
  match ts with
  | [] => .error (unexpected g.final .statement)
  | t :: rest =>
    let following := g.peek rest
    if t.kind = .label ∧ following.kind = .colon then
      if g.beginsObject (rest.drop 1) then do
        let s ← readDeclaration t.pos (some t.text) (rest.drop 1)
        .ok s.afterDrop
      else do
        let p ← g.readPosition (rest.drop 1)
        .ok (p.map (.place t.pos t.text)).afterDrop
    else
      match if t.kind = .word ∧ following.isTerminator then Direction.ofName? t.text else none with
      | some d => .ok (.single (.direction t.pos d) t rest)
      | none =>
        if following.kind = .assign ∧ isAssignable t = true then do
          let e ← g.readExpression (rest.drop 1)
          .ok (e.map (.assign t.pos t.text (.ofSign following.text))).afterDrop
        else if t.isWord "print" then do
          let items ← g.readPrintItems rest
          .ok ((items.map (.print t.pos)).after t)
        else if t.isWord "assert" then do
          let start ← g.readMark .lparen "(" rest
          let s ← g.readAssertion t.pos start.rest
          .ok ((start.following s).after t)
        else if g.beginsObject (t :: rest) then readDeclaration t.pos none (t :: rest)
        else .error (unexpected t .statement)
termination_by 4 * ts.length + 1
decreasing_by
  · simp; omega
  · omega

/-- Reads statements up to the end of the script, or to the bracket that closes the given one. -/
def readStatements (opener : Option Token) (ts : List Token) :
    Reading (List Statement) (ts.length + 1) :=
  let start := skipEnds ts
  let t := g.peek start
  match t.kind, opener with
  | .eof, some o => .error (grammarError o .unterminatedGroup)
  | .eof, none => .ok ((Parsed.unread [] start).widen (Nat.succ_le_succ (length_skipEnds_le ts)))
  | .rbracket, none => .error (grammarError t .unmatchedBracket)
  | .rbracket, some _ =>
    .ok ((Parsed.unread [] start).widen (Nat.succ_le_succ (length_skipEnds_le ts)))
  | _, _ => do
    let s ← readStatement start
    if (g.peek s.rest).isTerminator then do
      let more ← readStatements opener s.rest
      .ok ((s.continuing (more.map (s.value :: ·))).widen
        (Nat.le_succ_of_le (length_skipEnds_le ts)))
    else .error (unexpected (g.peek s.rest) .endOfStatement)
termination_by 4 * ts.length + 2
decreasing_by
  · have := length_skipEnds_le ts
    omega
  · have := length_skipEnds_le ts
    have : s.rest.length < (skipEnds ts).length := s.shorter
    omega

end

end Reader

/-! ## Scripts -/

namespace Program

/-- The token at the end of a list of tokens, and the tokens before it.  If the list does not
end a script, its end is put where the last token stands. -/
def splitFinal (ts : List Token) : List Token × Token :=
  match ts.getLast? with
  | none => ([], ⟨.eof, "", .first⟩)
  | some t => if t.kind = .eof then (ts.dropLast, t) else (ts, ⟨.eof, "", t.pos⟩)

/-- The statements that a list of tokens makes up. -/
def ofTokens (colors : ColorTable) (ts : List Token) : Except Diagnostic (List Statement) := do
  let (body, final) := splitFinal ts
  let g : Reader := { colors := colors, final := final }
  let r ← g.readStatements none body
  let last := g.peek r.rest
  if last.kind = .eof then .ok r.value else .error (unexpected last .endOfInput)

/-- The statements of a script. -/
def ofSource (colors : ColorTable) (source : String) : Except Failure (List Statement) := do
  let ts ← tokenize colors source
  let expanded ← expandTokens colors ts
  liftMistake (ofTokens colors expanded)

end Program

end DiagramScript
