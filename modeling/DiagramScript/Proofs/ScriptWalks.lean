import DiagramScript.Proofs.TokenWalks
import DiagramScript.Script.Program

/-!
# Walks over scripts

A parser of scripts that keeps all tokens and moves an index over them, with a walk for each kind
of phrase.  Walks that may call themselves are given how deeply they may.

* `objectRef`, `place` — references to objects, and the positions that are named by one.
* `expression`, `position` — numbers and points.
* `attributes`, `statements` — what a declaration says, and the bodies of groups.
* `parse` — a whole script; `Tape.ofTokens` and `ended` are the tokens that it is read from.
-/

namespace DiagramScript

namespace Program

/-- The token that is split off ends the script. -/
theorem kind_splitFinal (ts : List Token) : (splitFinal ts).2.kind = .eof := by
  rw [splitFinal]
  cases ts.getLast? with
  | none => rfl
  | some t =>
    dsimp only
    split_ifs with h
    · exact h
    · rfl

theorem length_splitFinal_le (ts : List Token) : (splitFinal ts).1.length ≤ ts.length := by
  rw [splitFinal]
  cases ts.getLast? with
  | none => exact Nat.zero_le _
  | some t =>
    dsimp only
    split_ifs
    · exact ts.dropLast_sublist.length_le
    · exact Nat.le_refl _

end Program

/-- The tokens of a script with a token that ends it, which is put where the last one stands if it
is missing. -/
def ended (ts : List Token) : List Token :=
  match ts.getLast? with
  | none => [⟨.eof, "", .first⟩]
  | some t => if t.kind = .eof then ts else ts ++ [⟨.eof, "", t.pos⟩]

namespace Tape

/-- The tokens that a script is read from. -/
def ofTokens (colors : ColorTable) (ts : List Token) : Tape where
  reader := ⟨colors, (Program.splitFinal ts).2⟩
  body := (Program.splitFinal ts).1
  final := Program.kind_splitFinal ts

theorem tokens_ofTokens (colors : ColorTable) (ts : List Token) :
    (ofTokens colors ts).tokens = ended ts := by
  cases h : ts.getLast? with
  | none =>
    obtain rfl := List.getLast?_eq_none_iff.1 h
    rfl
  | some t =>
    obtain ⟨body, rfl⟩ := List.getLast?_eq_some_iff.1 h
    by_cases ht : t.kind = .eof
    · simp [tokens, ofTokens, ended, Program.splitFinal, ht]
    · simp [tokens, ofTokens, ended, Program.splitFinal, ht]

variable {α : Type} (x : Tape)

/-! ## References to objects -/

/-- The class of an object. -/
def className : Walk ObjectClass := do
  let t ← x.peek 0
  let u ← x.peek 1
  match t.kind with
  | .word =>
    match ObjectClass.ofKeyword? t.text with
    | some cls => do
      let _ ← x.next
      pure cls
    | none => .unexpected t .className
  | .lbracket =>
    if u.kind = .rbracket then do
      let _ ← x.next
      let _ ← x.next
      pure .container
    else .unexpected t .className
  | _ => .unexpected t .className

/-- Whether a place in a sequence starts with a token. -/
def beginsOrdinal (t : Token) : Bool :=
  match t.kind with
  | .nth _ => true
  | _ => t.isWord "last"

/-- A place in a sequence, and whether it is counted from the last. -/
def ordinal : Walk (Nat × Bool) := do
  let t ← x.next
  match t.kind with
  | .nth n => do
    let last ← x.accept (·.isWord "last")
    pure (n, last.isSome)
  | _ => pure (1, true)

/-- Labels of members, each after a dot. -/
def members : Nat → SourcePos → ObjectRef → Walk ObjectRef
  | 0, _, _ => .stuck
  | depth + 1, pos, group =>
    .pass .members (do
      let d ← x.peek 0
      let l ← x.peek 1
      if d.kind = .dot ∧ l.kind = .label then do
        let _ ← x.next
        let child ← x.next
        pure (.again (.member pos group child.pos (.label child.text)))
      else pure (.done group)) (members depth pos)

/-- A reference to an object. -/
def objectRef : Nat → Walk ObjectRef
  | 0 => .stuck
  | depth + 1 => do
    let t ← x.peek 0
    if t.kind = .label then do
      let _ ← x.next
      x.members depth t.pos (.select t.pos (.label t.text))
    else if t.isWord "previous" then do
      let _ ← x.next
      x.members depth t.pos (.previous t.pos)
    else if beginsOrdinal t then do
      let place ← x.ordinal
      let cls ← x.className
      let selector := Selector.ordinal cls place.1 place.2
      match ← x.accept (·.isWord "in") with
      | some _ => do
        let group ← objectRef depth
        x.members depth t.pos (.member t.pos group t.pos selector)
      | none => x.members depth t.pos (.select t.pos selector)
    else .unexpected t .objectReference

/-! ## Positions named by an object -/

/-- The name of an anchor. -/
def anchor : Walk Anchor := do
  let t ← x.peek 0
  match Reader.anchorOf? t with
  | some a => do
    let _ ← x.next
    pure a
  | none => .unexpected t .anchorName

/-- A point of a path; without the word for it the index is restored. -/
def vertex (depth : Nat) (pos : SourcePos) : Walk (Option Position) :=
  .saving fun saved => do
    let place ← x.ordinal
    match ← x.accept (·.isWord "vertex") with
    | some _ => do
      let _ ← x.expectWord "of"
      let ref ← x.objectRef depth
      pure (some (.vertex pos place.1 ref place.2))
    | none => do
      let _ ← Walk.rewind saved
      pure none

/-- An object as a position, perhaps with an anchor after it. -/
def objectPlace (depth : Nat) (pos : SourcePos) : Walk Position := do
  let ref ← x.objectRef depth
  let t ← x.peek 0
  match t.kind with
  | .edge a => do
    let _ ← x.next
    pure (.object pos ref (some a))
  | _ => pure (.object pos ref none)

/-- A position that is named by an object. -/
def place (depth : Nat) : Walk Position := do
  let t ← x.peek 0
  let u ← x.peek 1
  if (Reader.anchorOf? t).isSome ∧ u.isWord "of" then do
    let a ← x.anchor
    let _ ← x.next
    let ref ← x.objectRef depth
    pure (.object t.pos ref (some a))
  else if beginsOrdinal t then do
    match ← x.vertex depth t.pos with
    | some p => pure p
    | none => x.objectPlace depth t.pos
  else x.objectPlace depth t.pos

/-- A coordinate or a measure of an object. -/
def placeScalar (depth : Nat) : Walk Scalar := do
  let start ← x.peek 0
  let p ← x.place depth
  let d ← x.peek 0
  let w ← x.peek 1
  match if d.kind = .dot ∧ w.kind = .word
    then Reader.scalarOfPlace? start.pos p w.text else none with
  | some s => do
    let _ ← x.next
    let _ ← x.next
    pure s
  | none => .unexpected d .property

/-! ## Numbers and points -/

/-- What a sign between two numbers asks for. -/
def sumOperator? : TokenKind → Option BinaryOp
  | .plus => some .add
  | .minus => some .sub
  | _ => none

/-- What a sign between two factors asks for. -/
def factorOperator? : TokenKind → Option BinaryOp
  | .star => some .mul
  | .slash => some .div
  | _ => none

/-- Arguments separated by commas, and the closing parenthesis. -/
def arguments (argument : Walk α) : Nat → Walk (List α)
  | 0 => .stuck
  | depth + 1 =>
    .pass .arguments (do
      let one ← argument
      match ← x.accept (·.kind = .rparen) with
      | some _ => pure (.done [one])
      | none => do
        let _ ← x.expect (·.kind = .comma) .commaOrParen
        pure (.again one)) fun one => do
      let more ← arguments argument depth
      pure (one :: more)

mutual

/-- A number. -/
def expression : Nat → Walk Scalar
  | 0 => .stuck
  | depth + 1 => do
    let left ← term depth
    sums depth left

/-- What is added to a number or subtracted from it. -/
def sums : Nat → Scalar → Walk Scalar
  | 0, _ => .stuck
  | depth + 1, left =>
    .pass .sums (do
      let t ← x.peek 0
      match sumOperator? t.kind with
      | some f => do
        let op ← x.next
        let right ← term depth
        pure (.again (.binary op.pos f left right))
      | none => pure (.done left)) (sums depth)

/-- A product. -/
def term : Nat → Walk Scalar
  | 0 => .stuck
  | depth + 1 => do
    let left ← signed depth
    factors depth left

/-- What a number is multiplied with or divided by. -/
def factors : Nat → Scalar → Walk Scalar
  | 0, _ => .stuck
  | depth + 1, left =>
    .pass .factors (do
      let t ← x.peek 0
      match factorOperator? t.kind with
      | some f => do
        let op ← x.next
        let right ← signed depth
        pure (.again (.binary op.pos f left right))
      | none => pure (.done left)) (factors depth)

/-- A number with any signs before it. -/
def signed : Nat → Walk Scalar
  | 0 => .stuck
  | depth + 1 => do
    let t ← x.peek 0
    match t.kind with
    | .minus => do
      let _ ← x.next
      let operand ← signed depth
      pure (.neg t.pos operand)
    | .plus => do
      let _ ← x.next
      signed depth
    | _ => primary depth

/-- A single operand. -/
def primary : Nat → Walk Scalar
  | 0 => .stuck
  | depth + 1 => do
    let t ← x.peek 0
    let u ← x.peek 1
    match t.kind with
    | .number v unit => do
      let _ ← x.next
      pure (.number t.pos v unit)
    | .percent v => do
      let _ ← x.next
      pure (.percent t.pos v)
    | .sigil => do
      let _ ← x.next
      pure (.var t.pos t.text)
    | .color name => do
      let _ ← x.next
      pure (.color t.pos name)
    | .label =>
      if x.reader.namesColor t u then do
        let _ ← x.next
        pure (.color t.pos (lowercase t.text))
      else x.placeScalar depth
    | .lparen => do
      let _ ← x.next
      let inner ← expression depth
      let _ ← x.expectMark .rparen ")"
      pure inner
    | .nth _ => x.placeScalar depth
    | .word =>
      if isFunctionName t.text ∧ u.kind = .lparen then call depth
      else if !isKeyword t.text then do
        let _ ← x.next
        pure (.var t.pos t.text)
      else if t.text = "previous" ∨ t.text = "last" then x.placeScalar depth
      else .unexpected t .expression
    | _ => .unexpected t .expression

/-- A function with its arguments. -/
def call : Nat → Walk Scalar
  | 0 => .stuck
  | depth + 1 => do
    let name ← x.next
    let _ ← x.expectMark .lparen "("
    match ← x.accept (·.kind = .rparen) with
    | some _ =>
      match ScalarFunction.ofName? name.text with
      | some f => pure (.call name.pos f [])
      | none => pure (.dist name.pos [])
    | none =>
      match ScalarFunction.ofName? name.text with
      | some f => do
        let args ← x.arguments (expression depth) depth
        pure (.call name.pos f args)
      | none => do
        let args ← x.arguments (position depth) depth
        pure (.dist name.pos args)

/-- A point, with any offsets after it. -/
def position : Nat → Walk Position
  | 0 => .stuck
  | depth + 1 => do
    let base ← positionPrimary depth
    offsets depth base

/-- The offsets after a point.  If one cannot be read, the index before its sign is restored. -/
def offsets : Nat → Position → Walk Position
  | 0, _ => .stuck
  | depth + 1, base =>
    .pass .offsets (do
      let t ← x.peek 0
      if t.kind = .plus ∨ t.kind = .minus then do
        let offset ← Walk.tried (do
          let _ ← x.next
          offsetPair depth)
        match offset with
        | some d => pure (.again (.offset t.pos base d.1 d.2 (t.kind = .minus)))
        | none => pure (.done base)
      else pure (.done base)) (offsets depth)

/-- The two components of an offset, with or without parentheses around them. -/
def offsetPair : Nat → Walk (Scalar × Scalar)
  | 0 => .stuck
  | depth + 1 => do
    match ← x.accept (·.kind = .lparen) with
    | some _ => do
      let dx ← expression depth
      let _ ← x.expectMark .comma ","
      let dy ← expression depth
      let _ ← x.expectMark .rparen ")"
      pure (dx, dy)
    | none => do
      let dx ← expression depth
      let _ ← x.expectMark .comma ","
      let dy ← expression depth
      pure (dx, dy)

/-- A point without offsets.  If it does not start with a number, or the number does not belong to
a point, the index before it is restored. -/
def positionPrimary : Nat → Walk Position
  | 0 => .stuck
  | depth + 1 => do
    let t ← x.peek 0
    if t.isWord "between" then do
      let _ ← x.next
      let e ← twoPoints depth
      pure (.between t.pos none e.1 e.2)
    else
      .saving fun saved => do
        let leading ← Walk.attempt (expression depth)
        let found ← (match leading with
          | some s => afterScalar depth t.pos s
          | none => pure none)
        match found with
        | some p => pure p
        | none => do
          let _ ← Walk.rewind saved
          groupOrPlace depth

/-- Two points with a word between them. -/
def twoPoints : Nat → Walk (Position × Position)
  | 0 => .stuck
  | depth + 1 => do
    let a ← position depth
    let _ ← x.expectWord "and"
    let b ← position depth
    pure (a, b)

/-- A point that starts with no number. -/
def groupOrPlace : Nat → Walk Position
  | 0 => .stuck
  | depth + 1 => do
    let t ← x.peek 0
    if t.kind = .lparen then do
      let _ ← x.next
      let first ← position depth
      match ← x.accept (·.kind = .comma) with
      | some _ => do
        let second ← position depth
        let _ ← x.expectMark .rparen ")"
        pure (.mix t.pos first second)
      | none => do
        let _ ← x.expectMark .rparen ")"
        pure first
    else x.place depth

/-- What makes a point of a number that stands before it. -/
def afterScalar : Nat → SourcePos → Scalar → Walk (Option Position)
  | 0, _, _ => .stuck
  | depth + 1, pos, leading => do
    let t ← x.peek 0
    let u ← x.peek 1
    let v ← x.peek 2
    match t.kind with
    | .comma => do
      let _ ← x.next
      let y ← expression depth
      pure (some (.pair pos leading y))
    | .less => do
      let _ ← x.next
      let a ← position depth
      let _ ← x.expectMark .comma ","
      let b ← position depth
      let _ ← x.expectMark .greater ">"
      pure (some (.between pos (some leading) a b))
    | .word =>
      if t.text = "of" ∧ u.isWord "the" ∧ v.isWord "way" then do
        let _ ← x.next
        let _ ← x.next
        let _ ← x.next
        let _ ← x.expectWord "between"
        let e ← twoPoints depth
        pure (some (.between pos (some leading) e.1 e.2))
      else
        match Reader.relativeSide? t.text with
        | some side => do
          let _ ← x.next
          let _ ← x.accept (·.isWord "of")
          let base ← position depth
          pure (some (.relative pos leading side base))
        | none =>
          if t.text = "heading" then do
            let _ ← x.next
            let angle ← expression depth
            let _ ← x.expectWord "from"
            let base ← position depth
            pure (some (.heading pos leading angle base))
          else pure none
    | _ => pure none

end

/-! ## Clauses -/

/-- Whether an operand that may be missing is there. -/
def startsScalar : Walk Bool := do
  let t ← x.peek 0
  let u ← x.peek 1
  pure (x.reader.beginsScalar [t, u])

/-- A size. -/
def size (depth : Nat) : Walk Scalar := do
  let t ← x.peek 0
  match t.kind with
  | .percent v => do
    let _ ← x.next
    pure (.percent t.pos v)
  | _ => x.expression depth

/-- A size that may be missing.  If it cannot be read, the index before it is restored. -/
def optionalSize (depth : Nat) : Walk (Option Scalar) := do
  if ← x.startsScalar then Walk.tried (x.size depth) else pure none

/-- The point that a path runs level with. -/
def levelWith (depth : Nat) : Walk Position := do
  let _ ← x.expectWord "even"
  let _ ← x.expectWord "with"
  x.position depth

/-- A clause that starts with a word; no token is taken if the word starts none. -/
def wordClause (depth : Nat) (t : Token) : Walk (Option Clause) :=
  match Dimension.ofWord? t.text, Flag.ofWord? t.text, Direction.ofName? t.text with
  | some d, _, _ => do
    let _ ← x.next
    let v ← x.size depth
    pure (some (.size d v))
  | none, some f, _ => do
    let _ ← x.next
    pure (some (.flag f))
  | none, none, some d => do
    let _ ← x.next
    match ← x.accept (·.isWord "until") with
    | some _ => do
      let p ← x.levelWith depth
      pure (some (.directionUntil d p))
    | none => do
      let distance ← x.optionalSize depth
      pure (some (.direction d distance))
  | none, none, none =>
    match t.text with
    | "thickness" => do
      let _ ← x.next
      let v ← x.size depth
      pure (some (.thickness v))
    | "dotted" => do
      let _ ← x.next
      let v ← x.optionalSize depth
      pure (some (.dotted v))
    | "dashed" => do
      let _ ← x.next
      let v ← x.optionalSize depth
      pure (some (.dashed v))
    | "fill" => do
      let _ ← x.next
      let v ← x.expression depth
      pure (some (.fill v))
    | "color" | "colour" => do
      let _ ← x.next
      let v ← x.expression depth
      pure (some (.color v))
    | "same" => do
      let _ ← x.next
      match ← x.accept (·.isWord "as") with
      | some _ => do
        let ref ← x.objectRef depth
        pure (some (.same (some ref)))
      | none => pure (some (.same none))
    | "at" => do
      let _ ← x.next
      let p ← x.position depth
      pure (some (.located p))
    | "with" => do
      let _ ← x.next
      let a ← x.anchor
      let _ ← x.expectWord "at"
      let p ← x.position depth
      pure (some (.anchored a p))
    | "from" => do
      let _ ← x.next
      let p ← x.position depth
      pure (some (.start p))
    | "to" => do
      let _ ← x.next
      let p ← x.position depth
      pure (some (.target p))
    | "then" => do
      let _ ← x.next
      let u ← x.peek 0
      if u.isTerminator then .unexpected u .pathSegment else pure (some .next)
    | "heading" => do
      let _ ← x.next
      let angle ← x.expression depth
      let distance ← x.optionalSize depth
      pure (some (.heading angle distance))
    | "until" => do
      let _ ← x.next
      let p ← x.levelWith depth
      pure (some (.untilEven p))
    | _ => pure none

/-- A bare length. -/
def distance (depth : Nat) (t : Token) : Walk Clause := do
  if ← x.startsScalar then do
    let v ← x.size depth
    pure (.distance v)
  else if t.kind = .word then .fail t (.unknownAttribute t.text)
  else .unexpected t .attributeClause

/-- One clause, added to the clauses before it. -/
def addAttribute (depth : Nat) (before : Reader.Clauses) : Walk Reader.Clauses := do
  let t ← x.peek 0
  match t.kind with
  | .str s => do
    let _ ← x.next
    pure (before ++ [⟨t.pos, .text { text := s }⟩])
  | .arrow => do
    let _ ← x.next
    pure (before ++ [⟨t.pos, .arrow (.ofSign t.text)⟩])
  | .word => do
    match ← x.wordClause depth t with
    | some c => pure (before ++ [⟨t.pos, c⟩])
    | none =>
      if t.text = "go" then do
        let _ ← x.next
        pure before
      else
        match TextModifier.ofName? t.text with
        | some m => do
          let _ ← x.next
          match Reader.markLastText m before with
          | some marked => pure marked
          | none => .fail t (.modifierWithoutText t.text)
        | none =>
          if isKeyword t.text then .fail t (.unexpectedKeyword t.text)
          else do
            let c ← x.distance depth t
            pure (before ++ [⟨t.pos, c⟩])
  | _ => do
    let c ← x.distance depth t
    pure (before ++ [⟨t.pos, c⟩])

/-- All clauses of a declaration. -/
def attributes : Nat → Reader.Clauses → Walk Reader.Clauses
  | 0, _ => .stuck
  | depth + 1, before =>
    .pass .attributes (do
      let t ← x.peek 0
      if t.isTerminator then pure (.done before)
      else do
        let clauses ← x.addAttribute depth before
        pure (.again clauses)) (attributes depth)

/-! ## Statements -/

/-- Whether an object is declared next. -/
def startsObject : Walk Bool := do
  let t ← x.peek 0
  pure (x.reader.beginsObject [t])

/-- One thing that is printed. -/
def printItem (depth : Nat) : Walk PrintItem := do
  let t ← x.peek 0
  match t.kind with
  | .str s => do
    let _ ← x.next
    pure (.text s)
  | _ => do
    let e ← x.expression depth
    pure (.value e)

/-- What is printed, separated by commas. -/
def printItems : Nat → Walk (List PrintItem)
  | 0 => .stuck
  | depth + 1 =>
    .pass .items (do
      let item ← x.printItem depth
      match ← x.accept (·.kind = .comma) with
      | some _ => pure (.again item)
      | none => pure (.done [item])) fun item => do
      let more ← printItems depth
      pure (item :: more)

/-- Two numbers that are compared. -/
def comparedScalars (depth : Nat) (pos : SourcePos) : Walk Statement := do
  let left ← x.expression depth
  let _ ← x.expectMark .equal "=="
  let right ← x.expression depth
  let _ ← x.expectMark .rparen ")"
  pure (.assertScalars pos left right)

/-- Two points that are compared. -/
def comparedPositions (depth : Nat) (pos : SourcePos) : Walk Statement := do
  let left ← x.position depth
  let _ ← x.expectMark .equal "=="
  let right ← x.position depth
  let _ ← x.expectMark .rparen ")"
  pure (.assertPositions pos left right)

/-- An assertion, after its opening parenthesis.  If it is not about two numbers, the index there
is restored. -/
def assertion (depth : Nat) (pos : SourcePos) : Walk Statement := do
  match ← Walk.tried (x.comparedScalars depth pos) with
  | some s => pure s
  | none => x.comparedPositions depth pos

/-- The ends of statements before a statement. -/
def skipEnds : Nat → Walk Unit
  | 0 => .stuck
  | depth + 1 =>
    .pass .ends (do
      match ← x.accept (·.kind = .eol) with
      | some _ => pure (.again ())
      | none => pure (.done ())) fun _ => skipEnds depth

/-- An assignment to a variable. -/
def assignment (depth : Nat) (t : Token) : Walk Statement := do
  let _ ← x.next
  let op ← x.next
  let e ← x.expression depth
  pure (.assign t.pos t.text (.ofSign op.text) e)

/-- A command that prints. -/
def printed (depth : Nat) (t : Token) : Walk Statement := do
  let _ ← x.next
  let items ← x.printItems depth
  pure (.print t.pos items)

/-- A command that asserts. -/
def asserted (depth : Nat) (t : Token) : Walk Statement := do
  let _ ← x.next
  let _ ← x.expectMark .lparen "("
  x.assertion depth t.pos

mutual

/-- The declaration of an object or of a group. -/
def declaration : Nat → SourcePos → Option String → Walk Statement
  | 0, _, _ => .stuck
  | depth + 1, pos, label => do
    let t ← x.peek 0
    match t.kind with
    | .lbracket => do
      let _ ← x.next
      let body ← statements depth (some t)
      let _ ← x.expectMark .rbracket "]"
      let clauses ← x.attributes depth []
      pure (.group pos body label clauses)
    | .str _ => do
      let clauses ← x.attributes depth []
      pure (.object pos .text label clauses)
    | _ =>
      match ObjectClass.ofKeyword? t.text with
      | some cls => do
        let _ ← x.next
        let clauses ← x.attributes depth []
        pure (.object pos cls label clauses)
      | none => .unexpected t .statement

/-- A statement. -/
def statement : Nat → Walk Statement
  | 0 => .stuck
  | depth + 1 => do
    let t ← x.peek 0
    let u ← x.peek 1
    if t.kind = .label ∧ u.kind = .colon then do
      let _ ← x.next
      let _ ← x.next
      if ← x.startsObject then declaration depth t.pos (some t.text)
      else do
        let p ← x.position depth
        pure (.place t.pos t.text p)
    else
      match if t.kind = .word ∧ u.isTerminator then Direction.ofName? t.text else none with
      | some d => do
        let _ ← x.next
        pure (.direction t.pos d)
      | none =>
        if u.kind = .assign ∧ Reader.isAssignable t = true then x.assignment depth t
        else if t.isWord "print" then x.printed depth t
        else if t.isWord "assert" then x.asserted depth t
        else do
          if ← x.startsObject then declaration depth t.pos none
          else .unexpected t .statement

/-- Statements up to the end of the script, or to the bracket that closes a group. -/
def statements : Nat → Option Token → Walk (List Statement)
  | 0, _ => .stuck
  | depth + 1, opener =>
    .pass .statements (do
      let _ ← x.skipEnds depth
      let t ← x.peek 0
      match t.kind, opener with
      | .eof, some o => .fail o .unterminatedGroup
      | .eof, none => pure (.done [])
      | .rbracket, none => .fail t .unmatchedBracket
      | .rbracket, some _ => pure (.done [])
      | _, _ => do
        let s ← statement depth
        let u ← x.peek 0
        if u.kind = .eol then do
          let _ ← x.next
          pure (.again s)
        else if u.isTerminator then pure (.again s)
        else .unexpected u .endOfStatement) fun s => do
      let more ← statements depth opener
      pure (s :: more)

end

/-! ## Scripts -/

/-- A whole script. -/
def parse (depth : Nat) : Walk (List Statement) := do
  let all ← x.statements depth none
  let _ ← x.expect (·.kind = .eof) .endOfInput
  pure all

end Tape

end DiagramScript
