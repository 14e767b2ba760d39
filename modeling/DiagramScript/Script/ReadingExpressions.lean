import DiagramScript.Script.Reading

/-!
# Reading expressions and positions

Numbers and points are read together, since each may contain the other.  A position
may start with an expression, and only what follows tells; so the expression is read
first, and if nothing that follows makes a position of it, the tokens are read again.

* `readExpression` — a number: sums of products of signed primaries.
* `readPosition` — a point, with any offsets after it.
* `beginsScalar` — whether an operand that may be missing is there, judged by its
  first two tokens.
-/

namespace DiagramScript

namespace Reader

variable (g : Reader)

/-! ## Numbers made of objects -/

/-- The axis that a word names. -/
def axisOf? (word : String) : Option Axis :=
  if word = "x" then some .x else if word = "y" then some .y else none

/-- The number that a position and a word after a dot denote: a coordinate of the position, or
a measure of the object that it is. -/
def scalarOfPlace? (pos : SourcePos) (place : Position) (word : String) : Option Scalar :=
  match axisOf? word with
  | some axis => some (.coordinate pos place axis)
  | none =>
    match place, Property.ofWord? word with
    | .object _ ref none, some p => some (.property pos ref p)
    | _, _ => none

/-- Reads a coordinate or a measure of an object. -/
def readPlaceScalar (ts : List Token) : Reading Scalar ts.length := do
  let place ← g.readPlace ts
  match hr : place.rest with
  | d :: w :: rest =>
    match if d.kind = .dot ∧ w.kind = .word
      then scalarOfPlace? (g.peek ts).pos place.value w.text else none with
    | some s => .ok ⟨s, rest, by have := place.shorter; rw [hr] at this; simp at this; omega⟩
    | none => .error (unexpected d .property)
  | _ => .error (unexpected (g.peek place.rest) .property)

/-- Whether a capitalised word, with the token after it, names a colour. -/
def namesColor (t following : Token) : Bool :=
  match following.kind with
  | .dot => false
  | .edge _ => false
  | _ => g.colors.knows t.text

/-- The side that a word asks for after a distance. -/
def relativeSide? (word : String) : Option Compass :=
  [("above", Compass.n), ("below", .s), ("left", .w), ("right", .e), ("n", .n), ("ne", .ne),
    ("e", .e), ("se", .se), ("s", .s), ("sw", .sw), ("w", .w), ("nw", .nw), ("north", .n),
    ("south", .s), ("east", .e), ("west", .w)].lookup word

/-! ## Expressions and positions -/

mutual

/-- Reads a number. -/
def readExpression (ts : List Token) : Reading Scalar ts.length := do
  let left ← readTerm ts
  let all ← readSums left.value left.rest
  .ok (left.continuing all)
termination_by 16 * ts.length + 4
decreasing_by
  · omega
  · have := left.shorter
    omega

/-- Reads what is added to a number or subtracted from it. -/
def readSums (left : Scalar) (ts : List Token) : Reading Scalar (ts.length + 1) :=
  match ts with
  | [] => .ok (.unread left [])
  | t :: rest =>
    match t.kind with
    | .plus => do
      let right ← readTerm rest
      let all ← readSums (.binary t.pos .add left right.value) right.rest
      .ok (all.widen (by have := right.shorter; simp; omega))
    | .minus => do
      let right ← readTerm rest
      let all ← readSums (.binary t.pos .sub left right.value) right.rest
      .ok (all.widen (by have := right.shorter; simp; omega))
    | _ => .ok (.unread left (t :: rest))
termination_by 16 * ts.length
decreasing_by
  · simp; omega
  · have := right.shorter
    simp; omega
  · simp; omega
  · have := right.shorter
    simp; omega

/-- Reads a product. -/
def readTerm (ts : List Token) : Reading Scalar ts.length := do
  let left ← readSigned ts
  let all ← readFactors left.value left.rest
  .ok (left.continuing all)
termination_by 16 * ts.length + 3
decreasing_by
  · omega
  · have := left.shorter
    omega

/-- Reads what a number is multiplied with or divided by. -/
def readFactors (left : Scalar) (ts : List Token) : Reading Scalar (ts.length + 1) :=
  match ts with
  | [] => .ok (.unread left [])
  | t :: rest =>
    match t.kind with
    | .star => do
      let right ← readSigned rest
      let all ← readFactors (.binary t.pos .mul left right.value) right.rest
      .ok (all.widen (by have := right.shorter; simp; omega))
    | .slash => do
      let right ← readSigned rest
      let all ← readFactors (.binary t.pos .div left right.value) right.rest
      .ok (all.widen (by have := right.shorter; simp; omega))
    | _ => .ok (.unread left (t :: rest))
termination_by 16 * ts.length
decreasing_by
  · simp; omega
  · have := right.shorter
    simp; omega
  · simp; omega
  · have := right.shorter
    simp; omega

/-- Reads a number with any signs before it. -/
def readSigned (ts : List Token) : Reading Scalar ts.length :=
  match ts with
  | [] => .error (unexpected g.final .expression)
  | t :: rest =>
    match t.kind with
    | .minus => do
      let operand ← readSigned rest
      .ok ((operand.map (.neg t.pos)).after t)
    | .plus => do
      let operand ← readSigned rest
      .ok (operand.after t)
    | _ => readPrimary (t :: rest)
termination_by 16 * ts.length + 2
decreasing_by all_goals (simp; try omega)

/-- Reads a single operand. -/
def readPrimary (ts : List Token) : Reading Scalar ts.length :=
  match ts with
  | [] => .error (unexpected g.final .expression)
  | t :: rest =>
    match t.kind with
    | .number v u => .ok (.single (.number t.pos v u) t rest)
    | .percent v => .ok (.single (.percent t.pos v) t rest)
    | .sigil => .ok (.single (.var t.pos t.text) t rest)
    | .color name => .ok (.single (.color t.pos name) t rest)
    | .label =>
      if g.namesColor t (g.peek rest) then .ok (.single (.color t.pos (lowercase t.text)) t rest)
      else g.readPlaceScalar (t :: rest)
    | .lparen => do
      let inner ← readExpression rest
      let close ← g.readMark .rparen ")" inner.rest
      .ok ⟨inner.value, close.rest, by
        have := inner.shorter; have := close.shorter; simp; omega⟩
    | .nth _ => g.readPlaceScalar (t :: rest)
    | .word =>
      if isFunctionName t.text ∧ (g.peek rest).kind = .lparen then do
        let call ← readCall t rest
        .ok (call.after t)
      else if !isKeyword t.text then .ok (.single (.var t.pos t.text) t rest)
      else if t.text = "previous" ∨ t.text = "last" then g.readPlaceScalar (t :: rest)
      else .error (unexpected t .expression)
    | _ => .error (unexpected t .expression)
termination_by 16 * ts.length + 1
decreasing_by all_goals (simp; try omega)

/-- Reads the arguments of a function, given its name. -/
def readCall (name : Token) (ts : List Token) : Reading Scalar ts.length := do
  let start ← g.readMark .lparen "(" ts
  match ScalarFunction.ofName? name.text, (g.peek start.rest).kind with
  | some f, .rparen =>
    .ok ⟨.call name.pos f [], start.rest.drop 1, by
      have := start.shorter; simp; omega⟩
  | none, .rparen =>
    .ok ⟨.dist name.pos [], start.rest.drop 1, by
      have := start.shorter; simp; omega⟩
  | some f, _ => do
    let args ← readScalarArgs start.rest
    .ok (start.following (args.map (.call name.pos f)))
  | none, _ => do
    let args ← readPositionArgs start.rest
    .ok (start.following (args.map (.dist name.pos)))
termination_by 16 * ts.length
decreasing_by
  · have := start.shorter
    omega
  · have := start.shorter
    omega

/-- Reads numbers separated by commas, and the closing parenthesis. -/
def readScalarArgs (ts : List Token) : Reading (List Scalar) ts.length := do
  let first ← readExpression ts
  match hr : first.rest with
  | t :: rest =>
    have : rest.length + 1 < ts.length := by
      have := first.shorter; rw [hr] at this; simpa using this
    match t.kind with
    | .rparen => .ok ⟨[first.value], rest, by omega⟩
    | .comma => do
      let more ← readScalarArgs rest
      .ok ((more.map (first.value :: ·)).widen (by omega))
    | _ => .error (unexpected t .commaOrParen)
  | [] => .error (unexpected g.final .commaOrParen)
termination_by 16 * ts.length + 5
decreasing_by
  · omega
  · have := first.shorter
    rw [hr] at this
    simp at this
    omega

/-- Reads positions separated by commas, and the closing parenthesis. -/
def readPositionArgs (ts : List Token) : Reading (List Position) ts.length := do
  let first ← readPosition ts
  match hr : first.rest with
  | t :: rest =>
    have : rest.length + 1 < ts.length := by
      have := first.shorter; rw [hr] at this; simpa using this
    match t.kind with
    | .rparen => .ok ⟨[first.value], rest, by omega⟩
    | .comma => do
      let more ← readPositionArgs rest
      .ok ((more.map (first.value :: ·)).widen (by omega))
    | _ => .error (unexpected t .commaOrParen)
  | [] => .error (unexpected g.final .commaOrParen)
termination_by 16 * ts.length + 9
decreasing_by
  · omega
  · have := first.shorter
    rw [hr] at this
    simp at this
    omega

/-- Reads a point, with any offsets after it. -/
def readPosition (ts : List Token) : Reading Position ts.length := do
  let base ← readPositionPrimary ts
  let all ← readOffsets base.value base.rest
  .ok (base.continuing all)
termination_by 16 * ts.length + 8
decreasing_by
  · omega
  · have := base.shorter
    omega

/-- Reads the offsets after a point.  A sign that no offset follows is left alone. -/
def readOffsets (base : Position) (ts : List Token) : Reading Position (ts.length + 1) :=
  match ts with
  | [] => .ok (.unread base [])
  | t :: rest =>
    if t.kind = .plus ∨ t.kind = .minus then
      match readOffsetPair rest with
      | .error _ => .ok (.unread base (t :: rest))
      | .ok pair => do
        let all ← readOffsets
          (.offset t.pos base pair.value.1 pair.value.2 (t.kind = .minus)) pair.rest
        .ok (all.widen (by have := pair.shorter; simp; omega))
    else .ok (.unread base (t :: rest))
termination_by 16 * ts.length
decreasing_by
  · simp; omega
  · have := pair.shorter
    simp; omega

/-- Reads the two components of an offset, with or without parentheses around them. -/
def readOffsetPair (ts : List Token) : Reading (Scalar × Scalar) ts.length :=
  match ts with
  | [] => .error (unexpected g.final .expression)
  | t :: rest =>
    if t.kind = .lparen then do
      let dx ← readExpression rest
      let comma ← g.readMark .comma "," dx.rest
      let dy ← readExpression comma.rest
      let close ← g.readMark .rparen ")" dy.rest
      .ok ⟨(dx.value, dy.value), close.rest, by
        have := dx.shorter; have := comma.shorter; have := dy.shorter; have := close.shorter
        simp; omega⟩
    else do
      let dx ← readExpression (t :: rest)
      let comma ← g.readMark .comma "," dx.rest
      let dy ← readExpression comma.rest
      .ok ⟨(dx.value, dy.value), dy.rest, by
        have := dx.shorter; have := comma.shorter; have := dy.shorter
        simp at *; omega⟩
termination_by 16 * ts.length + 5
decreasing_by
  · simp only [List.length_cons]; omega
  · have := dx.shorter; have := comma.shorter
    simp; omega
  · omega
  · have := dx.shorter; have := comma.shorter
    simp at *; omega

/-- Reads a point without offsets. -/
def readPositionPrimary (ts : List Token) : Reading Position ts.length :=
  if (g.peek ts).isWord "between" then do
    let keyword ← g.readWord "between" ts
    let ends ← readEnds keyword.rest
    .ok (keyword.following (ends.map fun e => .between (g.peek ts).pos none e.1 e.2))
  else
    match readExpression ts with
    | .error _ => readGroupOrPlace ts
    | .ok leading => do
      match ← readAfterScalar (g.peek ts).pos leading.value leading.rest with
      | some p => .ok (leading.following p)
      | none => readGroupOrPlace ts
termination_by 16 * ts.length + 7
decreasing_by
  · have := keyword.shorter
    omega
  · omega
  · omega
  · have := leading.shorter
    omega
  · omega

/-- Reads two points with `and` between them. -/
def readEnds (ts : List Token) : Reading (Position × Position) ts.length := do
  let a ← readPosition ts
  let conjunction ← g.readWord "and" a.rest
  let b ← readPosition conjunction.rest
  .ok ⟨(a.value, b.value), b.rest, by
    have := a.shorter; have := conjunction.shorter; have := b.shorter; omega⟩
termination_by 16 * ts.length + 9
decreasing_by
  · omega
  · have := a.shorter; have := conjunction.shorter
    omega

/-- Reads a point that starts with no number: a point or two coordinates in parentheses, or a
place named by an object. -/
def readGroupOrPlace (ts : List Token) : Reading Position ts.length :=
  match ts with
  | [] => g.readPlace []
  | t :: rest =>
    if t.kind = .lparen then do
      let first ← readPosition rest
      match hr : first.rest with
      | [] => .error (unexpected g.final (.exactly ")"))
      | u :: more =>
        have : more.length + 1 < rest.length := by
          have := first.shorter; rw [hr] at this; simpa using this
        match u.kind with
        | .comma => do
          let second ← readPosition more
          let close ← g.readMark .rparen ")" second.rest
          .ok ⟨.mix t.pos first.value second.value, close.rest, by
            have := second.shorter; have := close.shorter; simp; omega⟩
        | .rparen => .ok ⟨first.value, more, by simp; omega⟩
        | _ => .error (unexpected u (.exactly ")"))
    else g.readPlace (t :: rest)
termination_by 16 * ts.length + 6
decreasing_by
  · simp; omega
  · have := first.shorter
    rw [hr] at this
    simp at *; omega

/-- Reads what makes a point of a number that stands before it; if nothing does, nothing is
read. -/
def readAfterScalar (pos : SourcePos) (leading : Scalar) (ts : List Token) :
    Except Diagnostic (Option (Parsed Position ts.length)) :=
  match ts with
  | [] => .ok none
  | t :: rest =>
    match t.kind with
    | .comma => do
      let y ← readExpression rest
      .ok (some ((y.map (.pair pos leading)).after t))
    | .less => do
      let a ← readPosition rest
      let comma ← g.readMark .comma "," a.rest
      let b ← readPosition comma.rest
      let close ← g.readMark .greater ">" b.rest
      .ok (some ⟨.between pos (some leading) a.value b.value, close.rest, by
        have := a.shorter; have := comma.shorter; have := b.shorter; have := close.shorter
        simp; omega⟩)
    | .word =>
      if t.text = "of" ∧ (g.peek rest).isWord "the" ∧ (g.peekSecond rest).isWord "way" then do
        let between ← g.readWord "between" (rest.drop 2)
        let ends ← readEnds between.rest
        .ok (some ((ends.map fun e => .between pos (some leading) e.1 e.2).widen (by
          have := between.shorter; simp at *; omega)))
      else
        match relativeSide? t.text with
        | some side => do
          let base ← readPosition (skipWord "of" rest)
          .ok (some (((base.map (.relative pos leading side)).widen
            (length_skipWord_le "of" rest)).after t))
        | none =>
          if t.text = "heading" then do
            let angle ← readExpression rest
            let source ← g.readWord "from" angle.rest
            let base ← readPosition source.rest
            .ok (some ((angle.following (source.following
              (base.map (.heading pos leading angle.value)))).after t))
          else .ok none
    | _ => .ok none
termination_by 16 * ts.length
decreasing_by
  · simp; omega
  · simp; omega
  · have := a.shorter; have := comma.shorter
    simp; omega
  · have := between.shorter
    simp at *; omega
  · have := length_skipWord_le "of" rest
    simp; omega
  · simp; omega
  · have := angle.shorter; have := source.shorter
    simp; omega

end

end Reader

end DiagramScript
