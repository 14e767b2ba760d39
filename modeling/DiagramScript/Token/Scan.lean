import DiagramScript.Token.Basic

/-!
# Reading tokens

A script is read from left to right, one piece at a time.  A piece is a token, or
something that is skipped, or a mistake; what it is depends on the characters that
follow, and never on what came before.  Places are computed in one way for all
pieces, by walking over their characters.

* `SourcePos.after` — the place after some text; `after_append` lets it be computed
  piece by piece.
* `Piece`, `piece` — what stands at the start of a text, and how many characters
  belong to it.
* `scan` — all tokens and all mistakes of a script, unless it holds an ordinal number of
  more than `maxDigits` digits; `tokenize` gives the tokens, or the first mistake.
  `scanFrom_ne_nil` and `getLast_scanFrom` say that the last token is always the end of
  the script, and `scan_of_short` that no script of up to `maxDigits` characters is refused.
-/

namespace DiagramScript

/-! ## Places -/

namespace SourcePos

/-- The first place of a script. -/
def first : SourcePos := ⟨1, 1⟩

/-- The place after one more character. -/
def next (p : SourcePos) (c : Char) : SourcePos :=
  if c = '\n' then ⟨p.line + 1, 1⟩ else ⟨p.line, p.column + 1⟩

/-- The place after some more text. -/
def after (p : SourcePos) (cs : List Char) : SourcePos := cs.foldl next p

@[simp] theorem after_nil (p : SourcePos) : p.after [] = p := rfl

@[simp] theorem after_cons (p : SourcePos) (c : Char) (cs : List Char) :
    p.after (c :: cs) = (p.next c).after cs := rfl

/-- The place after two texts is found by walking over one and then the other. -/
theorem after_append (p : SourcePos) (cs ds : List Char) :
    p.after (cs ++ ds) = (p.after cs).after ds := by
  simp [after, List.foldl_append]

/-- The line of a place is the number of line ends before it, counted from the start. -/
theorem after_line (p : SourcePos) (cs : List Char) :
    (p.after cs).line = p.line + cs.count '\n' := by
  induction cs generalizing p with
  | nil => simp
  | cons c cs ih =>
    rw [after_cons, ih, next]
    by_cases h : c = '\n'
    · simp [h]; omega
    · simp [h]

end SourcePos

/-! ## Pieces -/

/-- What stands at the start of a text. -/
structure Piece where
  /-- How many characters belong to it, besides the first. -/
  more : Nat := 0
  /-- What token it is, if it is one. -/
  kind : Option TokenKind := none
  /-- The mistakes in it, each with its distance from the start. -/
  errors : List (Nat × LexError) := []
  /-- How many digits the ordinal number in it has, if it is one. -/
  digits : Nat := 0

namespace Piece

/-- A piece that is a token. -/
def token (more : Nat) (kind : TokenKind) : Piece := { more := more, kind := some kind }

/-- A piece that is skipped. -/
def skip (more : Nat) : Piece := { more := more }

/-- A piece that is a mistake at its start. -/
def mistake (more : Nat) (e : LexError) : Piece := { more := more, errors := [(0, e)] }

end Piece

/-- Whether a word can start with the character. -/
def startsWord (c : Char) : Bool := c.isAlpha || c = '_'

/-- Whether a word can go on with the character. -/
def continuesWord (c : Char) : Bool := startsWord c || c.isDigit

/-- The word at the start of a text; empty if none starts there. -/
def leadingWord : List Char → List Char
  | [] => []
  | c :: cs => if startsWord c then c :: cs.takeWhile continuesWord else []

/-- Whether a character separates tokens without ending a statement. -/
def isSeparator (c : Char) : Bool := c = ' ' || c = '\t' || c = '\r' || c = '\x0c'

/-! ### Line ends and comments -/

/-- A backslash, given what follows it: it joins a line to the next. -/
def continuation (cs : List Char) : Piece :=
  let blanks := cs.takeWhile fun c => c = ' ' || c = '\t' || c = '\r'
  match cs.drop blanks.length with
  | '\n' :: _ => .skip (blanks.length + 1)
  | _ => .mistake blanks.length .strayBackslash

/-- A comment to the end of the line, given what follows its first character. -/
def lineComment (cs : List Char) : Piece := .skip (cs.takeWhile (· ≠ '\n')).length

/-- How many characters there are up to the end of a comment, and including it. -/
def commentLength : List Char → Option Nat
  | '*' :: '/' :: _ => some 2
  | _ :: cs => (commentLength cs).map (· + 1)
  | [] => none

/-- A comment with an end mark, given what follows its first character. -/
def blockComment (cs : List Char) : Piece :=
  match commentLength (cs.drop 1) with
  | some n => .skip (n + 1)
  | none => .mistake cs.length .unterminatedComment

/-! ### Strings and blocks -/

/-- The inside of a string. -/
structure StringBody where
  /-- How many characters it has, with the closing quote. -/
  length : Nat := 0
  /-- The text it denotes. -/
  value : List Char := []
  /-- Where control characters stand in it. -/
  controls : List Nat := []
  /-- Whether the closing quote is there. -/
  closed : Bool := false

/-- The body after `n` more characters that denote `c`. -/
def StringBody.push (b : StringBody) (n : Nat) (c : Char) (control : Bool) : StringBody where
  length := b.length + n
  value := c :: b.value
  controls := (if control then [0] else []) ++ b.controls.map (· + n)
  closed := b.closed

/-- Whether a character must not stand in a string. -/
def isControl (c : Char) : Bool := c.toNat < 0x20 && c ≠ '\t'

/-- The inside of a string, up to its closing quote, the end of the line or the end of the text. -/
def stringBody : List Char → StringBody
  | [] => {}
  | '\n' :: _ => {}
  | '"' :: _ => { length := 1, closed := true }
  | '\\' :: '"' :: cs => (stringBody cs).push 2 '"' false
  | '\\' :: '\\' :: cs => (stringBody cs).push 2 '\\' false
  | c :: cs => (stringBody cs).push 1 c (isControl c)

/-- A string, given what follows its opening quote. -/
def stringPiece (cs : List Char) : Piece :=
  let body := stringBody cs
  { more := body.length
    kind := if body.closed then some (.str (String.ofList body.value)) else none
    errors := body.controls.map (fun n => (n + 1, .controlCharacter))
      ++ if body.closed then [] else [(0, .unterminatedString)] }

/-- How many characters there are up to the brace that closes `depth` blocks, and including
it; braces in strings do not count, and the first argument says whether one is open. -/
def blockLength : Bool → Nat → List Char → Option Nat
  | _, _, [] => none
  | true, depth, '\\' :: '"' :: cs => (blockLength true depth cs).map (· + 2)
  | true, depth, '\\' :: '\\' :: cs => (blockLength true depth cs).map (· + 2)
  | true, depth, c :: cs => (blockLength (c ≠ '"' && c ≠ '\n') depth cs).map (· + 1)
  | false, depth, c :: cs =>
    if c = '"' then (blockLength true depth cs).map (· + 1)
    else if c = '\x7b' then (blockLength false (depth + 1) cs).map (· + 1)
    else if c = '\x7d' then
      if depth ≤ 1 then some 1 else (blockLength false (depth - 1) cs).map (· + 1)
    else (blockLength false depth cs).map (· + 1)

/-- A block, given what follows its opening brace. -/
def blockPiece (cs : List Char) : Piece :=
  match blockLength false 1 cs with
  | some n => .token n (.block (String.ofList (cs.take (n - 1))))
  | none => .mistake cs.length .unterminatedBlock

/-! ### Numbers -/

/-- The length of an exponent at the start of a text; zero if none stands there. -/
def exponentLength : List Char → Nat
  | e :: cs =>
    if e = 'e' ∨ e = 'E' then
      match cs with
      | s :: rest =>
        let sign := if s = '+' ∨ s = '-' then 1 else 0
        let ds := (if sign = 1 then rest else cs).takeWhile Char.isDigit
        if ds.isEmpty then 0 else 1 + sign + ds.length
      | [] => 0
    else 0
  | [] => 0

/-- Whether a character is a hexadecimal digit. -/
def isHexDigit (c : Char) : Bool :=
  c.isDigit || ('a' ≤ c && c ≤ 'f') || ('A' ≤ c && c ≤ 'F')

/-- The length of the decimal literal at the start of a text. -/
def decimalLength (cs : List Char) : Nat :=
  let whole := cs.takeWhile Char.isDigit
  let afterWhole := cs.drop whole.length
  let fraction := match afterWhole with
    | '.' :: rest => 1 + (rest.takeWhile Char.isDigit).length
    | _ => 0
  whole.length + fraction + exponentLength (afterWhole.drop fraction)

/-- The length of the literal at the start of a text, without unit or other endings. -/
def literalLength (cs : List Char) : Nat :=
  match cs with
  | '0' :: x :: rest =>
    let ds := rest.takeWhile isHexDigit
    if (x = 'x' ∨ x = 'X') ∧ !ds.isEmpty then 2 + ds.length else decimalLength cs
  | _ => decimalLength cs

/-- A number token, unless the number is too large. -/
def numberToken (length : Nat) (text : List Char) (value : Decimal) (kind : TokenKind) : Piece :=
  if value.inRange then .token (length - 1) kind
  else .mistake (length - 1) (.numberOutOfRange (String.ofList text))

/-- An ordinal number, given its digits and all its characters; there is no zeroth of anything. -/
def ordinalPiece (numeral text : List Char) : Piece :=
  let n := Decimal.digitsValue 10 numeral
  let piece : Piece :=
    if n < 1 then .mistake (text.length - 1) (.invalidOrdinal (String.ofList text))
    else .token (text.length - 1) (.nth n)
  { piece with digits := numeral.length }

/-- A number with whatever follows it immediately: a percent sign, the ending of an ordinal
number, or a unit. -/
def numberPiece (cs : List Char) : Piece :=
  let literal := cs.take (literalLength cs)
  let rest := cs.drop (literalLength cs)
  let value := Decimal.ofLiteral literal
  match rest with
  | '%' :: _ => numberToken (literal.length + 1) (literal ++ ['%']) value (.percent value)
  | _ =>
    let ending := leadingWord rest
    let text := literal ++ ending
    let length := literal.length + ending.length
    let suffix := String.ofList ending
    if ending.isEmpty then numberToken length text value (.number value none)
    else if ordinalEndings.contains suffix && literal.all Char.isDigit then
      ordinalPiece literal text
    else
      match LengthUnit.ofName? suffix with
      | some unit => numberToken length text value (.number value (some unit))
      | none => .mistake (length - 1) (.invalidNumber (String.ofList text))

/-! ### Words and marks -/

/-- A dot, given what follows it: with the name of an anchor it is one token. -/
def dotPiece (cs : List Char) : Piece :=
  let word := leadingWord cs
  match Anchor.ofWord? (String.ofList word) with
  | some a => .token word.length (.edge a)
  | none => .token 0 .dot

/-- A word, and what follows it.  A word in small letters that names a colour is a colour,
unless a colon or a dot follows. -/
def wordPiece (colors : ColorTable) (cs : List Char) : Piece :=
  let chars := leadingWord cs
  let word := String.ofList chars
  let following := (cs.drop chars.length).head?
  let kind : TokenKind :=
    if word = "first" then .nth 1
    else if isKeyword word then .word
    else if (chars.head?.map Char.isUpper).getD false then .label
    else if colors.knows word && following ≠ some ':' && following ≠ some '.' then
      .color (lowercase word)
    else .word
  .token (chars.length - 1) kind

/-- A mark of punctuation, or a character that starts no token. -/
def operatorPiece (c : Char) (cs : List Char) : Piece :=
  match operators.find? fun o => o.1.isPrefixOf (c :: cs) with
  | some o => .token (o.1.length - 1) o.2
  | none => .mistake 0 (.unexpectedCharacter c)

/-- The piece that starts with `c`, where `cs` is the text that follows. -/
def piece (colors : ColorTable) (c : Char) (cs : List Char) : Piece :=
  if isSeparator c then .skip 0
  else if c = '\n' ∨ c = ';' then .token 0 .eol
  else if c = '\\' then continuation cs
  else if c = '#' ∨ (c = '/' ∧ cs.head? = some '/') then lineComment cs
  else if c = '/' ∧ cs.head? = some '*' then blockComment cs
  else if c = '"' then stringPiece cs
  else if c = '\x7b' then blockPiece cs
  else if c.isDigit ∨ (c = '.' ∧ (cs.head?.map Char.isDigit).getD false) then numberPiece (c :: cs)
  else if c = '.' then dotPiece cs
  else if (c = '$' ∨ c = '@') ∧ (cs.head?.map startsWord).getD false then
    .token (leadingWord cs).length .sigil
  else if startsWord c then wordPiece colors (c :: cs)
  else operatorPiece c cs

/-! ## Scripts -/

/-- The tokens and mistakes of a text that starts at the given place. -/
def scanFrom (colors : ColorTable) (p : SourcePos) : List Char → List Token × List Diagnostic
  | [] => ([⟨.eof, "", p⟩], [])
  | c :: cs =>
    let here := piece colors c cs
    let taken := c :: cs.take here.more
    let rest := scanFrom colors (p.after taken) (cs.drop here.more)
    (here.kind.toList.map (fun k => ⟨k, String.ofList taken, p⟩) ++ rest.1,
      here.errors.map (fun e => ⟨.lex e.2, some (p.after (taken.take e.1))⟩) ++ rest.2)
termination_by cs => cs.length
decreasing_by
  simp only [List.length_cons, List.length_drop]
  omega

/-- What is wrong with the first ordinal number of a text that has too many digits. -/
def faultFrom (colors : ColorTable) : List Char → Option Fault
  | [] => none
  | c :: cs =>
    let here := piece colors c cs
    if maxDigits < here.digits then some (.tooManyDigits here.digits)
    else faultFrom colors (cs.drop here.more)
termination_by cs => cs.length
decreasing_by
  simp only [List.length_cons, List.length_drop]
  omega

/-- The tokens and mistakes of a script.  An ordinal number with too many digits is worse than a
mistake: nothing else is known of a script that has one. -/
def scan (colors : ColorTable) (source : String) : Except Fault (List Token × List Diagnostic) :=
  match faultFrom colors source.toList with
  | some f => .error f
  | none => .ok (scanFrom colors .first source.toList)

/-- The tokens of a script, or its first mistake. -/
def tokenize (colors : ColorTable) (source : String) : Except Failure (List Token) :=
  match scan colors source with
  | .error f => .error (.fault f)
  | .ok (_, e :: _) => .error (.mistake e)
  | .ok (ts, []) => .ok ts

/-- A bound on the digits of both pieces of a choice is one on those of the choice. -/
theorem digits_ite_le {p : Prop} [Decidable p] {a b : Piece} {n : Nat} (ha : a.digits ≤ n)
    (hb : b.digits ≤ n) : (if p then a else b).digits ≤ n := by
  by_cases h : p
  · rwa [if_pos h]
  · rwa [if_neg h]

/-- A number token is no ordinal number. -/
theorem digits_numberToken_le (length : Nat) (text : List Char) (value : Decimal)
    (kind : TokenKind) (n : Nat) : (numberToken length text value kind).digits ≤ n :=
  digits_ite_le (Nat.zero_le n) (Nat.zero_le n)

/-- The numeral of an ordinal number at the start of a text is a part of the text. -/
theorem digits_numberPiece_le (cs : List Char) : (numberPiece cs).digits ≤ cs.length := by
  unfold numberPiece
  generalize literalLength cs = n
  dsimp only
  split
  · exact digits_numberToken_le ..
  · refine digits_ite_le (digits_numberToken_le ..) (digits_ite_le (List.length_take_le' n cs) ?_)
    split
    · exact digits_numberToken_le ..
    · exact Nat.zero_le _

/-- The numeral of an ordinal number is a part of the text. -/
theorem digits_piece_le (colors : ColorTable) (c : Char) (cs : List Char) :
    (piece colors c cs).digits ≤ cs.length + 1 := by
  refine digits_ite_le (Nat.zero_le _) (digits_ite_le (Nat.zero_le _) (digits_ite_le ?_
    (digits_ite_le (Nat.zero_le _) (digits_ite_le ?_ (digits_ite_le (Nat.zero_le _)
      (digits_ite_le ?_ (digits_ite_le (digits_numberPiece_le (c :: cs)) (digits_ite_le ?_
        (digits_ite_le (Nat.zero_le _) (digits_ite_le (Nat.zero_le _) ?_))))))))))
  · unfold continuation
    dsimp only
    split <;> exact Nat.zero_le _
  · unfold blockComment
    split <;> exact Nat.zero_le _
  · unfold blockPiece
    split <;> exact Nat.zero_le _
  · unfold dotPiece
    dsimp only
    split <;> exact Nat.zero_le _
  · unfold operatorPiece
    split <;> exact Nat.zero_le _

/-- A text of up to `maxDigits` characters has no numeral with more digits. -/
theorem faultFrom_of_short (colors : ColorTable) {cs : List Char} (h : cs.length ≤ maxDigits) :
    faultFrom colors cs = none := by
  induction hn : cs.length using Nat.strongRecOn generalizing cs with
  | _ n ih =>
    cases cs with
    | nil => simp [faultFrom]
    | cons c cs =>
      have bound := digits_piece_le colors c cs
      simp only [List.length_cons] at h hn
      rw [faultFrom, if_neg (by omega)]
      refine ih _ ?_ ?_ rfl <;> simp only [List.length_drop] <;> omega

/-- A script of up to `maxDigits` characters is never refused. -/
theorem scan_of_short (colors : ColorTable) {source : String}
    (h : source.toList.length ≤ maxDigits) :
    scan colors source = .ok (scanFrom colors .first source.toList) := by
  simp [scan, faultFrom_of_short colors h]

/-- There is always a token. -/
theorem scanFrom_ne_nil (colors : ColorTable) (p : SourcePos) (cs : List Char) :
    (scanFrom colors p cs).1 ≠ [] := by
  induction hn : cs.length using Nat.strongRecOn generalizing p cs with
  | _ n ih =>
    cases cs with
    | nil => simp [scanFrom]
    | cons c cs =>
      rw [scanFrom]
      simp only [ne_eq, List.append_eq_nil_iff, not_and]
      intro _
      refine ih _ ?_ _ _ rfl
      simp only [List.length_cons, List.length_drop] at hn ⊢
      omega

/-- The last token is the end of the script. -/
theorem getLast_scanFrom (colors : ColorTable) (p : SourcePos) (cs : List Char) :
    (scanFrom colors p cs).1.getLast?.map Token.kind = some .eof := by
  induction hn : cs.length using Nat.strongRecOn generalizing p cs with
  | _ n ih =>
    cases cs with
    | nil => simp [scanFrom]
    | cons c cs =>
      have step := ih (cs.drop (piece colors c cs).more).length (by
        simp only [List.length_cons, List.length_drop] at hn ⊢
        omega) (p.after (c :: cs.take (piece colors c cs).more)) _ rfl
      rw [scanFrom]
      simp only [List.getLast?_append]
      revert step
      cases (scanFrom colors (p.after (c :: cs.take (piece colors c cs).more))
        (cs.drop (piece colors c cs).more)).1.getLast? with
      | none => simp
      | some t => simp

end DiagramScript
