import DiagramScript.Object.Class
import DiagramScript.Text.Quoted

/-!
# What can be wrong with a script

Every mistake is a cause with a sentence of its own, and a place in the script.

* `LexError`, `ParseError`, `ReferenceError`, `EvalError` — the causes, by the stage
  that finds them, each with its `message`.
* `Diagnostic` — a cause together with a place.  `Diagnostic.locate` fills in a place
  that is missing and never replaces one: `locate_locate` and `locate_of_placed`.
* `Failure` — why a run stops: a diagnostic, or a fault that is no mistake of the
  script.
-/

namespace DiagramScript

/-- A place in a script, both counted from one. -/
structure SourcePos where
  /-- The line. -/
  line : Nat
  /-- The character in the line. -/
  column : Nat
  deriving DecidableEq, Repr, Inhabited

/-! ## Causes -/

/-- A piece of text that is no token. -/
inductive LexError where
  /-- A string without its closing quote. -/
  | unterminatedString
  /-- A comment without its end. -/
  | unterminatedComment
  /-- A block without its closing brace. -/
  | unterminatedBlock
  /-- A backslash that does not stand at the end of a line. -/
  | strayBackslash
  /-- A control character in a string. -/
  | controlCharacter
  /-- The zeroth of something. -/
  | invalidOrdinal (text : String)
  /-- A number with letters after it that are no unit. -/
  | invalidNumber (text : String)
  /-- A number that is too large. -/
  | numberOutOfRange (text : String)
  /-- A character that starts no token. -/
  | unexpectedCharacter (c : Char)
  /-- A mistake in the text that a definition is replaced by. -/
  | inExpansion (name : String) (inner : LexError)
  deriving DecidableEq, Repr

/-- The sentence that reports a lexical mistake. -/
def LexError.message : LexError → String
  | unterminatedString => "unterminated string"
  | unterminatedComment => "unterminated block comment"
  | unterminatedBlock => "unterminated code block"
  | strayBackslash => "backslash must be followed by a newline"
  | controlCharacter => "control character in string"
  | invalidOrdinal t => "invalid ordinal: " ++ t
  | invalidNumber t => "invalid numeric literal: " ++ t
  | numberOutOfRange t => "invalid numeric literal: " ++ t ++ " is out of range"
  | unexpectedCharacter c => "unexpected character " ++ quoted (String.singleton c)
  | inExpansion name inner =>
    "in expansion of macro " ++ quoted name ++ ": " ++ inner.message

/-- What stands where something else was expected. -/
inductive Found where
  /-- The script ends. -/
  | endOfInput
  /-- The statement ends. -/
  | endOfStatement
  /-- A token with the given text. -/
  | token (text : String)
  deriving DecidableEq, Repr

/-- How a message shows what was found. -/
def Found.text : Found → String
  | endOfInput => "end of input"
  | endOfStatement => "end of statement"
  | token t => quoted t

/-- What the grammar asks for at some place. -/
inductive Expected where
  /-- A word or mark of punctuation, shown in quotes. -/
  | exactly (text : String)
  /-- A statement. -/
  | statement
  /-- The end of a statement. -/
  | endOfStatement
  /-- The end of the script. -/
  | endOfInput
  /-- More of a path. -/
  | pathSegment
  /-- A clause of a declaration. -/
  | attributeClause
  /-- The name of an anchor. -/
  | anchorName
  /-- An expression. -/
  | expression
  /-- The next argument, or the end of the arguments. -/
  | commaOrParen
  /-- What makes a number of an object. -/
  | property
  /-- A reference to an object. -/
  | objectReference
  /-- The class of an object. -/
  | className
  deriving DecidableEq, Repr

/-- How a message says what was expected. -/
def Expected.text : Expected → String
  | exactly t => "'" ++ t ++ "'"
  | statement => "a statement"
  | endOfStatement => "end of statement"
  | endOfInput => "end of input"
  | pathSegment => "a path segment after 'then'"
  | attributeClause => "an attribute"
  | anchorName => "an anchor name such as .n or .sw"
  | expression => "an expression"
  | commaOrParen => "',' or ')'"
  | property => "'.x', '.y' or an object property"
  | objectReference => "an object reference"
  | className => "an object class such as box or []"

/-- A sequence of tokens that is no script. -/
inductive ParseError where
  /-- Something else was expected. -/
  | unexpected (what : Expected) (found : Found)
  /-- A group without its closing bracket. -/
  | unterminatedGroup
  /-- A closing bracket without a group. -/
  | unmatchedBracket
  /-- A mark for a line of text, before any line. -/
  | modifierWithoutText (word : String)
  /-- A keyword that is no attribute. -/
  | unexpectedKeyword (word : String)
  /-- A word that is no attribute. -/
  | unknownAttribute (word : String)
  /-- A definition that breaks off. -/
  | incompleteDefinition
  /-- A definition of something that is no name. -/
  | definitionName
  /-- A definition whose body is no block. -/
  | definitionBody
  /-- Arguments without their closing parenthesis. -/
  | unterminatedArguments
  /-- Definitions that use each other too deeply. -/
  | expansionTooDeep (name : String)
  /-- An attribute that objects of the class do not take. -/
  | notAnAttribute (keyword noun : String)
  /-- A path that starts with `then`. -/
  | thenWithoutSegment
  deriving DecidableEq, Repr

/-- The sentence that reports a grammatical mistake. -/
def ParseError.message : ParseError → String
  | unexpected what found => "expected " ++ what.text ++ ", found " ++ found.text
  | unterminatedGroup => "unterminated '[' block"
  | unmatchedBracket => "unmatched ']'"
  | modifierWithoutText w => "'" ++ w ++ "' must follow a text string"
  | unexpectedKeyword w => "unexpected keyword '" ++ w ++ "'"
  | unknownAttribute w => "unknown attribute '" ++ w ++ "'"
  | incompleteDefinition => "incomplete macro definition"
  | definitionName => "macro name must be an identifier"
  | definitionBody => "macro body must be a \x7b ... \x7d block"
  | unterminatedArguments => "unterminated macro argument list"
  | expansionTooDeep name => "macro expansion of " ++ quoted name ++ " nested too deeply"
  | notAnAttribute k noun => "'" ++ k ++ "' is not an attribute of " ++ noun
  | thenWithoutSegment => "'then' must follow a path segment"

/-- How a message writes the place of an object in its class: `1st`, `2nd`, `11th`. -/
def ordinalWord (n : Int) : String :=
  let low := Int.fmod n 100
  let suffix :=
    if 10 ≤ low ∧ low ≤ 20 then "th"
    else match (Int.fmod n 10).toNat with
      | 1 => "st"
      | 2 => "nd"
      | 3 => "rd"
      | _ => "th"
  String.ofList (integerDigits n) ++ suffix

/-- The kinds of references that cannot be satisfied. -/
inductive ReferenceKind where
  /-- A label that names nothing, or no object. -/
  | unknownLabel
  /-- A label that is taken. -/
  | duplicateLabel
  /-- A place in a class that no object has. -/
  | ordinalOutOfRange
  /-- There is no earlier object. -/
  | noPriorObject
  deriving DecidableEq, Repr

/-- A reference that cannot be satisfied. -/
inductive ReferenceError where
  /-- The label is taken. -/
  | duplicateLabel (label : String)
  /-- The label names a place. -/
  | namesPlace (label : String)
  /-- The label names nothing. -/
  | unknownLabel (label : String)
  /-- There are not that many objects of the class. -/
  | ordinalOutOfRange (n : Int) (cls : ObjectClass) (fromLast : Bool) (count : Nat)
  /-- There is no earlier object at all. -/
  | noPrevious
  /-- There is no earlier object of the class. -/
  | nothingToCopy (cls : ObjectClass)
  /-- The object is no group. -/
  | noChildren (cls : ObjectClass) (id : Nat)
  deriving DecidableEq, Repr

namespace ReferenceError

/-- The kind of a mistake. -/
def kind : ReferenceError → ReferenceKind
  | duplicateLabel _ => .duplicateLabel
  | namesPlace _ => .unknownLabel
  | unknownLabel _ => .unknownLabel
  | ordinalOutOfRange .. => .ordinalOutOfRange
  | noPrevious => .noPriorObject
  | nothingToCopy _ => .noPriorObject
  | noChildren .. => .unknownLabel

/-- The sentence that reports a reference that cannot be satisfied. -/
def message : ReferenceError → String
  | duplicateLabel l => "label '" ++ l ++ "' is already defined"
  | namesPlace l => "'" ++ l ++ "' names a place, not an object"
  | unknownLabel l => "unknown label '" ++ l ++ "'"
  | ordinalOutOfRange n cls fromLast count =>
    "no " ++ ordinalWord n ++ " " ++ cls.name ++ " "
      ++ (if fromLast then "from the end" else "so far") ++ ": " ++ toString count ++ " declared"
  | noPrevious => "no previous object"
  | nothingToCopy cls => "no earlier " ++ cls.name ++ " to copy"
  | noChildren cls id => cls.name ++ " #" ++ toString id ++ " has no child objects"

end ReferenceError

/-- An expression that has no value, or an assertion that does not hold. -/
inductive EvalError where
  /-- The value is too large. -/
  | overflow
  /-- The unit is unknown to the converter in use. -/
  | unit (message : String)
  /-- The variable has not been set. -/
  | unknownVariable (name : String)
  /-- The name stands for no colour. -/
  | unknownColor (name : String)
  /-- A percentage that is not a whole size. -/
  | percentage
  /-- A division by zero. -/
  | divisionByZero
  /-- A function with the wrong number of arguments. -/
  | arity (name : String) (expected given : Nat)
  /-- A vertex of something that is no path. -/
  | noVertexes (cls : ObjectClass)
  /-- A vertex that the path does not have. -/
  | vertexOutOfRange (n : Nat) (cls : ObjectClass) (count : Nat)
  /-- An anchor of a place. -/
  | placeWithoutAnchor (label : String) (anchor : String)
  /-- A square root of a negative number. -/
  | negativeRoot (number : String)
  /-- A number that is too large to be printed. -/
  | unprintable (number : String)
  /-- An assignment whose result is too large. -/
  | overflowIn (name : String) (op : String)
  /-- An assertion that does not hold. -/
  | assertionFailed (left right : String)
  deriving DecidableEq, Repr

/-- The sentence that reports a mistake of evaluation. -/
def EvalError.message : EvalError → String
  | overflow => "numeric overflow: result is not a finite number"
  | unit m => m
  | unknownVariable n => "unknown variable '" ++ n ++ "'"
  | unknownColor n => "unknown color '" ++ n ++ "'"
  | percentage => "a percentage is only allowed as a whole size value"
  | divisionByZero => "division by zero"
  | arity name expected given =>
    name ++ "() expects " ++ toString expected ++ " argument"
      ++ (if expected = 1 then "" else "s") ++ ", got " ++ toString given
  | noVertexes cls => "a " ++ cls.name ++ " has no vertexes"
  | vertexOutOfRange n cls count =>
    "vertex " ++ toString n ++ " out of range: the " ++ cls.name ++ " has " ++ toString count
  | placeWithoutAnchor l a => "place '" ++ l ++ "' has no ." ++ a ++ " anchor"
  | negativeRoot x => "sqrt() of negative number " ++ x
  | unprintable x => "cannot format non-finite number " ++ x
  | overflowIn name op => "numeric overflow in '" ++ name ++ " " ++ op ++ "'"
  | assertionFailed l r => "assertion failed: " ++ l ++ " != " ++ r

/-- A mistake, by the stage that finds it. -/
inductive Cause where
  /-- Found while reading tokens. -/
  | lex (e : LexError)
  /-- Found while reading statements, or in an attribute. -/
  | parse (e : ParseError)
  /-- Found while looking up an object. -/
  | reference (e : ReferenceError)
  /-- Found while evaluating. -/
  | eval (e : EvalError)
  deriving DecidableEq, Repr

namespace Cause

/-- The sentence that reports a mistake. -/
def message : Cause → String
  | lex e => e.message
  | parse e => e.message
  | reference e => e.message
  | eval e => e.message

/-- The code of the stage that finds the mistake. -/
def code : Cause → String
  | lex _ => "E_LEX"
  | parse _ => "E_PARSE"
  | reference _ => "E_REF"
  | eval _ => "E_EVAL"

end Cause

/-! ## Diagnostics -/

/-- A mistake and its place, if that is known. -/
structure Diagnostic where
  /-- What is wrong. -/
  cause : Cause
  /-- Where it is wrong. -/
  place : Option SourcePos := none
  deriving DecidableEq, Repr

namespace Diagnostic

/-- The sentence without the place. -/
def message (d : Diagnostic) : String := d.cause.message

/-- The sentence, after the place if that is known. -/
def text (d : Diagnostic) : String :=
  match d.place with
  | none => d.message
  | some p =>
    "line " ++ toString p.line ++ ", column " ++ toString p.column ++ ": " ++ d.message

/-- Fills in the place, unless a more precise one is known already. -/
def locate (d : Diagnostic) (p : SourcePos) : Diagnostic :=
  match d.place with
  | none => { d with place := some p }
  | some _ => d

/-- A place that is known stays. -/
theorem locate_of_placed {d : Diagnostic} {p q : SourcePos} (h : d.place = some q) :
    d.locate p = d := by
  simp [locate, h]

/-- A diagnostic that has been located has a place. -/
theorem locate_place_isSome (d : Diagnostic) (p : SourcePos) :
    (d.locate p).place.isSome = true := by
  unfold locate
  cases h : d.place <;> simp [h]

/-- The first place that is filled in wins. -/
theorem locate_locate (d : Diagnostic) (p q : SourcePos) :
    (d.locate p).locate q = d.locate p := by
  obtain ⟨r, hr⟩ := Option.isSome_iff_exists.1 (locate_place_isSome d p)
  exact locate_of_placed hr

end Diagnostic

/-! ## Failures -/

/-- Why a run stops. -/
inductive Failure where
  /-- The script has a mistake. -/
  | mistake (d : Diagnostic)
  /-- Arithmetic fails. -/
  | fault (f : Fault)
  /-- A table lacks an entry that it always holds. -/
  | missing (key : String)
  /-- There is no object or vertex of that number. -/
  | outOfRange
  /-- A clause about a path is applied to an object that has none. -/
  | noPath
  deriving DecidableEq, Repr

namespace Failure

/-- A mistake whose place is not known yet. -/
def ofCause (c : Cause) : Failure := mistake { cause := c }

/-- A mistake of evaluation. -/
def eval (e : EvalError) : Failure := ofCause (.eval e)

/-- A reference that cannot be satisfied. -/
def reference (e : ReferenceError) : Failure := ofCause (.reference e)

/-- Fills in the place of a mistake, unless a more precise one is known already. -/
def locate (f : Failure) (p : SourcePos) : Failure :=
  match f with
  | mistake d => mistake (d.locate p)
  | other => other

end Failure

/-- Fills in the place of a mistake that stops a computation. -/
def locating {α : Type} (p : SourcePos) (r : Except Failure α) : Except Failure α :=
  r.mapError (·.locate p)

/-- A value has no mistake to place. -/
@[simp] theorem locating_ok {α : Type} (p : SourcePos) (x : α) :
    locating p (.ok x) = .ok x := rfl

/-- What stops a computation is placed. -/
@[simp] theorem locating_error {α : Type} (p : SourcePos) (f : Failure) :
    locating p (.error f : Except Failure α) = .error (f.locate p) := rfl

/-- A mistake stops a run. -/
def liftMistake {α : Type} (r : Except Diagnostic α) : Except Failure α := r.mapError .mistake

/-- A value is not changed by what its computation could have stopped at. -/
@[simp] theorem liftMistake_ok {α : Type} (x : α) : liftMistake (.ok x) = .ok x := rfl

/-- What stops a computation is a mistake. -/
@[simp] theorem liftMistake_error {α : Type} (d : Diagnostic) :
    liftMistake (.error d : Except Diagnostic α) = .error (.mistake d) := rfl

/-- A fault of arithmetic stops a run. -/
def liftFault {α : Type} (r : Except Fault α) : Except Failure α := r.mapError .fault

end DiagramScript
