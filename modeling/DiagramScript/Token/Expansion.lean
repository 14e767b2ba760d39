import DiagramScript.Token.Scan

/-!
# Definitions and their expansion

A script may give a name to a piece of text and use it afterwards, with up to nine
arguments.  Definitions and uses are replaced on the list of tokens, before the
statements are read.

* `substitute` — the body of a definition with its arguments filled in.
* `collectArguments` — the arguments of a use, each turned back into text.
* `expandTokens` — the tokens of a script without definitions and uses.  Uses may be
  nested, but not more than `maxExpansionDepth` deep, so that a definition that uses
  itself is a mistake and not an endless loop.
* `expandTokens_of_no_define` — without definitions nothing changes.
-/

namespace DiagramScript

/-- How deep uses of definitions may be nested. -/
def maxExpansionDepth : Nat := 10

/-- Names and the texts they stand for, the latest definition first. -/
abbrev Definitions := List (String × String)

/-! ## Arguments -/

/-- Fills in the arguments of a body: a dollar sign with a digit from one to nine stands for
the argument of that number, and for nothing if there are fewer. -/
def substitute (args : List String) : List Char → List Char
  | '$' :: d :: cs =>
    if '1' ≤ d ∧ d ≤ '9' then
      ((args[d.toNat - '1'.toNat]?).getD "").toList ++ substitute args cs
    else '$' :: substitute args (d :: cs)
  | c :: cs => c :: substitute args cs
  | [] => []

/-- The text of a token in an argument; the end of a statement is written as a semicolon. -/
def argumentText (t : Token) : String := if t.kind = .eol then ";" else t.text

/-- The arguments up to the parenthesis that closes them, and how many tokens that takes.
Commas in inner parentheses do not separate arguments. -/
def collectArguments (depth : Nat) (current : List String) :
    List Token → Option (List String × Nat)
  | [] => none
  | t :: ts =>
    let within (depth : Nat) :=
      (collectArguments depth (current ++ [argumentText t]) ts).map fun r => (r.1, r.2 + 1)
    match t.kind with
    | .eof => none
    | .lparen => within (depth + 1)
    | .rparen => if depth ≤ 1 then some ([" ".intercalate current], 1) else within (depth - 1)
    | .comma =>
      if depth = 1 then
        (collectArguments depth [] ts).map fun r => (" ".intercalate current :: r.1, r.2 + 1)
      else within depth
    | _ => within depth

/-- The arguments after a name, if there are any, and how many tokens they take. -/
def useArguments : List Token → Except Diagnostic (List String × Nat)
  | [] => .ok ([], 0)
  | t :: ts =>
    if t.kind = .lparen then
      match collectArguments 1 [] ts with
      | some r => .ok (r.1, r.2 + 1)
      | none => .error ⟨.parse .unterminatedArguments, some t.pos⟩
    else .ok ([], 0)

/-! ## Definitions -/

/-- Whether the token can be the name in a definition. -/
def Token.isDefinable (t : Token) : Bool :=
  match t.kind with
  | .word | .label | .color _ => true
  | _ => false

/-- Whether the token can be a use of a definition. -/
def Token.isUsable (t : Token) : Bool := t.kind = .word || t.kind = .label

/-- The name and the text of a definition, given its keyword and the tokens after it. -/
def readDefinition (keyword : Token) : List Token → Except Diagnostic (String × String)
  | name :: body :: _ =>
    if name.isDefinable then
      match body.kind with
      | .block text => .ok (name.text, text)
      | _ => .error ⟨.parse .definitionBody, some body.pos⟩
    else .error ⟨.parse .definitionName, some name.pos⟩
  | _ => .error ⟨.parse .incompleteDefinition, some keyword.pos⟩

/-- The tokens a use stands for, before uses among them are replaced.  They all take the place
of the use. -/
def bodyTokens (colors : ColorTable) (use : Token) (body : String) (args : List String) :
    Except Failure (List Token) :=
  match tokenize colors (String.ofList (substitute args body.toList)) with
  | .ok ts => .ok ((ts.filter (·.kind ≠ .eof)).map (·.relocate use.pos))
  | .error (.mistake ⟨.lex e, _⟩) =>
    .error (.mistake ⟨.lex (.inExpansion use.text e), some use.pos⟩)
  | .error f => .error f

/-- Replaces definitions and uses, with `room` levels of nesting left.  A definition is known
from where it stands, also when it stands in the body of another. -/
def expandWith (colors : ColorTable) (room : Nat) (defs : Definitions) :
    List Token → Except Failure (List Token × Definitions)
  | [] => .ok ([], defs)
  | t :: ts =>
    if t.isWord "define" then do
      let d ← liftMistake (readDefinition t ts)
      expandWith colors room (d :: defs) (ts.drop 2)
    else
      match if t.isUsable then defs.lookup t.text else none with
      | none => do
        let r ← expandWith colors room defs ts
        .ok (t :: r.1, r.2)
      | some body => do
        let args ← liftMistake (useArguments ts)
        match room with
        | 0 => .error (.mistake ⟨.parse (.expansionTooDeep t.text), some t.pos⟩)
        | room' + 1 => do
          let inside ← bodyTokens colors t body args.1
          let r ← expandWith colors room' defs inside
          let s ← expandWith colors (room' + 1) r.2 (ts.drop args.2)
          .ok (r.1 ++ s.1, s.2)
termination_by ts => (room, ts.length)
decreasing_by
  · exact Prod.Lex.right _ (by simp only [List.length_cons, List.length_drop]; omega)
  · exact Prod.Lex.right _ (by simp only [List.length_cons]; omega)
  · exact Prod.Lex.left _ _ (by omega)
  · exact Prod.Lex.right _ (by simp only [List.length_cons, List.length_drop]; omega)

/-- The tokens of a script without definitions and uses. -/
def expandTokens (colors : ColorTable) (ts : List Token) : Except Failure (List Token) :=
  (expandWith colors maxExpansionDepth [] ts).map Prod.fst

/-- Tokens without definitions are left alone. -/
theorem expandWith_of_no_define (colors : ColorTable) (room : Nat) {ts : List Token}
    (h : ∀ t ∈ ts, t.isWord "define" = false) : expandWith colors room [] ts = .ok (ts, []) := by
  induction ts with
  | nil => rw [expandWith]
  | cons t ts ih =>
    have ht : t.isWord "define" = false := h t (by simp)
    have hts : ∀ u ∈ ts, u.isWord "define" = false := fun u hu => h u (by simp [hu])
    rw [expandWith]
    simp [ht, ih hts, bind, Except.bind]

theorem expandTokens_of_no_define (colors : ColorTable) {ts : List Token}
    (h : ∀ t ∈ ts, t.isWord "define" = false) : expandTokens colors ts = .ok ts := by
  rw [expandTokens, expandWith_of_no_define colors _ h]
  rfl

end DiagramScript
