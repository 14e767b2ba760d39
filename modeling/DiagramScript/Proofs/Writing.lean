import DiagramScript.Proofs.ReadingSteps
import DiagramScript.Proofs.Relocation
import DiagramScript.Token.Scan

/-!
# Expressions written as tokens

Every expression and every position can be written as tokens again.  Operands and inner positions
are put in parentheses, so that nothing depends on which operation binds more tightly.

* `Scalar.tokens`, `Position.tokens`, `ObjectRef.tokens` — the tokens of an expression, of a
  position and of a reference.
* `Scalar.labels`, `Position.labels` — the labels in the references of an expression or a position.
* `Scalar.IsReadable`, `Position.IsReadable` — the trees that have a form of their own in scripts.
* `readPlace_tokens` — references and the positions named by them are read back.
-/

namespace DiagramScript

/-- All places are forgotten. -/
def nowhere : SourcePos → SourcePos := fun _ => .first

/-! ## Tokens -/

namespace Token

/-- A word at the start of a script. -/
def ofWord (text : String) : Token := ⟨.word, text, .first⟩

theorem isWord_ofWord (text : String) : (ofWord text).isWord text = true := by
  simp [isWord, ofWord]

/-- A dot there. -/
def dot : Token := ⟨.dot, ".", .first⟩

/-- A comma there. -/
def comma : Token := ⟨.comma, ",", .first⟩

/-- A closing parenthesis there. -/
def rparen : Token := ⟨.rparen, ")", .first⟩

end Token

/-- Tokens in parentheses. -/
def parens (ts : List Token) : List Token := ⟨.lparen, "(", .first⟩ :: (ts ++ [.rparen])

theorem parens_append (ts rest : List Token) :
    parens ts ++ rest = ⟨.lparen, "(", .first⟩ :: (ts ++ .rparen :: rest) := by
  rw [parens, List.cons_append, List.append_assoc]
  rfl

/-- Tokens in parentheses, one group after the other, with commas between them. -/
def separated : List (List Token) → List Token
  | [] => []
  | [ts] => parens ts
  | ts :: us :: more => parens ts ++ .comma :: separated (us :: more)

/-! ## References -/

/-- The class of an object as tokens. -/
def ObjectClass.tokens : ObjectClass → List Token
  | container => [⟨.lbracket, "[", .first⟩, ⟨.rbracket, "]", .first⟩]
  | cls => [.ofWord cls.name]

/-- A place in a sequence as tokens. -/
def ordinalTokens (n : Nat) (fromLast : Bool) : List Token :=
  ⟨.nth n, toString n ++ "th", .first⟩ :: if fromLast then [.ofWord "last"] else []

/-- How an object is picked, as tokens. -/
def Selector.tokens : Selector → List Token
  | label name => [⟨.label, name, .first⟩]
  | ordinal cls n fromLast => ordinalTokens n fromLast ++ cls.tokens

namespace ObjectRef

/-- The reference as tokens. -/
def tokens : ObjectRef → List Token
  | previous _ => [.ofWord "previous"]
  | select _ s => s.tokens
  | member _ group _ (.label name) => group.tokens ++ [.dot, ⟨.label, name, .first⟩]
  | member _ group _ (.ordinal cls n fromLast) =>
    Selector.tokens (.ordinal cls n fromLast) ++ .ofWord "in" :: group.tokens

/-- The labels in the reference. -/
def labels : ObjectRef → List String
  | previous _ => []
  | select _ (.label name) => [name]
  | select _ (.ordinal ..) => []
  | member _ group _ (.label name) => name :: group.labels
  | member _ group _ (.ordinal ..) => group.labels

/-- Whether only labels pick members of groups. -/
def IsPath : ObjectRef → Prop
  | previous _ => True
  | select _ _ => True
  | member _ group _ (.label _) => group.IsPath
  | member _ _ _ (.ordinal ..) => False

/-- Whether the reference has a form of its own: `2nd box in A` has no members. -/
def IsReadable : ObjectRef → Prop
  | previous _ => True
  | select _ _ => True
  | member _ group _ (.label _) => group.IsPath
  | member _ group _ (.ordinal ..) => group.IsReadable

theorem IsPath.isReadable {r : ObjectRef} (h : r.IsPath) : r.IsReadable := by
  match r with
  | previous _ => trivial
  | select _ _ => trivial
  | member _ group _ (.label _) => exact h
  | member _ _ _ (.ordinal ..) => exact h.elim

end ObjectRef

/-! ## Numbers and points -/

/-- The sign of an operation as a token. -/
def BinaryOp.token : BinaryOp → Token
  | add => ⟨.plus, "+", .first⟩
  | sub => ⟨.minus, "-", .first⟩
  | mul => ⟨.star, "*", .first⟩
  | div => ⟨.slash, "/", .first⟩

/-- The word for a coordinate. -/
def Axis.name : Axis → String
  | x => "x"
  | y => "y"

namespace ScalarFunction

/-- A function is known by its name, and no other function has it. -/
theorem ofName?_name (f : ScalarFunction) : ofName? f.name = some f := by
  cases f <;> rfl

theorem isFunctionName_name (f : ScalarFunction) : isFunctionName f.name = true := by
  cases f <;> rfl

end ScalarFunction

/-- A variable as a token: a name that is no word of its own needs a sign before it. -/
def variableToken (name : String) : Token :=
  ⟨if isKeyword name || name.toList.head? = some '$' || name.toList.head? = some '@' then .sigil
    else .word, name, .first⟩

mutual

/-- The expression as tokens.  The texts of numbers are left out, as nothing is read from them. -/
def Scalar.tokens : Scalar → List Token
  | .number _ value unit => [⟨.number value unit, "", .first⟩]
  | .percent _ value => [⟨.percent value, "", .first⟩]
  | .var _ name => [variableToken name]
  | .color _ name => [⟨.color name, name, .first⟩]
  | .neg _ e => ⟨.minus, "-", .first⟩ :: parens (Scalar.tokens e)
  | .binary _ op a b => parens (Scalar.tokens a) ++ op.token :: parens (Scalar.tokens b)
  | .call _ function args => .ofWord function.name :: parens (separated (scalarTokens args))
  | .dist _ args => .ofWord distanceName :: parens (separated (positionTokens args))
  | .coordinate _ q axis => Position.tokens q ++ [.dot, .ofWord axis.name]
  | .property _ ref what => ref.tokens ++ [.dot, .ofWord what.name]

/-- The tokens of each of some expressions. -/
def scalarTokens : List Scalar → List (List Token)
  | [] => []
  | e :: es => Scalar.tokens e :: scalarTokens es

/-- The tokens of each of some positions. -/
def positionTokens : List Position → List (List Token)
  | [] => []
  | q :: qs => Position.tokens q :: positionTokens qs

/-- The position as tokens. -/
def Position.tokens : Position → List Token
  | .pair _ x y => parens (Scalar.tokens x) ++ .comma :: parens (Scalar.tokens y)
  | .object _ ref none => ref.tokens
  | .object _ ref (some a) => ref.tokens ++ [⟨.edge a, "." ++ a.name, .first⟩]
  | .vertex _ n ref fromLast =>
    ordinalTokens n fromLast ++ [.ofWord "vertex", .ofWord "of"] ++ ref.tokens
  | .offset _ base dx dy backward =>
    parens (Position.tokens base) ++ (if backward then BinaryOp.sub else .add).token ::
      parens (parens (Scalar.tokens dx) ++ .comma :: parens (Scalar.tokens dy))
  | .mix _ a b => parens (Position.tokens a) ++ .comma :: parens (Position.tokens b)
  | .relative _ distance side base =>
    parens (Scalar.tokens distance) ++ .ofWord side.name :: .ofWord "of" ::
      parens (Position.tokens base)
  | .heading _ distance angle base =>
    parens (Scalar.tokens distance) ++ .ofWord "heading" :: parens (Scalar.tokens angle) ++
      .ofWord "from" :: parens (Position.tokens base)
  | .between _ none a b =>
    .ofWord "between" :: parens (Position.tokens a) ++ .ofWord "and" :: parens (Position.tokens b)
  | .between _ (some fraction) a b =>
    parens (Scalar.tokens fraction) ++ ⟨.less, "<", .first⟩ :: parens (Position.tokens a) ++
      .comma :: parens (Position.tokens b) ++ [⟨.greater, ">", .first⟩]

end

mutual

/-- The labels in the references of the expression. -/
def Scalar.labels : Scalar → List String
  | .number .. => []
  | .percent .. => []
  | .var .. => []
  | .color .. => []
  | .neg _ e => Scalar.labels e
  | .binary _ _ a b => Scalar.labels a ++ Scalar.labels b
  | .call _ _ args => scalarLabels args
  | .dist _ args => positionLabels args
  | .coordinate _ q _ => Position.labels q
  | .property _ ref _ => ref.labels

/-- The labels in the references of some expressions. -/
def scalarLabels : List Scalar → List String
  | [] => []
  | e :: es => Scalar.labels e ++ scalarLabels es

/-- The labels in the references of some positions. -/
def positionLabels : List Position → List String
  | [] => []
  | q :: qs => Position.labels q ++ positionLabels qs

/-- The labels in the references of the position. -/
def Position.labels : Position → List String
  | .pair _ x y => Scalar.labels x ++ Scalar.labels y
  | .object _ ref _ => ref.labels
  | .vertex _ _ ref _ => ref.labels
  | .offset _ base dx dy _ => Position.labels base ++ Scalar.labels dx ++ Scalar.labels dy
  | .mix _ a b => Position.labels a ++ Position.labels b
  | .relative _ distance _ base => Scalar.labels distance ++ Position.labels base
  | .heading _ distance angle base =>
    Scalar.labels distance ++ Scalar.labels angle ++ Position.labels base
  | .between _ none a b => Position.labels a ++ Position.labels b
  | .between _ (some fraction) a b =>
    Scalar.labels fraction ++ Position.labels a ++ Position.labels b

end

/-- Whether the position is named by an object. -/
def Position.IsPlace : Position → Prop
  | .object .. => True
  | .vertex .. => True
  | _ => False

mutual

/-- Whether the expression has a form of its own. -/
def Scalar.IsReadable : Scalar → Prop
  | .number .. => True
  | .percent .. => True
  | .var .. => True
  | .color .. => True
  | .neg _ e => Scalar.IsReadable e
  | .binary _ _ a b => Scalar.IsReadable a ∧ Scalar.IsReadable b
  | .call _ _ args => ScalarsReadable args
  | .dist _ args => PositionsReadable args
  | .coordinate _ q _ => q.IsPlace ∧ Position.IsReadable q
  | .property _ ref _ => ref.IsReadable

/-- Whether all of some expressions have a form of their own. -/
def ScalarsReadable : List Scalar → Prop
  | [] => True
  | e :: es => Scalar.IsReadable e ∧ ScalarsReadable es

/-- Whether all of some positions have a form of their own. -/
def PositionsReadable : List Position → Prop
  | [] => True
  | q :: qs => Position.IsReadable q ∧ PositionsReadable qs

/-- Whether the position has a form of its own. -/
def Position.IsReadable : Position → Prop
  | .pair _ x y => Scalar.IsReadable x ∧ Scalar.IsReadable y
  | .object _ ref _ => ref.IsReadable
  | .vertex _ _ ref _ => ref.IsReadable
  | .offset _ base dx dy _ =>
    Position.IsReadable base ∧ Scalar.IsReadable dx ∧ Scalar.IsReadable dy
  | .mix _ a b => Position.IsReadable a ∧ Position.IsReadable b
  | .relative _ distance _ base => Scalar.IsReadable distance ∧ Position.IsReadable base
  | .heading _ distance angle base =>
    Scalar.IsReadable distance ∧ Scalar.IsReadable angle ∧ Position.IsReadable base
  | .between _ none a b => Position.IsReadable a ∧ Position.IsReadable b
  | .between _ (some fraction) a b =>
    Scalar.IsReadable fraction ∧ Position.IsReadable a ∧ Position.IsReadable b

end

/-! ## Reading references -/

/-- Whether a reference ends before the tokens: no member follows, and no group. -/
def EndsRef (ts : List Token) : Prop :=
  (∀ d l more, ts = d :: l :: more → ¬ (d.kind = .dot ∧ l.kind = .label)) ∧
    ∀ t ∈ ts.head?, t.isWord "in" = false

namespace Reader

variable (g : Reader)

theorem plainMembers_of_endsRef {rest : List Token} (h : EndsRef rest) (pos : SourcePos)
    (group : ObjectRef) : plainMembers pos group rest = (group, rest) := by
  match rest with
  | [] => exact plainMembers_nil pos group
  | [d] => exact plainMembers_singleton pos group d
  | d :: l :: more => rw [plainMembers_cons_cons, if_neg (h.1 d l more rfl)]

theorem readClass_tokens (cls : ObjectClass) (rest : List Token) :
    (g.readClass (cls.tokens ++ rest)).plain = .ok (cls, rest) := by
  cases cls <;> rfl

theorem plainOrdinal?_tokens (n : Nat) (fromLast : Bool) {rest : List Token}
    (h : ∀ t ∈ rest.head?, t.isWord "last" = false) :
    plainOrdinal? (ordinalTokens n fromLast ++ rest) = some ((n, fromLast), rest) := by
  cases fromLast with
  | true => rfl
  | false =>
    cases rest with
    | nil => rfl
    | cons t rest =>
      change plainOrdinal? (_ :: t :: rest) = _
      rw [plainOrdinal?_cons]
      dsimp only
      rw [h t rfl]
      rfl

theorem plainOrdinal?_selector (n : Nat) (fromLast : Bool) (cls : ObjectClass) (rest : List Token) :
    plainOrdinal? (ordinalTokens n fromLast ++ (cls.tokens ++ rest)) =
      some ((n, fromLast), cls.tokens ++ rest) :=
  plainOrdinal?_tokens n fromLast (by cases cls <;> (rintro t ⟨⟩; rfl))

theorem readObjectRef_ordinal (n : Nat) (fromLast : Bool) (cls : ObjectClass) (rest : List Token) :
    (g.readObjectRef (Selector.tokens (.ordinal cls n fromLast) ++ rest)).plain =
      match rest with
      | u :: more =>
        if u.isWord "in" then do
          let group ← (g.readObjectRef more).plain
          .ok (plainMembers .first
            (.member .first group.1 .first (.ordinal cls n fromLast)) group.2)
        else .ok (plainMembers .first (.select .first (.ordinal cls n fromLast)) (u :: more))
      | [] => .ok (.select .first (.ordinal cls n fromLast), []) := by
  have place := plainOrdinal?_selector n fromLast cls rest
  rw [← List.append_assoc] at place
  rw [Selector.tokens, ordinalTokens, List.cons_append, List.cons_append] at *
  rw [plain_readObjectRef_cons, place, if_neg (by simp), if_neg (by simp [Token.isWord])]
  dsimp only
  rw [readClass_tokens]
  cases rest <;> rfl

/-- A reference without a group is read up to its first members, and then with all that follow. -/
theorem readObjectRef_path {r : ObjectRef} (h : r.IsPath) {rest : List Token}
    (hin : ∀ t ∈ rest.head?, t.isWord "in" = false) :
    (g.readObjectRef (r.tokens ++ rest)).plain =
      .ok (plainMembers .first (r.mapPos nowhere) rest) := by
  match r with
  | .previous p =>
    rw [ObjectRef.tokens, List.singleton_append, plain_readObjectRef_cons]
    rfl
  | .select p (.label name) =>
    rw [ObjectRef.tokens, Selector.tokens, List.singleton_append, plain_readObjectRef_cons]
    rfl
  | .select p (.ordinal cls n fromLast) =>
    rw [ObjectRef.tokens, readObjectRef_ordinal]
    cases rest with
    | nil => exact congrArg Except.ok (plainMembers_nil _ _).symm
    | cons u more =>
      dsimp only
      rw [hin u rfl]
      rfl
  | .member p group q (.label name) =>
    rw [ObjectRef.tokens, List.append_assoc]
    refine (readObjectRef_path (r := group) h fun t ht => ?_).trans ?_
    · cases ht
      rfl
    · exact congrArg Except.ok ((plainMembers_cons_cons ..).trans (if_pos ⟨rfl, rfl⟩))

/-- References are read back, if nothing follows that would go on with them. -/
theorem readObjectRef_tokens {r : ObjectRef} (h : r.IsReadable) {rest : List Token}
    (hrest : EndsRef rest) :
    (g.readObjectRef (r.tokens ++ rest)).plain = .ok (r.mapPos nowhere, rest) := by
  have path : ∀ {r : ObjectRef}, r.IsPath →
      (g.readObjectRef (r.tokens ++ rest)).plain = .ok (r.mapPos nowhere, rest) := fun h => by
    rw [g.readObjectRef_path h hrest.2, plainMembers_of_endsRef hrest]
  match r with
  | .previous p => exact path trivial
  | .select p s => exact path trivial
  | .member p group q (.label name) => exact path h
  | .member p group q (.ordinal cls n fromLast) =>
    have inner := readObjectRef_tokens (r := group) h hrest
    rw [ObjectRef.tokens, List.append_assoc, readObjectRef_ordinal, List.cons_append]
    dsimp only
    rw [inner, ok_bind, if_pos (Token.isWord_ofWord "in")]
    dsimp only
    rw [plainMembers_of_endsRef hrest]
    rfl

end Reader

end DiagramScript
