import Mathlib
import DiagramScript.Proofs.LeadingNumbers
import DiagramScript.Proofs.StatementSteps

/-!
# Operands that may be missing

After the word for a direction, after `heading` with an angle, and after `dotted` and `dashed` there
may be a number.  Whether there is one is decided by two tokens.  Not all that numbers start with is
known there; what is overlooked is taken for the next clause, and refused.

* `Reader.isOverlooked` — the first tokens of the expressions that are overlooked:
  `beginsScalar_eq_not_isOverlooked`.
* `Reader.plainOptionalSize_of_readExpression` and its like — what is read as the operand.
* `Reader.TakesOperand` — the words that an operand may follow, and their clause.
* `Reader.readAttribute_of_isOverlooked` — what is overlooked is no clause.
* `Reader.ReadsOperand`, `Reader.readsOperand` — declarations with an expression after such words.
-/

namespace DiagramScript

namespace Reader

variable {g : Reader}

/-! ## Operands that are overlooked -/

/-- Whether an operand that starts with the token is overlooked where it may be missing.  Overlooked
are expressions that start with a plus sign, with a reference that does not start with a label, with
a colour, or with a variable that scripts do not start with and that no operator follows. -/
def isOverlooked (t following : Token) : Bool :=
  match t.kind with
  | .plus => true
  | .nth _ => true
  | .color _ => true
  | .label =>
    match following.kind with
    | .dot => false
    | .edge _ => false
    | _ => true
  | .word =>
    isKeyword t.text ||
      !(isBuiltinVariable t.text || isFunctionName t.text || isOperator following.kind)
  | _ => false

/-- An expression starts with an operand that is seen or with one that is overlooked. -/
theorem beginsScalar_eq_not_isOverlooked {t : Token} {ts : List Token} {r : Scalar × List Token}
    (h : (g.readExpression (t :: ts)).plain = .ok r) :
    g.beginsScalar (t :: ts) = !isOverlooked t (g.peek ts) := by
  have starts {e : Diagnostic} (hs : (g.readSigned (t :: ts)).plain = .error e) : False := by
    rw [g.plain_readExpression_of_signed_error hs] at h
    cases h
  rw [plain_readSigned_cons, plain_readPrimary_cons] at starts
  unfold beginsScalar isOverlooked
  rw [peek_cons, peekSecond_cons]
  dsimp only
  cases kind : t.kind <;> rw [kind] at starts <;> dsimp only
  case label => cases (g.peek ts).kind <;> rfl
  case word => rw [Bool.not_or, Bool.not_not]
  case sigil | number | percent | color | nth | lparen | minus | plus => rfl
  all_goals exact (starts rfl).elim

/-! ## What is read as the operand -/

/-- An operand that is seen is read as a whole, unless it starts with a percentage. -/
theorem plainOptionalSize_of_readExpression {t : Token} {ts : List Token} {e : Scalar}
    {after : List Token} (h : (g.readExpression (t :: ts)).plain = .ok (e, after))
    (seen : isOverlooked t (g.peek ts) = false) (whole : ∀ v, t.kind ≠ .percent v) :
    g.plainOptionalSize (t :: ts) = (some e, after) := by
  have size : (g.readSize (t :: ts)).plain = .ok (e, after) := by
    rw [plain_readSize_cons]
    split
    · rename_i v percent
      exact (whole v percent).elim
    · exact h
  rw [plainOptionalSize_eq, beginsScalar_eq_not_isOverlooked h, seen, size]
  rfl

/-- A percentage is an operand by itself. -/
theorem plainOptionalSize_percent {t : Token} {v : Decimal} (percent : t.kind = .percent v)
    (ts : List Token) : g.plainOptionalSize (t :: ts) = (some (.percent t.pos v), ts) := by
  rw [plainOptionalSize_eq, plain_readSize_cons, beginsScalar, peek_cons, percent]
  rfl

/-- An operand that is overlooked is left alone. -/
theorem plainOptionalSize_of_isOverlooked {t : Token} {ts : List Token} {r : Scalar × List Token}
    (h : (g.readExpression (t :: ts)).plain = .ok r)
    (overlooked : isOverlooked t (g.peek ts) = true) :
    g.plainOptionalSize (t :: ts) = (none, t :: ts) := by
  rw [plainOptionalSize_eq, beginsScalar_eq_not_isOverlooked h, overlooked]
  rfl

/-! ## Clauses with operands -/

/-- A number that no operator follows is an expression by itself. -/
theorem plain_readExpression_number {t : Token} {v : Decimal} {u : Option LengthUnit}
    (number : t.kind = .number v u) {next : Token} (apart : isOperator next.kind = false)
    (ts : List Token) :
    (g.readExpression (t :: next :: ts)).plain = .ok (.number t.pos v u, next :: ts) := by
  refine plain_readExpression_of_apart ?_ apart
  rw [plain_readSigned_cons, number]
  dsimp only
  rw [plain_readPrimary_cons, number]

/-- Words that an operand may follow, with the clause that they make of the operand; `next` is the
token that the operand starts with. -/
inductive TakesOperand (next : Token) : Token → List Token → (Option Scalar → Clause) → Prop where
  /-- A direction. -/
  | direction {t : Token} {d : Direction} (word : t.kind = .word) (name : t.text = d.name) :
    TakesOperand next t [] (.direction d)
  /-- Dots. -/
  | dotted {t : Token} (word : t.isWord "dotted" = true) : TakesOperand next t [] .dotted
  /-- Dashes. -/
  | dashed {t : Token} (word : t.isWord "dashed" = true) : TakesOperand next t [] .dashed
  /-- An angle that the operand does not go on with. -/
  | heading {t angle : Token} {v : Decimal} {u : Option LengthUnit}
    (word : t.isWord "heading" = true) (number : angle.kind = .number v u)
    (apart : isOperator next.kind = false) :
    TakesOperand next t [angle] (.heading (.number angle.pos v u))

theorem TakesOperand.word {next w : Token} {more : List Token} {clause : Option Scalar → Clause}
    (h : TakesOperand next w more clause) : w.kind = .word := by
  cases h with
  | direction word name => exact word
  | dotted word | dashed word => exact (Token.isWord_iff.1 word).1
  | heading word => exact (Token.isWord_iff.1 word).1

/-- Such words make a clause of whatever is read as the operand. -/
theorem TakesOperand.plain?_readWordClause {next w : Token} {more : List Token}
    {clause : Option Scalar → Clause} (h : TakesOperand next w more clause)
    (apart : next.isWord "until" = false) (ts : List Token) :
    Reading.plain? (g.readWordClause w (more ++ next :: ts)) =
      .ok (some (clause (g.plainOptionalSize (next :: ts)).1,
        (g.plainOptionalSize (next :: ts)).2)) := by
  rw [Reader.plain?_readWordClause]
  cases h with
  | @direction d word name =>
    have dimension : Dimension.ofWord? d.name = none := by cases d <;> decide
    have flag : Flag.ofWord? d.name = none := by cases d <;> decide
    rw [name, dimension, flag, Direction.ofName?_name]
    dsimp only
    rw [List.nil_append, peek_cons, apart]
    rfl
  | dotted word =>
    rw [(Token.isWord_iff.1 word).2]
    rfl
  | dashed word =>
    rw [(Token.isWord_iff.1 word).2]
    rfl
  | heading word number apart =>
    rw [(Token.isWord_iff.1 word).2]
    change (do
      let angle ← (g.readExpression (_ :: next :: ts)).plain
      let distance := g.plainOptionalSize angle.2
      .ok (some (Clause.heading angle.1 distance.1, distance.2))) = _
    rw [plain_readExpression_number number apart, ok_bind]

/-! ## Clauses without operands -/

theorem isFunctionName_of_isKeyword {word : String} (h : isKeyword word = true) :
    isFunctionName word = false := by
  have none : ∀ w ∈ keywords, isFunctionName w = false := by decide
  exact none word (List.contains_iff_mem.1 h)

/-- A word that is no keyword is not in a table of keywords. -/
theorem lookup_eq_none_of_keywords {α : Type} {table : List (String × α)}
    (words : ∀ e ∈ table, isKeyword e.1 = true) {word : String} (h : isKeyword word = false) :
    table.lookup word = none := by
  refine List.lookup_eq_none_iff.2 fun e he => ?_
  rw [bne_iff_ne]
  rintro rfl
  exact Bool.false_ne_true (h.symm.trans (words e he))

/-- It names nothing that is named by keywords. -/
theorem find?_eq_none_of_keywords {α : Type} {xs : List α} {name : α → String}
    (words : ∀ x ∈ xs, isKeyword (name x) = true) {word : String} (h : isKeyword word = false) :
    xs.find? (name · = word) = none := by
  refine List.find?_eq_none.2 fun x hx => ?_
  rw [decide_eq_true_eq]
  rintro rfl
  exact Bool.false_ne_true (h.symm.trans (words x hx))

/-- It starts no clause. -/
theorem plain?_readWordClause_of_not_isKeyword {t : Token} (h : isKeyword t.text = false)
    (ts : List Token) : Reading.plain? (g.readWordClause t ts) = .ok none := by
  have dimension : Dimension.ofWord? t.text = none :=
    lookup_eq_none_of_keywords (by decide) h
  have flag : Flag.ofWord? t.text = none := lookup_eq_none_of_keywords (by decide) h
  have direction : Direction.ofName? t.text = none := find?_eq_none_of_keywords (by decide) h
  rw [plain?_readWordClause, dimension, flag, direction]
  dsimp only
  generalize t.text = word at h
  split
  case h_15 => rfl
  all_goals exact absurd h (by decide)

/-- What starts an operand that is overlooked is no clause, and is refused. -/
theorem readAttribute_of_isOverlooked {t : Token} {ts : List Token} {r : Scalar × List Token}
    (h : (g.readExpression (t :: ts)).plain = .ok r)
    (overlooked : isOverlooked t (g.peek ts) = true) (before : Clauses) :
    ∃ cause, (g.readAttribute before (t :: ts)).plain = .error ⟨cause, some t.pos⟩ := by
  have unseen : g.beginsScalar (t :: ts) = false := by
    rw [beginsScalar_eq_not_isOverlooked h, overlooked]
    rfl
  have distance : ∃ cause, (g.readDistance t ts).plain = .error ⟨cause, some t.pos⟩ := by
    rw [plain_readDistance, unseen, if_neg Bool.false_ne_true]
    split_ifs
    · exact ⟨_, rfl⟩
    · exact ⟨_, rfl⟩
  obtain ⟨cause, distance⟩ := distance
  rw [plain_readAttribute_cons]
  cases kind : t.kind <;> dsimp only
  case str | arrow =>
    -- neither a string nor an arrow is overlooked
    rw [isOverlooked, kind] at overlooked
    cases overlooked
  case word =>
    cases keyword : isKeyword t.text with
    | false =>
      have modifier : TextModifier.ofName? t.text = none :=
        find?_eq_none_of_keywords (by decide) keyword
      have going : t.text ≠ "go" := fun same => by
        rw [same] at keyword
        exact absurd keyword (by decide)
      rw [plain?_readWordClause_of_not_isKeyword keyword, ok_bind]
      dsimp only
      rw [if_neg going, modifier]
      dsimp only
      rw [if_neg Bool.false_ne_true, distance]
      exact ⟨cause, rfl⟩
    | true =>
      -- of the keywords that name no function, only these two start a number
      have reference : t.text = "previous" ∨ t.text = "last" := by
        by_contra other
        have noFunction := isFunctionName_of_isKeyword keyword
        have refused := g.plain_readSigned_word kind noFunction keyword ts
        rw [if_neg other] at refused
        rw [g.plain_readExpression_of_signed_error refused] at h
        cases h
      rw [plain?_readWordClause]
      rcases reference with text | text <;> rw [text]
      all_goals exact ⟨_, rfl⟩
  all_goals
    rw [distance]
    exact ⟨cause, rfl⟩

/-! ## Declarations with operands -/

/-- A declaration with such a clause goes on after whatever is read as the operand. -/
theorem TakesOperand.plain_readStatement {next w : Token} {angle : List Token}
    {clause : Option Scalar → Clause} (h : TakesOperand next w angle clause)
    (apart : next.isWord "until" = false) {c : Token} {cls : ObjectClass}
    (word : c.kind = .word) (named : ObjectClass.ofKeyword? c.text = some cls) (ts : List Token) :
    (g.readStatement (c :: w :: (angle ++ next :: ts))).plain = (do
      let all ← (g.readAttributes [⟨w.pos, clause (g.plainOptionalSize (next :: ts)).1⟩]
        (g.plainOptionalSize (next :: ts)).2).plain
      .ok (.object c.pos cls none all.1, all.2)) := by
  have noTerminator : w.isTerminator = false := by
    rw [Token.isTerminator, h.word]
    rfl
  have other {text : String} (ht : ObjectClass.ofKeyword? text = none) :
      c.isWord text = false := by
    refine Bool.eq_false_iff.2 fun hw => ?_
    rw [(Token.isWord_iff.1 hw).2, ht] at named
    cases named
  have begins : g.beginsObject (c :: w :: (angle ++ next :: ts)) = true := by
    rw [beginsObject, peek_cons, word]
    exact Option.isSome_iff_exists.2 ⟨cls, named⟩
  rw [plain_readStatement_cons, peek_cons, word, h.word, noTerminator, other (by decide),
    other (by decide), begins]
  change (g.readDeclaration c.pos none (c :: w :: (angle ++ next :: ts))).plain = _
  rw [plain_readDeclaration_cons, word, named]
  change (g.readObject c.pos none cls (w :: (angle ++ next :: ts))).plain = _
  rw [plain_readObject, plain_readAttributes, peek_cons, noTerminator, if_neg Bool.false_ne_true,
    plain_readAttribute_of_clause h.word (h.plain?_readWordClause apart ts), ok_bind]
  rfl

/-- How a declaration is read that has an operand after some words. -/
structure ReadsOperand (g : Reader) (c w : Token) (cls : ObjectClass) (angle : List Token)
    (clause : Option Scalar → Clause) (t : Token) (more after : List Token) (e : Scalar) :
    Prop where
  /-- An expression that is not overlooked is the operand, unless it goes on after a percentage. -/
  seen : isOverlooked t (g.peek (more ++ after)) = false →
    (∀ v, t.kind = .percent v → more = []) →
    (g.readStatement (c :: w :: (angle ++ t :: (more ++ after)))).plain =
      .ok (.object c.pos cls none [⟨w.pos, clause (some e)⟩], after)
  /-- Before an expression that is overlooked, the declaration is refused. -/
  overlooked : isOverlooked t (g.peek (more ++ after)) = true →
    ∃ cause, (g.readStatement (c :: w :: (angle ++ t :: (more ++ after)))).plain =
      .error ⟨cause, some t.pos⟩
  /-- A percentage is the operand by itself, and what it goes on with is read as clauses. -/
  cut : ∀ v, t.kind = .percent v →
    (g.readStatement (c :: w :: (angle ++ t :: (more ++ after)))).plain = (do
      let all ← (g.readAttributes [⟨w.pos, clause (some (.percent t.pos v))⟩]
        (more ++ after)).plain
      .ok (.object c.pos cls none all.1, all.2))

/-- A percentage that nothing goes on with is an expression by itself. -/
theorem plain_readExpression_percent {t : Token} {v : Decimal} (percent : t.kind = .percent v)
    {after : List Token} (stop : (g.peek after).kind.goesOn = false) :
    (g.readExpression (t :: after)).plain = .ok (.percent t.pos v, after) := by
  refine plain_readExpression_of_signed ?_ stop
  rw [plain_readSigned_cons, plain_readPrimary_cons, percent]

/-- No expression starts at the end of a statement. -/
theorem isTerminator_peek_of_readExpression {ts : List Token} {r : Scalar × List Token}
    (h : (g.readExpression ts).plain = .ok r) : (g.peek ts).isTerminator = false := by
  refine Bool.eq_false_iff.2 fun ends => ?_
  cases ts with
  | nil =>
    rw [g.plain_readExpression_of_signed_error g.plain_readSigned_nil] at h
    cases h
  | cons t ts =>
    have refused : ∃ d, (g.readSigned (t :: ts)).plain = .error d := by
      rw [peek_cons] at ends
      rcases Token.kind_of_isTerminator ends with kind | kind | kind
      all_goals
        rw [plain_readSigned_cons, plain_readPrimary_cons, kind]
        exact ⟨_, rfl⟩
    obtain ⟨d, refused⟩ := refused
    rw [g.plain_readExpression_of_signed_error refused] at h
    cases h

/-- An expression after words that an operand may follow is their operand, unless it is overlooked
or goes on after a percentage. -/
theorem readsOperand {T after : List Token} {e : Scalar}
    (accepted : (g.readExpression (T ++ after)).plain = .ok (e, after))
    (ends : (g.peek after).isTerminator = true) :
    ∃ t more, T = t :: more ∧ ∀ {c w : Token} {cls : ObjectClass} {angle : List Token}
      {clause : Option Scalar → Clause}, c.kind = .word →
      ObjectClass.ofKeyword? c.text = some cls → TakesOperand t w angle clause →
      ReadsOperand g c w cls angle clause t more after e := by
  cases T with
  | nil => exact absurd ((isTerminator_peek_of_readExpression accepted).symm.trans ends) nofun
  | cons t more =>
    refine ⟨t, more, rfl, fun {c w cls angle clause} word named takes => ?_⟩
    rw [List.cons_append] at accepted
    -- `until` after a direction would ask for another clause, but starts no expression
    have apart : t.isWord "until" = false := by
      refine Bool.eq_false_iff.2 fun hw => ?_
      obtain ⟨kind, text⟩ := Token.isWord_iff.1 hw
      have refused := g.plain_readSigned_word kind (text ▸ by decide) (text ▸ by decide)
        (more ++ after)
      rw [text, if_neg (by decide)] at refused
      rw [g.plain_readExpression_of_signed_error refused] at accepted
      cases accepted
    have statement := takes.plain_readStatement (g := g) apart word named (more ++ after)
    have stop (before : Clauses) : (g.readAttributes before after).plain = .ok (before, after) := by
      rw [plain_readAttributes, if_pos ends]
    refine ⟨fun seen whole => ?_, fun overlooked => ?_, fun v percent => ?_⟩
    · have operand : g.plainOptionalSize (t :: (more ++ after)) = (some e, after) := by
        by_cases percentage : ∃ v, t.kind = .percent v
        · obtain ⟨v, percent⟩ := percentage
          obtain rfl := whole v percent
          have alone : (g.readExpression (t :: after)).plain = .ok (.percent t.pos v, after) :=
            plain_readExpression_percent percent (Token.not_goesOn_of_isTerminator ends)
          cases accepted.symm.trans alone
          exact plainOptionalSize_percent percent after
        · exact plainOptionalSize_of_readExpression accepted seen fun v hv => percentage ⟨v, hv⟩
      rw [statement, operand]
      dsimp only
      rw [stop, ok_bind]
    · have operand := plainOptionalSize_of_isOverlooked accepted overlooked
      obtain ⟨cause, refused⟩ := readAttribute_of_isOverlooked accepted overlooked
        [⟨w.pos, clause none⟩]
      have goesOn : t.isTerminator = false := isTerminator_peek_of_readExpression accepted
      refine ⟨cause, ?_⟩
      rw [statement, operand]
      dsimp only
      rw [plain_readAttributes, peek_cons, goesOn, if_neg Bool.false_ne_true, refused]
      rfl
    · rw [statement, plainOptionalSize_percent percent]

/-- A line to the right whose length is twice a variable. -/
theorem readsOperand_twice :
    let g : Reader := ⟨.standard, ⟨.eof, "", ⟨1, 17⟩⟩⟩
    let T : List Token := [⟨.number ⟨2, 0⟩ none, "2", ⟨1, 12⟩⟩, ⟨.star, "*", ⟨1, 14⟩⟩,
      ⟨.word, "x", ⟨1, 16⟩⟩]
    let e : Scalar := .binary ⟨1, 14⟩ .mul (.number ⟨1, 12⟩ ⟨2, 0⟩ none) (.var ⟨1, 16⟩ "x")
    (g.readExpression (T ++ [])).plain = .ok (e, []) ∧ (g.peek []).isTerminator = true ∧
    (g.readStatement (⟨.word, "line", ⟨1, 1⟩⟩ :: ⟨.word, "right", ⟨1, 6⟩⟩ :: T)).plain =
      .ok (.object ⟨1, 1⟩ .line none [⟨⟨1, 6⟩, .direction .right (some e)⟩], []) := by
  intro g T e
  have accepted : (g.readExpression (T ++ [])).plain = .ok (e, []) := by
    cbv
  have ends : (g.peek []).isTerminator = true := rfl
  obtain ⟨t, more, whole, reads⟩ := readsOperand accepted ends
  obtain ⟨rfl, rfl⟩ := List.cons.inj whole
  have operand := reads (c := ⟨.word, "line", ⟨1, 1⟩⟩) (w := ⟨.word, "right", ⟨1, 6⟩⟩) rfl rfl
    (.direction (d := .right) rfl rfl)
  refine ⟨accepted, ends, operand.seen rfl fun v percent => ?_⟩
  cases percent

/-- A variable is an expression, and no length of a line to the right. -/
theorem readStatement_line_right_variable :
    let g : Reader := ⟨.standard, ⟨.eof, "", ⟨1, 13⟩⟩⟩
    let x : Token := ⟨.word, "x", ⟨1, 12⟩⟩
    (g.readExpression [x]).plain = .ok (.var ⟨1, 12⟩ "x", []) ∧
    (g.readStatement [⟨.word, "line", ⟨1, 1⟩⟩, ⟨.word, "right", ⟨1, 6⟩⟩, x]).plain =
      .error ⟨.parse (.unknownAttribute "x"), some ⟨1, 12⟩⟩ := by
  intro g x
  constructor
  · cbv
  · cbv

end Reader

end DiagramScript
