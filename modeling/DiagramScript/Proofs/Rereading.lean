import DiagramScript.Proofs.Writing
import Mathlib.Data.List.Forall2

/-!
# Reading what was written

Expressions and positions that are written as tokens are read back, up to the places in them.  A
position is read by trial, first as a number; so it is shown with each that it reads as no number.

* `ReadsScalar`, `ReadsPosition` — tokens that are read as an expression or as a position, whatever
  follows.
* `ReadsScalar.binary`, `ReadsPosition.between` and the like — one law for every form.
* `Scalar.reads_tokens`, `Position.reads_tokens` — the tokens of every expression and position.
-/

namespace DiagramScript

variable {g : Reader}

/-! ## Places -/

/-- How the tokens of a reference begin: with a label, with a word, or with an ordinal number and a
class. -/
theorem ObjectRef.tokens_cases (r : ObjectRef) :
    (∃ name ∈ r.labels, ∃ more, r.tokens = ⟨.label, name, .first⟩ :: more) ∨
    (∃ more, r.tokens = .ofWord "previous" :: more) ∨
    ∃ n fromLast cls more,
      r.tokens = ordinalTokens n fromLast ++ (ObjectClass.tokens cls ++ more) := by
  match r with
  | previous p => exact .inr (.inl ⟨[], rfl⟩)
  | select p (.label name) => exact .inl ⟨name, List.mem_singleton_self _, [], rfl⟩
  | select p (.ordinal cls n fromLast) =>
    exact .inr (.inr ⟨n, fromLast, cls, [], by rw [List.append_nil]; rfl⟩)
  | member p group q (.label name) =>
    rw [tokens]
    rcases tokens_cases group with
      ⟨first, hfirst, more, h⟩ | ⟨more, h⟩ | ⟨n, fromLast, cls, more, h⟩
    · exact .inl ⟨first, List.mem_cons_of_mem _ hfirst, _, by rw [h, List.cons_append]⟩
    · exact .inr (.inl ⟨_, by rw [h, List.cons_append]⟩)
    · exact .inr (.inr ⟨n, fromLast, cls, _, by rw [h, List.append_assoc, List.append_assoc]⟩)
  | member p group q (.ordinal cls n fromLast) =>
    exact .inr (.inr ⟨n, fromLast, cls, _, by rw [tokens, Selector.tokens, List.append_assoc]⟩)

/-- The tokens of a position named by an object begin with no parenthesis and not with `between`. -/
theorem Position.tokens_eq_cons {q : Position} (hq : q.IsPlace) :
    ∃ t more, q.tokens = t :: more ∧ t.pos = .first ∧ t.kind ≠ .lparen ∧
      t.isWord "between" = false := by
  have ref : ∀ (r : ObjectRef) (us : List Token), ∃ t more, r.tokens ++ us = t :: more ∧
      t.pos = .first ∧ t.kind ≠ .lparen ∧ t.isWord "between" = false := fun r us => by
    rcases r.tokens_cases with ⟨name, -, more, h⟩ | ⟨more, h⟩ | ⟨n, fromLast, cls, more, h⟩
    · exact ⟨_, _, by rw [h, List.cons_append], rfl, by simp, rfl⟩
    · exact ⟨_, _, by rw [h, List.cons_append], rfl, by simp [Token.ofWord], rfl⟩
    · exact ⟨_, _, by rw [h, ordinalTokens, List.cons_append, List.cons_append], rfl, by simp, rfl⟩
  cases q with
  | object p r a =>
    cases a with
    | none => simpa [Position.tokens] using ref r []
    | some a => exact ref r _
  | vertex p n r fromLast => exact ⟨_, _, rfl, rfl, by simp, rfl⟩
  | _ => exact hq.elim

/-- After a place in a sequence there may be a vertex, and otherwise there is an object. -/
theorem Reader.plain_readPlace_ordinal (n : Nat) (fromLast : Bool) {rest : List Token}
    (h : ∀ t ∈ rest.head?, t.isWord "last" = false) :
    (g.readPlace (ordinalTokens n fromLast ++ rest)).plain = (do
      match ← Reading.plain? (g.readVertex .first (n, fromLast) rest) with
      | some v => .ok v
      | none => (g.readObjectPlace .first (ordinalTokens n fromLast ++ rest)).plain) := by
  have place := plainOrdinal?_tokens n fromLast h
  rw [ordinalTokens, List.cons_append] at *
  rw [plain_readPlace_cons]
  change g.plainUnanchored _ _ = _
  unfold plainUnanchored
  exact place ▸ rfl

/-- A reference is read as a place by reading the reference. -/
theorem Reader.plain_readPlace_tokens (r : ObjectRef) (rest : List Token) :
    (g.readPlace (r.tokens ++ rest)).plain =
      (g.readObjectPlace .first (r.tokens ++ rest)).plain := by
  rcases r.tokens_cases with ⟨name, -, more, h⟩ | ⟨more, h⟩ | ⟨n, fromLast, cls, more, h⟩
  · rw [h, List.cons_append, plain_readPlace_cons]
    rfl
  · rw [h, List.cons_append, plain_readPlace_cons]
    rfl
  · have noVertex : Reading.plain? (g.readVertex .first (n, fromLast)
        (cls.tokens ++ (more ++ rest))) = .ok none := by
      cases cls <;> exact g.plain?_readVertex_cons ..
    rw [h, List.append_assoc, List.append_assoc, plain_readPlace_ordinal, noVertex]
    · rfl
    · cases cls <;> (rintro t ⟨⟩; rfl)

/-- A position that is named by an object is read back, if nothing follows that would go on with
it. -/
theorem Reader.readPlace_tokens {q : Position} (hq : q.IsPlace) (h : q.IsReadable)
    {rest : List Token} (hrest : EndsRef rest) (hedge : ∀ t ∈ rest.head?, ∀ a, t.kind ≠ .edge a) :
    (g.readPlace (q.tokens ++ rest)).plain = .ok (q.mapPos nowhere, rest) := by
  match q with
  | .object p ref none =>
    rw [Position.tokens, plain_readPlace_tokens, plain_readObjectPlace,
      g.readObjectRef_tokens h hrest, ok_bind]
    cases rest with
    | nil => rfl
    | cons t rest =>
      dsimp only
      split
      · rename_i a ha
        exact absurd ha (hedge t rfl a)
      · rfl
  | .object p ref (some a) =>
    have ends : EndsRef (⟨.edge a, "." ++ a.name, .first⟩ :: rest) :=
      ⟨fun d l more heq => by cases heq; simp, fun t ht => by cases ht; rfl⟩
    rw [Position.tokens, List.append_assoc, List.singleton_append, plain_readPlace_tokens,
      plain_readObjectPlace, g.readObjectRef_tokens h ends, ok_bind]
    rfl
  | .vertex p n ref fromLast =>
    rw [Position.tokens, List.append_assoc, List.append_assoc, plain_readPlace_ordinal]
    · rw [List.cons_append, plain?_readVertex_cons, if_pos (Token.isWord_ofWord _),
        List.singleton_append, plain_readWord_cons _ (Token.isWord_ofWord _), ok_bind,
        g.readObjectRef_tokens h hrest]
      rfl
    · rintro t ⟨⟩
      rfl

/-! ## Numbers -/

/-- Whether a number before the token may go on with it. -/
def TokenKind.goesOn : TokenKind → Bool
  | plus | minus | star | slash | lparen => true
  | _ => false

theorem Token.not_goesOn_of_isTerminator {t : Token} (h : t.isTerminator = true) :
    t.kind.goesOn = false := by
  rcases kind_of_isTerminator h with kind | kind | kind <;> rw [kind] <;> rfl

namespace Reader

theorem plain_readFactors_stop {rest : List Token} (h : (g.peek rest).kind.goesOn = false)
    (e : Scalar) : (g.readFactors e rest).plain = .ok (e, rest) := by
  cases rest with
  | nil => exact g.plain_readFactors_nil e
  | cons t rest =>
    rw [peek_cons] at h
    rw [plain_readFactors_cons]
    split
    · rename_i hk
      simp [hk, TokenKind.goesOn] at h
    · rename_i hk
      simp [hk, TokenKind.goesOn] at h
    · rfl

theorem plain_readSums_stop {rest : List Token} (h : (g.peek rest).kind.goesOn = false)
    (e : Scalar) : (g.readSums e rest).plain = .ok (e, rest) := by
  cases rest with
  | nil => exact g.plain_readSums_nil e
  | cons t rest =>
    rw [peek_cons] at h
    rw [plain_readSums_cons]
    split
    · rename_i hk
      simp [hk, TokenKind.goesOn] at h
    · rename_i hk
      simp [hk, TokenKind.goesOn] at h
    · rfl

/-- An operand that no operation follows is an expression. -/
theorem plain_readExpression_of_signed {ts rest : List Token} {e : Scalar}
    (h : (g.readSigned ts).plain = .ok (e, rest)) (hrest : (g.peek rest).kind.goesOn = false) :
    (g.readExpression ts).plain = .ok (e, rest) := by
  rw [plain_readExpression, plain_readTerm, h, ok_bind, plain_readFactors_stop hrest, ok_bind,
    plain_readSums_stop hrest]

end Reader

/-- Tokens that are read as an expression, whatever follows that does not go on with it. -/
def ReadsScalar (g : Reader) (ts : List Token) (e : Scalar) : Prop :=
  ∀ rest : List Token, (g.peek rest).kind.goesOn = false →
    (g.readExpression (ts ++ rest)).plain = .ok (e, rest)

namespace ReadsScalar

variable {ts us : List Token} {a b : Scalar}

/-- In parentheses, an expression is an operand. -/
theorem signed (h : ReadsScalar g ts a) (rest : List Token) :
    (g.readSigned (parens ts ++ rest)).plain = .ok (a, rest) := by
  rw [parens_append, Reader.plain_readSigned_cons]
  dsimp only
  rw [Reader.plain_readPrimary_cons]
  dsimp only
  rw [h _ rfl, ok_bind, g.plain_readMark_cons .rparen rfl, ok_bind]

/-- In parentheses, an expression is one itself. -/
theorem inParens (h : ReadsScalar g ts a) : ReadsScalar g (parens ts) a :=
  fun _ hrest => Reader.plain_readExpression_of_signed (h.signed _) hrest

/-- In parentheses, an expression ends before a token that does not go on with it. -/
theorem before (h : ReadsScalar g ts a) {t : Token} (ht : t.kind.goesOn = false)
    (rest : List Token) : (g.readExpression (parens ts ++ t :: rest)).plain = .ok (a, t :: rest) :=
  h.inParens _ ht

theorem single {t : Token} (h : ∀ {rest}, (g.peek rest).kind.goesOn = false →
    (g.readSigned (t :: rest)).plain = .ok (a, rest)) : ReadsScalar g [t] a :=
  fun _ hrest => Reader.plain_readExpression_of_signed (h hrest) hrest

theorem number (value : Decimal) (unit : Option LengthUnit) :
    ReadsScalar g [⟨.number value unit, "", .first⟩] (.number .first value unit) :=
  single fun _ => by
    rw [Reader.plain_readSigned_cons]
    exact g.plain_readPrimary_cons ..

theorem percent (value : Decimal) :
    ReadsScalar g [⟨.percent value, "", .first⟩] (.percent .first value) :=
  single fun _ => by
    rw [Reader.plain_readSigned_cons]
    exact g.plain_readPrimary_cons ..

theorem color (name : String) :
    ReadsScalar g [⟨.color name, name, .first⟩] (.color .first name) :=
  single fun _ => by
    rw [Reader.plain_readSigned_cons]
    exact g.plain_readPrimary_cons ..

theorem var (name : String) : ReadsScalar g [variableToken name] (.var .first name) :=
  single fun {rest} hrest => by
    rw [variableToken]
    by_cases h :
      (isKeyword name || name.toList.head? = some '$' || name.toList.head? = some '@') = true
    · rw [if_pos h, Reader.plain_readSigned_cons]
      exact g.plain_readPrimary_cons ..
    · have notKeyword : isKeyword name = false := by
        simp only [Bool.or_eq_true, not_or, Bool.not_eq_true] at h
        exact h.1.1
      have notCalled : (g.peek rest).kind ≠ .lparen := fun hk => by
        simp [hk, TokenKind.goesOn] at hrest
      rw [if_neg h, Reader.plain_readSigned_cons]
      dsimp only
      rw [Reader.plain_readPrimary_cons]
      dsimp only
      rw [if_neg fun h => notCalled h.2, notKeyword]
      rfl

theorem neg (h : ReadsScalar g ts a) :
    ReadsScalar g (⟨.minus, "-", .first⟩ :: parens ts) (.neg .first a) := by
  intro rest hrest
  refine Reader.plain_readExpression_of_signed ?_ hrest
  rw [List.cons_append, Reader.plain_readSigned_cons]
  dsimp only
  rw [h.signed, ok_bind]

theorem binary (op : BinaryOp) (ha : ReadsScalar g ts a) (hb : ReadsScalar g us b) :
    ReadsScalar g (parens ts ++ op.token :: parens us) (.binary .first op a b) := by
  intro rest hrest
  rw [List.append_assoc, List.cons_append, Reader.plain_readExpression, Reader.plain_readTerm,
    ha.signed, ok_bind]
  dsimp only
  rw [Reader.plain_readFactors_cons]
  cases op <;> dsimp only [BinaryOp.token]
  case mul =>
    rw [hb.signed, ok_bind, Reader.plain_readFactors_stop hrest, ok_bind,
      Reader.plain_readSums_stop hrest]
  case div =>
    rw [hb.signed, ok_bind, Reader.plain_readFactors_stop hrest, ok_bind,
      Reader.plain_readSums_stop hrest]
  all_goals
    rw [ok_bind, Reader.plain_readSums_cons]
    dsimp only
    rw [Reader.plain_readTerm, hb.signed, ok_bind, Reader.plain_readFactors_stop hrest, ok_bind,
      Reader.plain_readSums_stop hrest]

/-- A word that is the name of a function begins a call if a parenthesis follows. -/
theorem signed_call {name : String} (h : isFunctionName name = true) (rest : List Token) :
    (g.readSigned (.ofWord name :: ⟨.lparen, "(", .first⟩ :: rest)).plain =
      (g.readCall (.ofWord name) (⟨.lparen, "(", .first⟩ :: rest)).plain := by
  rw [Reader.plain_readSigned_cons]
  dsimp only [Token.ofWord]
  rw [Reader.plain_readPrimary_cons]
  exact if_pos ⟨h, rfl⟩

/-- Arguments are read up to the parenthesis after them. -/
theorem readScalarArgs {tss : List (List Token)} {es : List Scalar}
    (h : List.Forall₂ (ReadsScalar g) (ts :: tss) es) (rest : List Token) :
    (g.readScalarArgs (separated (ts :: tss) ++ .rparen :: rest)).plain = .ok (es, rest) := by
  induction tss generalizing ts es with
  | nil =>
    cases h with
    | cons he hnil =>
      cases hnil
      rw [separated, Reader.plain_readScalarArgs, he.before rfl, ok_bind]
      rfl
  | cons us tss ih =>
    cases h with
    | cons he hes =>
      rw [separated, List.append_assoc, List.cons_append, Reader.plain_readScalarArgs,
        he.before rfl, ok_bind]
      dsimp only [Token.comma]
      rw [ih hes, ok_bind]

theorem peek_separated {tss : List (List Token)} (rest : List Token) :
    (g.peek (separated (ts :: tss) ++ rest)).kind ≠ .rparen := by
  cases tss <;> simp [separated, parens]

theorem call (f : ScalarFunction) {tss : List (List Token)} {es : List Scalar}
    (h : List.Forall₂ (ReadsScalar g) tss es) :
    ReadsScalar g (.ofWord f.name :: parens (separated tss)) (.call .first f es) := by
  intro rest hrest
  refine Reader.plain_readExpression_of_signed ?_ hrest
  rw [List.cons_append, parens_append, signed_call f.isFunctionName_name, Reader.plain_readCall,
    g.plain_readMark_cons .lparen rfl, ok_bind]
  dsimp only [Token.ofWord]
  rw [f.ofName?_name]
  dsimp only
  cases tss with
  | nil =>
    cases h
    rfl
  | cons ts tss => rw [if_neg (peek_separated _), readScalarArgs h, ok_bind]

theorem signed_ordinal (n : Nat) (fromLast : Bool) (rest : List Token) :
    (g.readSigned (ordinalTokens n fromLast ++ rest)).plain =
      (g.readPlaceScalar (ordinalTokens n fromLast ++ rest)).plain := by
  rw [ordinalTokens, List.cons_append, Reader.plain_readSigned_cons]
  exact g.plain_readPrimary_cons ..

/-- A reference that does not begin with the name of a colour begins no number but that of a
place. -/
theorem signed_ref (r : ObjectRef) (labels : ∀ l ∈ r.labels, g.colors.knows l = false)
    (rest : List Token) :
    (g.readSigned (r.tokens ++ rest)).plain = (g.readPlaceScalar (r.tokens ++ rest)).plain := by
  rcases r.tokens_cases with ⟨name, hname, more, h⟩ | ⟨more, h⟩ | ⟨n, fromLast, cls, more, h⟩
  · have noColor : g.namesColor ⟨.label, name, .first⟩ (g.peek (more ++ rest)) = false := by
      unfold Reader.namesColor
      split <;> first | rfl | exact labels name hname
    rw [h, List.cons_append, Reader.plain_readSigned_cons]
    dsimp only
    rw [Reader.plain_readPrimary_cons]
    dsimp only
    rw [noColor]
    rfl
  · rw [h, List.cons_append, Reader.plain_readSigned_cons]
    dsimp only [Token.ofWord]
    have noCall : isFunctionName "previous" = false := by decide
    have keyword : isKeyword "previous" = true := by decide
    rw [Reader.plain_readPrimary_cons]
    dsimp only
    rw [noCall, keyword, if_neg (by simp), if_neg (by simp), if_pos (.inl rfl)]
  · rw [h, List.append_assoc, signed_ordinal]

theorem signed_place {q : Position} (hq : q.IsPlace)
    (labels : ∀ l ∈ q.labels, g.colors.knows l = false) (rest : List Token) :
    (g.readSigned (q.tokens ++ rest)).plain = (g.readPlaceScalar (q.tokens ++ rest)).plain := by
  match q with
  | .object p ref none => exact signed_ref ref labels rest
  | .object p ref (some a) =>
    rw [Position.tokens, List.append_assoc]
    exact signed_ref ref labels _
  | .vertex p n ref fromLast =>
    rw [Position.tokens, List.append_assoc, List.append_assoc]
    exact signed_ordinal n fromLast _

/-- The word after a dot decides what number of a place is meant. -/
theorem placeScalar {q : Position} (hq : q.IsPlace) (h : q.IsReadable)
    (labels : ∀ l ∈ q.labels, g.colors.knows l = false) {word : String} {e : Scalar}
    (he : Reader.scalarOfPlace? .first (q.mapPos nowhere) word = some e) :
    ReadsScalar g (q.tokens ++ [.dot, .ofWord word]) e := by
  intro rest hrest
  refine Reader.plain_readExpression_of_signed ?_ hrest
  obtain ⟨t, more, htokens, hpos, -⟩ := Position.tokens_eq_cons hq
  have first : ∀ us, (g.peek (q.tokens ++ us)).pos = .first := fun us => by
    rw [htokens]
    exact hpos
  have ends : EndsRef (.dot :: .ofWord word :: rest) :=
    ⟨fun d l more heq => by cases heq; simp [Token.ofWord], fun t ht => by cases ht; rfl⟩
  rw [List.append_assoc, signed_place hq labels, Reader.plain_readPlaceScalar, first]
  change (Reading.plain (g.readPlace (q.tokens ++ .dot :: .ofWord word :: rest)) >>= _) = _
  rw [Reader.readPlace_tokens hq h ends (by rintro t ⟨⟩ a; simp [Token.dot]), ok_bind]
  dsimp only
  rw [if_pos ⟨rfl, rfl⟩]
  dsimp only [Token.ofWord]
  rw [he]

theorem coordinate {q : Position} (hq : q.IsPlace) (h : q.IsReadable)
    (labels : ∀ l ∈ q.labels, g.colors.knows l = false) (axis : Axis) :
    ReadsScalar g (q.tokens ++ [.dot, .ofWord axis.name])
      (.coordinate .first (q.mapPos nowhere) axis) :=
  placeScalar hq h labels (by cases axis <;> rfl)

theorem property {r : ObjectRef} (h : r.IsReadable)
    (labels : ∀ l ∈ r.labels, g.colors.knows l = false) (what : Property) :
    ReadsScalar g (r.tokens ++ [.dot, .ofWord what.name])
      (.property .first (r.mapPos nowhere) what) :=
  placeScalar (q := .object .first r none) trivial h labels (by cases what <;> rfl)

end ReadsScalar

/-! ## Points -/

theorem Reader.plain_readOffsets_stop {rest : List Token} (h : (g.peek rest).kind.goesOn = false)
    (q : Position) : (g.readOffsets q rest).plain = .ok (q, rest) := by
  cases rest with
  | nil => exact g.plain_readOffsets_nil q
  | cons t rest =>
    rw [Reader.peek_cons] at h
    rw [plain_readOffsets_cons, if_neg]
    rintro (hk | hk) <;> simp [hk, TokenKind.goesOn] at h

/-- Tokens that in parentheses are read as a position, whatever follows, and not as a number. -/
structure ReadsPosition (g : Reader) (ts : List Token) (q : Position) : Prop where
  /-- They are read as the position. -/
  group : ∀ rest, (g.readGroupOrPlace (parens ts ++ rest)).plain = .ok (q, rest)
  /-- They are not read as a number. -/
  noNumber : ∀ rest, ∃ d, (g.readPrimary (parens ts ++ rest)).plain = .error d

namespace ReadsPosition

variable {ts us bs cs ds : List Token} {q b c : Position} {d : Scalar}

theorem noExpression (h : ReadsPosition g ts q) (rest : List Token) :
    ∃ d, (g.readExpression (parens ts ++ rest)).plain = .error d := by
  obtain ⟨d, hd⟩ := h.noNumber rest
  refine ⟨d, ?_⟩
  rw [parens_append] at *
  rw [Reader.plain_readExpression, Reader.plain_readTerm, Reader.plain_readSigned_cons]
  dsimp only
  rw [hd]
  rfl

/-- No number stands in the way, so the tokens are read again, as a group. -/
theorem primary (h : ReadsPosition g ts q) (rest : List Token) :
    (g.readPositionPrimary (parens ts ++ rest)).plain = .ok (q, rest) := by
  obtain ⟨d, hd⟩ := h.noExpression rest
  have noWord : (g.peek (parens ts ++ rest)).isWord "between" = false := rfl
  rw [Reader.plain_readPositionPrimary, noWord, if_neg Bool.false_ne_true, hd]
  exact h.group rest

theorem position (h : ReadsPosition g ts q) {rest : List Token}
    (hrest : (g.peek rest).kind.goesOn = false) :
    (g.readPosition (parens ts ++ rest)).plain = .ok (q, rest) := by
  rw [Reader.plain_readPosition, h.primary, ok_bind, Reader.plain_readOffsets_stop hrest]

theorem before (h : ReadsPosition g ts q) {t : Token} (ht : t.kind.goesOn = false)
    (rest : List Token) : (g.readPosition (parens ts ++ t :: rest)).plain = .ok (q, t :: rest) :=
  h.position ht

/-! ### Positions that are no numbers -/

theorem noNumber_of_expression
    (h : ∀ rest e left, (g.readExpression (ts ++ .rparen :: rest)).plain = .ok (e, left) →
      ∃ t more, left = t :: more ∧ t.kind ≠ .rparen) (rest : List Token) :
    ∃ d, (g.readPrimary (parens ts ++ rest)).plain = .error d := by
  rw [parens_append, Reader.plain_readPrimary_cons]
  dsimp only
  cases he : (g.readExpression (ts ++ .rparen :: rest)).plain with
  | error d => exact ⟨d, rfl⟩
  | ok p =>
    obtain ⟨t, more, hleft, ht⟩ := h rest p.1 p.2 he
    rw [ok_bind, hleft, Reader.readMark, Reader.plain_readToken_cons, if_neg (by simp [ht])]
    exact ⟨_, rfl⟩

/-- A number in parentheses, with a token after it that neither goes on with it nor closes another
parenthesis. -/
theorem noNumber_of_scalar (hd : ReadsScalar g ds d) {t : Token} (ht : t.kind.goesOn = false)
    (hclose : t.kind ≠ .rparen) :
    ∀ rest, ∃ e, (g.readPrimary (parens (parens ds ++ t :: us) ++ rest)).plain = .error e := by
  refine noNumber_of_expression fun rest e left he => ?_
  rw [List.append_assoc, List.cons_append, hd.before ht] at he
  cases he
  exact ⟨t, _, rfl, hclose⟩

/-- A position in parentheses, whatever comes after it. -/
theorem noNumber_of_position (hb : ReadsPosition g bs b) :
    ∀ rest, ∃ e, (g.readPrimary (parens (parens bs ++ us) ++ rest)).plain = .error e := by
  refine noNumber_of_expression fun rest e left he => ?_
  obtain ⟨d, hd⟩ := hb.noExpression (us ++ .rparen :: rest)
  rw [List.append_assoc, hd] at he
  cases he

/-! ### Positions in parentheses -/

theorem of_bare (read : ∀ rest, (g.readPosition (ts ++ .rparen :: rest)).plain =
      .ok (q, .rparen :: rest))
    (noNumber : ∀ rest, ∃ d, (g.readPrimary (parens ts ++ rest)).plain = .error d) :
    ReadsPosition g ts q where
  group rest := by
    rw [parens_append, Reader.plain_readGroupOrPlace_cons, if_pos rfl, read, ok_bind]
    rfl
  noNumber := noNumber

/-- A number in parentheses, and what makes a position of it. -/
theorem of_scalar (hd : ReadsScalar g ds d) {t : Token} (ht : t.kind.goesOn = false)
    (hclose : t.kind ≠ .rparen)
    (after : ∀ rest, Reading.plain? (g.readAfterScalar .first d (t :: (us ++ .rparen :: rest))) =
      .ok (some (q, .rparen :: rest))) :
    ReadsPosition g (parens ds ++ t :: us) q := by
  refine of_bare (fun rest => ?_) (noNumber_of_scalar hd ht hclose)
  have noWord : (g.peek (parens ds ++ t :: (us ++ .rparen :: rest))).isWord "between" = false := rfl
  rw [List.append_assoc, List.cons_append, Reader.plain_readPosition,
    Reader.plain_readPositionPrimary, noWord, if_neg Bool.false_ne_true, hd.before ht]
  have first : (g.peek (parens ds ++ t :: (us ++ .rparen :: rest))).pos = .first := rfl
  dsimp only
  rw [first, after, ok_bind, ok_bind, Reader.plain_readOffsets_stop rfl]

theorem pair {x y : Scalar} (hx : ReadsScalar g ts x) (hy : ReadsScalar g us y) :
    ReadsPosition g (parens ts ++ .comma :: parens us) (.pair .first x y) :=
  of_scalar hx rfl (by simp [Token.comma]) fun rest => by
    rw [Reader.plain?_readAfterScalar_cons]
    dsimp only [Token.comma]
    rw [hy.before rfl, ok_bind]

theorem relative (side : Compass) (hd : ReadsScalar g ds d) (hb : ReadsPosition g bs b) :
    ReadsPosition g (parens ds ++ .ofWord side.name :: .ofWord "of" :: parens bs)
      (.relative .first d side b) :=
  of_scalar hd rfl (by simp [Token.ofWord]) fun rest => by
    have noFraction : side.name ≠ "of" := by cases side <;> decide
    have found : Reader.relativeSide? (Token.ofWord side.name).text = some side := by
      cases side <;> rfl
    rw [Reader.plain?_readAfterScalar_cons, show (Token.ofWord side.name).kind = .word from rfl]
    dsimp only
    rw [if_neg fun h => noFraction h.1, found]
    dsimp only
    rw [List.cons_append, Reader.skipWord, if_pos (Token.isWord_ofWord "of"), hb.before rfl,
      ok_bind]

theorem heading {angle : Scalar} (hd : ReadsScalar g ds d) (ha : ReadsScalar g us angle)
    (hb : ReadsPosition g bs b) :
    ReadsPosition g (parens ds ++ .ofWord "heading" :: parens us ++ .ofWord "from" :: parens bs)
      (.heading .first d angle b) := by
  rw [List.append_assoc, List.cons_append]
  refine of_scalar hd rfl (by simp [Token.ofWord]) fun rest => ?_
  have noSide : Reader.relativeSide? (Token.ofWord "heading").text = none := rfl
  rw [Reader.plain?_readAfterScalar_cons, show (Token.ofWord "heading").kind = .word from rfl]
  dsimp only
  rw [if_neg (by simp [Token.ofWord]), noSide]
  dsimp only
  rw [if_pos (show (Token.ofWord "heading").text = "heading" from rfl), List.append_assoc,
    List.cons_append, ha.before rfl, ok_bind,
    Reader.plain_readWord_cons _ (Token.isWord_ofWord "from"), ok_bind, hb.before rfl, ok_bind]

theorem fraction (hd : ReadsScalar g ds d) (hb : ReadsPosition g bs b) (hc : ReadsPosition g cs c) :
    ReadsPosition g (parens ds ++ ⟨.less, "<", .first⟩ :: parens bs ++ .comma :: parens cs ++
      [⟨.greater, ">", .first⟩]) (.between .first (some d) b c) := by
  rw [List.append_assoc, List.append_assoc, List.cons_append]
  refine of_scalar hd rfl (by simp) fun rest => ?_
  rw [Reader.plain?_readAfterScalar_cons]
  dsimp only
  rw [List.append_assoc, List.cons_append, List.cons_append, List.append_assoc, hb.before rfl,
    ok_bind, g.plain_readMark_cons .comma rfl, ok_bind, List.singleton_append, hc.before rfl,
    ok_bind, g.plain_readMark_cons .greater rfl, ok_bind]

/-- Between two points, with nothing said of where, stands on its own word. -/
theorem between (hb : ReadsPosition g bs b) (hc : ReadsPosition g cs c) :
    ReadsPosition g (.ofWord "between" :: parens bs ++ .ofWord "and" :: parens cs)
      (.between .first none b c) := by
  refine of_bare (fun rest => ?_) (noNumber_of_expression fun rest e left he => ?_)
  · have word : (g.peek (.ofWord "between" :: parens bs ++ .ofWord "and" :: parens cs ++
        .rparen :: rest)).isWord "between" = true := rfl
    rw [Reader.plain_readPosition, Reader.plain_readPositionPrimary, word, if_pos rfl,
      List.append_assoc, List.cons_append, Reader.plain_readWord_cons _ (Token.isWord_ofWord _),
      ok_bind, Reader.plain_readEnds, List.cons_append, hb.before rfl, ok_bind,
      Reader.plain_readWord_cons _ (Token.isWord_ofWord _), ok_bind, hc.before rfl, ok_bind,
      ok_bind, ok_bind, Reader.plain_readOffsets_stop rfl]
    rfl
  · have noCall : isFunctionName "between" = false := by decide
    have keyword : isKeyword "between" = true := by decide
    rw [List.append_assoc, List.cons_append, Reader.plain_readExpression, Reader.plain_readTerm,
      Reader.plain_readSigned_cons] at he
    dsimp only [Token.ofWord] at he
    rw [Reader.plain_readPrimary_cons] at he
    dsimp only at he
    rw [noCall, keyword, if_neg (by simp), if_neg (by simp), if_neg (by simp)] at he
    cases he

theorem offset {dx dy : Scalar} (hb : ReadsPosition g bs b) (hx : ReadsScalar g ts dx)
    (hy : ReadsScalar g us dy) (backward : Bool) :
    ReadsPosition g (parens bs ++ (if backward then BinaryOp.sub else .add).token ::
      parens (parens ts ++ .comma :: parens us)) (.offset .first b dx dy backward) := by
  refine of_bare (fun rest => ?_) (noNumber_of_position hb)
  have vector : (g.readOffsetPair (parens (parens ts ++ .comma :: parens us) ++
      .rparen :: rest)).plain = .ok ((dx, dy), .rparen :: rest) := by
    rw [parens_append, Reader.plain_readOffsetPair_cons, if_pos rfl, List.append_assoc,
      List.cons_append, hx.before rfl, ok_bind, g.plain_readMark_cons .comma rfl, ok_bind,
      hy.before rfl, ok_bind, g.plain_readMark_cons .rparen rfl, ok_bind]
  have sign : (if backward then BinaryOp.sub else .add).token.kind = .plus ∨
      (if backward then BinaryOp.sub else .add).token.kind = .minus := by
    cases backward <;> simp [BinaryOp.token]
  rw [List.append_assoc, List.cons_append, Reader.plain_readPosition, hb.primary, ok_bind,
    Reader.plain_readOffsets_cons, if_pos sign, vector]
  dsimp only
  rw [Reader.plain_readOffsets_stop rfl]
  cases backward <;> rfl

/-- One coordinate of each of two points: only the parentheses around both make a position of
them. -/
theorem mix (hb : ReadsPosition g bs b) (hc : ReadsPosition g cs c) :
    ReadsPosition g (parens bs ++ .comma :: parens cs) (.mix .first b c) where
  group rest := by
    rw [parens_append, Reader.plain_readGroupOrPlace_cons, if_pos rfl, List.append_assoc,
      List.cons_append, hb.before rfl, ok_bind]
    dsimp only [Token.comma]
    rw [hc.before rfl, ok_bind, g.plain_readMark_cons .rparen rfl, ok_bind]
  noNumber := noNumber_of_position hb

/-- A place is no number: nothing that its parentheses hold is a coordinate of it. -/
theorem place (hq : q.IsPlace) (h : q.IsReadable)
    (labels : ∀ l ∈ q.labels, g.colors.knows l = false) :
    ReadsPosition g q.tokens (q.mapPos nowhere) := by
  have ends : ∀ rest, EndsRef (.rparen :: rest) := fun rest =>
    ⟨fun d l more heq => by cases heq; simp [Token.rparen], fun t ht => by cases ht; rfl⟩
  have read : ∀ rest, (g.readPlace (q.tokens ++ .rparen :: rest)).plain =
      .ok (q.mapPos nowhere, .rparen :: rest) := fun rest =>
    Reader.readPlace_tokens hq h (ends rest) (by rintro t ⟨⟩ a; simp [Token.rparen])
  have noNumber : ∀ rest, ∃ d,
      (g.readExpression (q.tokens ++ .rparen :: rest)).plain = .error d := by
    intro rest
    rw [Reader.plain_readExpression, Reader.plain_readTerm, ReadsScalar.signed_place hq labels,
      Reader.plain_readPlaceScalar, read, ok_bind]
    cases rest with
    | nil => exact ⟨_, rfl⟩
    | cons t rest =>
      dsimp only
      rw [if_neg (by simp [Token.rparen])]
      exact ⟨_, rfl⟩
  refine of_bare (fun rest => ?_) (noNumber_of_expression fun rest e left he => ?_)
  · obtain ⟨t, more, htokens, -, hkind, hword⟩ := Position.tokens_eq_cons hq
    have noWord : (g.peek (q.tokens ++ .rparen :: rest)).isWord "between" = false := by
      rw [htokens]
      exact hword
    have noGroup : (g.readGroupOrPlace (q.tokens ++ .rparen :: rest)).plain =
        (g.readPlace (q.tokens ++ .rparen :: rest)).plain := by
      rw [htokens, List.cons_append, Reader.plain_readGroupOrPlace_cons, if_neg hkind]
    obtain ⟨d, hd⟩ := noNumber rest
    rw [Reader.plain_readPosition, Reader.plain_readPositionPrimary, noWord,
      if_neg Bool.false_ne_true, hd]
    dsimp only
    rw [noGroup, read, ok_bind, Reader.plain_readOffsets_stop rfl]
  · obtain ⟨d, hd⟩ := noNumber rest
    rw [hd] at he
    cases he

/-- Arguments are read up to the parenthesis after them. -/
theorem readPositionArgs {tss : List (List Token)} {qs : List Position}
    (h : List.Forall₂ (ReadsPosition g) (ts :: tss) qs) (rest : List Token) :
    (g.readPositionArgs (separated (ts :: tss) ++ .rparen :: rest)).plain = .ok (qs, rest) := by
  induction tss generalizing ts qs with
  | nil =>
    cases h with
    | cons hq hnil =>
      cases hnil
      rw [separated, Reader.plain_readPositionArgs, hq.before rfl, ok_bind]
      rfl
  | cons us tss ih =>
    cases h with
    | cons hq hqs =>
      rw [separated, List.append_assoc, List.cons_append, Reader.plain_readPositionArgs,
        hq.before rfl, ok_bind]
      dsimp only [Token.comma]
      rw [ih hqs, ok_bind]

end ReadsPosition

theorem ReadsScalar.dist {tss : List (List Token)} {qs : List Position}
    (h : List.Forall₂ (ReadsPosition g) tss qs) :
    ReadsScalar g (.ofWord distanceName :: parens (separated tss)) (.dist .first qs) := by
  intro rest hrest
  have noFunction : ScalarFunction.ofName? (Token.ofWord distanceName).text = none := by decide
  refine Reader.plain_readExpression_of_signed ?_ hrest
  rw [List.cons_append, parens_append, signed_call (by decide), Reader.plain_readCall,
    g.plain_readMark_cons .lparen rfl, ok_bind, noFunction]
  dsimp only
  cases tss with
  | nil =>
    cases h
    rfl
  | cons ts tss =>
    rw [if_neg (peek_separated _), ReadsPosition.readPositionArgs h, ok_bind]
    rfl

/-! ## Whole trees -/

mutual

/-- The tokens of an expression are read as the expression. -/
theorem Scalar.reads_tokens {e : Scalar} (h : e.IsReadable)
    (labels : ∀ l ∈ e.labels, g.colors.knows l = false) :
    ReadsScalar g e.tokens (e.mapPos nowhere) := by
  match e with
  | .number _ value unit =>
    rw [Scalar.tokens, Scalar.mapPos]
    exact .number value unit
  | .percent _ value =>
    rw [Scalar.tokens, Scalar.mapPos]
    exact .percent value
  | .var _ name =>
    rw [Scalar.tokens, Scalar.mapPos]
    exact .var name
  | .color _ name =>
    rw [Scalar.tokens, Scalar.mapPos]
    exact .color name
  | .neg _ a =>
    rw [Scalar.IsReadable] at h
    rw [Scalar.labels] at labels
    rw [Scalar.tokens, Scalar.mapPos]
    exact .neg (Scalar.reads_tokens h labels)
  | .binary _ op a b =>
    rw [Scalar.IsReadable] at h
    rw [Scalar.labels, List.forall_mem_append] at labels
    rw [Scalar.tokens, Scalar.mapPos]
    exact .binary op (Scalar.reads_tokens h.1 labels.1) (Scalar.reads_tokens h.2 labels.2)
  | .call _ function args =>
    rw [Scalar.IsReadable] at h
    rw [Scalar.labels] at labels
    rw [Scalar.tokens, Scalar.mapPos]
    exact .call function (scalars_read_tokens h labels)
  | .dist _ args =>
    rw [Scalar.IsReadable] at h
    rw [Scalar.labels] at labels
    rw [Scalar.tokens, Scalar.mapPos]
    exact .dist (positions_read_tokens h labels)
  | .coordinate _ q axis =>
    rw [Scalar.IsReadable] at h
    rw [Scalar.labels] at labels
    rw [Scalar.tokens, Scalar.mapPos]
    exact .coordinate h.1 h.2 labels axis
  | .property _ ref what =>
    rw [Scalar.IsReadable] at h
    rw [Scalar.labels] at labels
    rw [Scalar.tokens, Scalar.mapPos]
    exact .property h labels what

theorem scalars_read_tokens {es : List Scalar} (h : ScalarsReadable es)
    (labels : ∀ l ∈ scalarLabels es, g.colors.knows l = false) :
    List.Forall₂ (ReadsScalar g) (scalarTokens es) (scalarsMapPos nowhere es) := by
  match es with
  | [] =>
    rw [scalarTokens, scalarsMapPos]
    exact .nil
  | e :: es =>
    rw [ScalarsReadable] at h
    rw [scalarLabels, List.forall_mem_append] at labels
    rw [scalarTokens, scalarsMapPos]
    exact .cons (Scalar.reads_tokens h.1 labels.1) (scalars_read_tokens h.2 labels.2)

theorem positions_read_tokens {qs : List Position} (h : PositionsReadable qs)
    (labels : ∀ l ∈ positionLabels qs, g.colors.knows l = false) :
    List.Forall₂ (ReadsPosition g) (positionTokens qs) (positionsMapPos nowhere qs) := by
  match qs with
  | [] =>
    rw [positionTokens, positionsMapPos]
    exact .nil
  | q :: qs =>
    rw [PositionsReadable] at h
    rw [positionLabels, List.forall_mem_append] at labels
    rw [positionTokens, positionsMapPos]
    exact .cons (Position.reads_tokens h.1 labels.1) (positions_read_tokens h.2 labels.2)

/-- The tokens of a position, in parentheses, are read as the position and as no number. -/
theorem Position.reads_tokens {q : Position} (h : q.IsReadable)
    (labels : ∀ l ∈ q.labels, g.colors.knows l = false) :
    ReadsPosition g q.tokens (q.mapPos nowhere) := by
  match q with
  | .object _ ref anchor => exact .place trivial h labels
  | .vertex _ n ref fromLast => exact .place trivial h labels
  | .pair _ x y =>
    rw [Position.IsReadable] at h
    rw [Position.labels, List.forall_mem_append] at labels
    rw [Position.tokens, Position.mapPos]
    exact .pair (Scalar.reads_tokens h.1 labels.1) (Scalar.reads_tokens h.2 labels.2)
  | .offset _ base dx dy backward =>
    rw [Position.IsReadable] at h
    rw [Position.labels, List.forall_mem_append, List.forall_mem_append] at labels
    rw [Position.tokens, Position.mapPos]
    exact .offset (Position.reads_tokens h.1 labels.1.1) (Scalar.reads_tokens h.2.1 labels.1.2)
      (Scalar.reads_tokens h.2.2 labels.2) backward
  | .mix _ a b =>
    rw [Position.IsReadable] at h
    rw [Position.labels, List.forall_mem_append] at labels
    rw [Position.tokens, Position.mapPos]
    exact .mix (Position.reads_tokens h.1 labels.1) (Position.reads_tokens h.2 labels.2)
  | .relative _ distance side base =>
    rw [Position.IsReadable] at h
    rw [Position.labels, List.forall_mem_append] at labels
    rw [Position.tokens, Position.mapPos]
    exact .relative side (Scalar.reads_tokens h.1 labels.1) (Position.reads_tokens h.2 labels.2)
  | .heading _ distance angle base =>
    rw [Position.IsReadable] at h
    rw [Position.labels, List.forall_mem_append, List.forall_mem_append] at labels
    rw [Position.tokens, Position.mapPos]
    exact .heading (Scalar.reads_tokens h.1 labels.1.1) (Scalar.reads_tokens h.2.1 labels.1.2)
      (Position.reads_tokens h.2.2 labels.2)
  | .between _ none a b =>
    rw [Position.IsReadable] at h
    rw [Position.labels, List.forall_mem_append] at labels
    rw [Position.tokens, Position.mapPos]
    exact .between (Position.reads_tokens h.1 labels.1) (Position.reads_tokens h.2 labels.2)
  | .between _ (some fraction) a b =>
    rw [Position.IsReadable] at h
    rw [Position.labels, List.forall_mem_append, List.forall_mem_append] at labels
    rw [Position.tokens, Position.mapPos]
    exact .fraction (Scalar.reads_tokens h.1 labels.1.1) (Position.reads_tokens h.2.1 labels.1.2)
      (Position.reads_tokens h.2.2 labels.2)

end

end DiagramScript
