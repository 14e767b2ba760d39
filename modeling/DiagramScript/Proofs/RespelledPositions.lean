import DiagramScript.Proofs.Respelling

/-!
# Positions under other spellings

A position that is read is read again, with other labels, when these are spelled anew; but only
where no label that becomes the name of a colour is taken for a number.  Such a label may still be
read as a number in vain: when nothing makes a position of it, the tokens are read again.

* `Follows` — where one computation succeeds, another gives what belongs to it.
* `Respelling.Loose` — tokens before which a position within another one may end.
* `Respelling.Passes` — tokens whose new spelling makes no position of a number if the old one does
  not.
* `Respelling.readExpression_carries`, `Respelling.readPosition_carries` — numbers and positions
  are read as before.
-/

namespace DiagramScript

variable {α β γ δ ε : Type}

/-! ## Readings that follow others -/

/-- Where one computation gives something with a property, the other gives what belongs to it. -/
def Follows (P : α → Prop) (R : α → β → Prop) (r : Except ε α) (r' : Except ε β) : Prop :=
  ∀ y, r = .ok y → P y → ∃ y', r' = .ok y' ∧ R y y'

namespace Follows

variable {P : α → Prop} {R : α → β → Prop} {r : Except ε α} {r' : Except ε β}

theorem error (e : ε) : Follows P R (.error e) r' := fun _ h => nomatch h

theorem ok {y : α} {y' : β} (h : R y y') : Follows P R (.ok y : Except ε α) (.ok y') := by
  rintro _ ⟨⟩ -
  exact ⟨y', rfl, h⟩

theorem of_together (h : Together R r r') : Follows P R r r' := by
  rintro y rfl -
  cases h with
  | ok h => exact ⟨_, rfl, h⟩

theorem bind {Q : γ → Prop} {S : γ → δ → Prop} {next : α → Except ε γ} {next' : β → Except ε δ}
    (h : Follows P R r r') (hp : ∀ y z, next y = .ok z → Q z → P y)
    (hn : ∀ y y', r = .ok y → R y y' → Follows Q S (next y) (next' y')) :
    Follows Q S (r >>= next) (r' >>= next') := by
  intro z hz hQ
  obtain ⟨y, hy, hnext⟩ := exists_of_bind_eq_ok hz
  obtain ⟨y', rfl, hR⟩ := h y hy (hp y z hnext hQ)
  exact hn y y' hy hR z hnext hQ

theorem ite {s : Except ε α} {s' : Except ε β} {c : Prop} [Decidable c]
    (hr : c → Follows P R r r') (hs : ¬ c → Follows P R s s') :
    Follows P R (if c then r else s) (if c then r' else s') := by
  by_cases h : c
  · rw [if_pos h, if_pos h]
    exact hr h
  · rw [if_neg h, if_neg h]
    exact hs h

end Follows

/-- Whether tokens that begin with a token of the kind may be apart from a position before them. -/
def TokenKind.mayDangle : TokenKind → Bool
  | dot | plus | minus => true
  | _ => false

namespace Respelling

variable (x : Respelling)

/-! ## What may follow a position -/

/-- Tokens that may follow a position within another one, or are not spelled anew. -/
def Loose (ts : List Token) : Prop := x.reader.dangles ts → x.tokens ts = ts

variable {x}

theorem loose_of_readOffsets {base : Position} {ts : List Token} {p : Position × List Token}
    (h : (x.reader.readOffsets base ts).plain = .ok p) (hp : x.Loose p.2) : x.Loose ts := by
  intro hd
  rw [x.reader.plain_readOffsets_of_dangles hd] at h
  cases h
  exact hp hd

theorem loose_cons {t : Token} {kind : TokenKind} (hk : t.kind = kind)
    (hd : kind.mayDangle = false) (ts : List Token) : x.Loose (t :: ts) := by
  rintro (h | ⟨h | h, -⟩)
  all_goals
    rw [← hk, h] at hd
    cases hd

theorem loose_of_readMark {kind : TokenKind} (hd : kind.mayDangle = false) {mark : String}
    {ts : List Token} {next : Token × List Token → Except _ β} {y : β}
    (h : (x.reader.readMark kind mark ts).plain >>= next = .ok y) : x.Loose ts := by
  obtain ⟨p, hr, -⟩ := exists_of_bind_eq_ok h
  cases ts with
  | nil => cases hr
  | cons t ts =>
    rw [Reader.readMark, Reader.plain_readToken_cons] at hr
    split_ifs at hr with ht
    exact loose_cons (of_decide_eq_true ht) hd ts

theorem loose_of_readWord {word : String} {ts : List Token}
    {next : Token × List Token → Except _ β} {y : β}
    (h : (x.reader.readWord word ts).plain >>= next = .ok y) : x.Loose ts := by
  obtain ⟨p, hr, -⟩ := exists_of_bind_eq_ok h
  cases ts with
  | nil => cases hr
  | cons t ts =>
    rw [Reader.readWord, Reader.plain_readToken_cons] at hr
    split_ifs at hr with ht
    exact loose_cons (Token.isWord_iff.1 ht).1 rfl ts

/-- Where only a comma or a closing parenthesis is accepted, no position goes on. -/
theorem loose_of_separated {ts : List Token} {d : Diagnostic} {z : β}
    {comma close : List Token → Except Diagnostic β} {other : Token → Diagnostic}
    (h : (match ts with
      | [] => Except.error d
      | t :: rest =>
        match t.kind with
        | .comma => comma rest
        | .rparen => close rest
        | _ => .error (other t)) = .ok z) : x.Loose ts := by
  cases ts with
  | nil => cases h
  | cons t rest =>
    dsimp only at h
    cases hk : t.kind <;> rw [hk] at h
    case comma => exact loose_cons hk rfl rest
    case rparen => exact loose_cons hk rfl rest
    all_goals cases h

/-! ## Numbers that labels become -/

namespace Ready

theorem settled_afterColor {ts after : List Token} (h : x.Ready false ts)
    (hc : x.afterColor? ts = some after) :
    x.reader.extendsNumber (x.tokens after) = false ∧ x.reader.makesPosition after = false := by
  cases ts with
  | nil => cases hc
  | cons t ts =>
    have := (Bool.and_eq_true _ _ ▸ h.settled).1
    rw [hc] at this
    simpa using this

end Ready

variable (x)

theorem makesPosition_tokens (ts : List Token) :
    x.reader.makesPosition (x.tokens ts) = x.reader.makesPosition ts := by
  cases ts with
  | nil => rfl
  | cons t ts =>
    rw [tokens_cons, Reader.makesPosition, Reader.makesPosition, token_kind, isWord_peek_tokens,
      isWord_peekSecond_tokens]
    cases hk : t.kind
    case word => rw [x.token_text_of_word hk]
    all_goals rfl

theorem namesColor_tokens (t : Token) (ts : List Token) :
    x.reader.namesColor t (x.reader.peek (x.tokens ts)) =
      x.reader.namesColor t (x.reader.peek ts) := by
  rw [Reader.namesColor, kind_peek_tokens]
  rfl

/-- Behind its signs and parentheses, the name of a colour is a number. -/
theorem readSigned_of_afterColor {ts after : List Token} (h : x.afterColor? ts = some after) :
    ∃ v, (x.reader.readSigned (x.tokens ts)).plain = .ok (v, x.tokens after) := by
  induction ts generalizing after with
  | nil => cases h
  | cons t ts ih =>
    rw [afterColor?] at h
    rw [tokens_cons]
    cases hk : t.kind <;> rw [hk] at h <;> dsimp only at h
    case label =>
      split_ifs at h with hc
      cases h
      rw [becomesColor, Bool.and_eq_true] at hc
      rw [Reader.plain_readSigned_label _ (by simp [hk]), namesColor_tokens, if_pos hc.2]
      exact ⟨_, rfl⟩
    case plus =>
      obtain ⟨v, hv⟩ := ih h
      rw [Reader.plain_readSigned_cons, token_kind, hk]
      exact ⟨v, hv⟩
    case minus =>
      obtain ⟨v, hv⟩ := ih h
      rw [Reader.plain_readSigned_cons, token_kind, hk]
      dsimp only
      rw [hv]
      exact ⟨_, rfl⟩
    case lparen =>
      split at h
      · rename_i u more hin
        split_ifs at h with hu
        cases h
        obtain ⟨v, hv⟩ := ih hin
        have close : (x.token u).kind = .rparen := by rw [token_kind, hu]
        have stops : (x.reader.peek (x.tokens (u :: after))).kind.goesOn = false := by
          rw [tokens_cons, Reader.peek_cons, close]
          rfl
        rw [Reader.plain_readSigned_parens _ (by simp [hk]),
          Reader.plain_readExpression_of_signed hv stops, ok_bind, tokens_cons,
          Reader.plain_readMark_cons _ _ close, ok_bind]
        exact ⟨v, rfl⟩
      · cases h
    all_goals cases h

/-- Nothing goes on with the number that a label has become. -/
theorem readExpression_of_afterColor {ts after : List Token} (ready : x.Ready false ts)
    (h : x.afterColor? ts = some after) :
    (∃ d, (x.reader.readExpression (x.tokens ts)).plain = .error d) ∨
      ∃ v, (x.reader.readExpression (x.tokens ts)).plain = .ok (v, x.tokens after) := by
  obtain ⟨v, hv⟩ := x.readSigned_of_afterColor h
  rw [Reader.plain_readExpression_operations, hv, ok_bind]
  exact (x.reader.plainOperations_of_not_extends (ready.settled_afterColor h).1 v).imp_right
    fun hok => ⟨v, hok⟩

/-! ## Labels that are read as numbers in vain -/

/-- Tokens with which a position begins, and which are no number in their new spelling, or one that
was there before, or one that is nothing but the name of a colour. -/
inductive Passes (ts : List Token) : Prop where
  /-- There is no number in the new spelling. -/
  | fails (d : Diagnostic) (h : (x.reader.readExpression (x.tokens ts)).plain = .error d)
  /-- The number is the name of a colour. -/
  | color (after : List Token) (h : x.afterColor? ts = some after)
  /-- There was a number before, and the same is left after it. -/
  | same (h : Together SameRest (x.reader.readExpression ts).plain
      (x.reader.readExpression (x.tokens ts)).plain)

variable {x}

namespace Passes

variable {t : Token} {ts : List Token}

theorem of_unchanged (h : x.tokens ts = ts) : x.Passes ts := by
  refine .same ?_
  rw [h]
  cases (x.reader.readExpression ts).plain with
  | error d => exact .error d d
  | ok p => exact .ok rfl

theorem of_signed_error {d : Diagnostic}
    (h : (x.reader.readSigned (x.tokens ts)).plain = .error d) : x.Passes ts :=
  .fails d (by rw [Reader.plain_readExpression_operations, h]; rfl)

/-- The number that is read is no position, if there was none before. -/
theorem rewinds (h : x.Passes ts) (ready : x.Ready false ts) (before : x.reader.Rewinds ts) :
    x.reader.Rewinds (x.tokens ts) := by
  cases h with
  | fails d h =>
    rw [Reader.Rewinds, h]
    exact .error d
  | color after h =>
    rw [Reader.Rewinds]
    rcases x.readExpression_of_afterColor ready h with ⟨d, hd⟩ | ⟨v, hv⟩
    · rw [hd]
      exact .error d
    · rw [hv]
      exact .ok (by rw [makesPosition_tokens, (ready.settled_afterColor h).2])
  | same h =>
    intro p hp
    obtain ⟨p₀, hp₀, hrest⟩ := h.exists_eq_ok hp
    rw [hrest]
    exact before p₀ hp₀

/-- What passes, or does not end before a closing parenthesis, passes also in parentheses. -/
theorem parens (ht : t.kind = .lparen) (ready : x.Ready false ts)
    (h : x.Passes ts ∨ Ensures (fun p => (x.reader.peek p.2).kind ≠ .rparen)
      (x.reader.readExpression (x.tokens ts)).plain) : x.Passes (t :: ts) := by
  have signed := x.reader.plain_readSigned_parens (x.token_kind t ▸ ht) (x.tokens ts)
  have unclosed {p : Scalar × List Token}
      (hp : (x.reader.readExpression (x.tokens ts)).plain = .ok p)
      (hk : (x.reader.peek p.2).kind ≠ .rparen) : x.Passes (t :: ts) := by
    obtain ⟨d, hd⟩ := x.reader.readMark_fails hk ")"
    rw [hp, ok_bind, hd] at signed
    exact .of_signed_error signed
  rcases h with (⟨d, h⟩ | ⟨after, h⟩ | h) | h
  · rw [h] at signed
    exact .of_signed_error signed
  · -- the name of a colour stays one in parentheses, if these are closed right behind it
    rcases x.readExpression_of_afterColor ready h with ⟨d, hd⟩ | ⟨v, inner⟩
    · rw [hd] at signed
      exact .of_signed_error signed
    · cases after with
      | nil =>
        rw [inner, ok_bind] at signed
        exact .of_signed_error signed
      | cons u more =>
        by_cases hu : u.kind = .rparen
        · refine .color more ?_
          rw [afterColor?, ht]
          dsimp only
          rw [h]
          exact if_pos hu
        · exact unclosed inner (by rwa [kind_peek_tokens])
  · -- the same is left after the parentheses, so the same operations follow
    refine .same (x.reader.readExpression_sameRest ?_)
    rw [x.reader.plain_readSigned_parens ht, tokens_cons, signed]
    refine h.bind ?_
    rintro ⟨inner, rest⟩ ⟨inner', rest'⟩ - hrest
    cases hrest
    dsimp only
    cases (x.reader.readMark .rparen ")" rest).plain with
    | error d => exact .error d d
    | ok close => exact .ok rfl
  · cases hr : (x.reader.readExpression (x.tokens ts)).plain with
    | error d =>
      rw [hr] at signed
      exact .of_signed_error signed
    | ok p => exact unclosed hr (h p hr)

/-- What begins as a measure of an object passes if the object is a position. -/
theorem of_placeScalar (ready : x.Ready false ts)
    (before : (x.reader.readSigned ts).plain = (x.reader.readPlaceScalar ts).plain)
    (after : (x.reader.readSigned (x.tokens ts)).plain =
      (x.reader.readPlaceScalar (x.tokens ts)).plain)
    {p : Position × List Token} (hp : (x.reader.readPlace ts).plain = .ok p)
    (loose : x.Loose p.2) : x.Passes ts := by
  have measure := x.readPlaceScalar_together ready
  cases hs : (x.reader.readPlaceScalar ts).plain with
  | error d =>
    rw [hs] at measure
    generalize hs' : (x.reader.readPlaceScalar (x.tokens ts)).plain = r' at measure after
    cases measure with
    | error d d' => exact .of_signed_error after
  | ok s =>
    obtain ⟨d, w, hrest, hd⟩ := x.reader.readPlaceScalar_rest hp hs
    have unchanged := loose (by rw [hrest]; exact .inl hd)
    rw [hrest, tokens_cons, tokens_cons] at unchanged
    rw [hs] at measure
    refine .same (x.reader.readExpression_sameRest ?_)
    rw [before, after, hs]
    generalize (x.reader.readPlaceScalar (x.tokens ts)).plain = r' at measure
    cases measure with
    | ok h =>
      rw [h.1]
      exact .ok (List.cons.inj (List.cons.inj unchanged).2).2

/-- Tokens that begin a position that is named by an object pass. -/
theorem of_place (ready : x.Ready false (t :: ts)) {p : Position × List Token}
    (hp : (x.reader.readPlace (t :: ts)).plain = .ok p) (loose : x.Loose p.2) :
    x.Passes (t :: ts) := by
  rcases x.reader.readPlace_begins hp with ht | ⟨a, ha⟩ | ht | ht | ⟨n, ht⟩
  · by_cases known : x.reader.colors.knows t.text = true
    · exact .of_unchanged (ready.unchanged ht known)
    have before := x.reader.plain_readSigned_label ht ts
    have notColor : x.reader.namesColor t (x.reader.peek ts) = false := by
      rw [Reader.namesColor]
      split
      · rfl
      · rfl
      · exact eq_false_of_ne_true known
    rw [notColor, if_neg (by simp)] at before
    have after := x.reader.plain_readSigned_label (x.token_kind t ▸ ht) (x.tokens ts)
    rw [namesColor_tokens] at after
    by_cases becomes : x.reader.namesColor (x.token t) (x.reader.peek ts) = true
    · refine .color ts ?_
      rw [afterColor?, ht]
      exact if_pos (by rw [becomesColor, notColor, becomes]; rfl)
    · rw [if_neg becomes] at after
      exact .of_placeScalar ready before after hp loose
  · obtain ⟨d, hd⟩ := x.reader.readSigned_of_anchor (x.anchorOf?_token t ▸ ha) (x.tokens ts)
    exact .of_signed_error hd
  · exact .of_placeScalar ready (x.reader.plain_readSigned_of_isWord (.inl rfl) ht ts)
      (x.reader.plain_readSigned_of_isWord (.inl rfl) (x.token_isWord t _ ▸ ht) _) hp loose
  · exact .of_placeScalar ready (x.reader.plain_readSigned_of_isWord (.inr rfl) ht ts)
      (x.reader.plain_readSigned_of_isWord (.inr rfl) (x.token_isWord t _ ▸ ht) _) hp loose
  · exact .of_placeScalar ready (x.reader.plain_readSigned_nth ht ts)
      (x.reader.plain_readSigned_nth (x.token_kind t ▸ ht) _) hp loose

end Passes

/-! ## Numbers and positions -/

variable (x)

/-- Where one reading succeeds, the other gives the same with other labels. -/
def Carries (k : α → α) (r r' : Except Diagnostic (α × List Token)) : Prop :=
  Follows (fun _ => True) (x.Same k) r r'

/-- The same where what is left may follow a position. -/
def CarriesLoose (k : α → α) (r r' : Except Diagnostic (α × List Token)) : Prop :=
  Follows (fun p => x.Loose p.2) (x.Same k) r r'

/-- The same for a reading that may read nothing. -/
def CarriesLoose? (k : α → α) (r r' : Except Diagnostic (Option (α × List Token))) : Prop :=
  Follows (fun q => ∀ p, q = some p → x.Loose p.2) (Option.Rel (x.Same k)) r r'

variable {x}

section

variable {k : α → α} {n : Nat} {r : Reading α n} {r' : Except Diagnostic (α × List Token)}
  {Q : γ → Prop} {S : γ → δ → Prop} {next : α × List Token → Except Diagnostic γ}
  {next' : α × List Token → Except Diagnostic δ}

/-- What is read after a number is read from fewer tokens, which are ready. -/
theorem Carries.andThen (h : x.Carries k r.plain r')
    (hn : ∀ v rest, rest.length < n → x.Ready false rest →
      Follows Q S (next (v, rest)) (next' (k v, x.tokens rest))) :
    Follows Q S (r.plain >>= next) (r' >>= next') := by
  refine h.bind (fun _ _ _ _ => trivial) ?_
  rintro ⟨v, rest⟩ _ hr ⟨rfl, ready⟩
  exact hn v rest (Reading.length_lt_of_plain hr) ready

/-- The same after a position, if what follows it cannot follow one by itself. -/
theorem CarriesLoose.andThen (h : x.CarriesLoose k r.plain r')
    (hp : ∀ v rest z, next (v, rest) = .ok z → Q z → x.Loose rest)
    (hn : ∀ v rest, rest.length < n → x.Ready false rest →
      Follows Q S (next (v, rest)) (next' (k v, x.tokens rest))) :
    Follows Q S (r.plain >>= next) (r' >>= next') := by
  refine h.bind (fun p z => hp p.1 p.2 z) ?_
  rintro ⟨v, rest⟩ _ hr ⟨rfl, ready⟩
  exact hn v rest (Reading.length_lt_of_plain hr) ready

theorem carries_of_together (h : Together (x.Same k) r.plain r') : x.Carries k r.plain r' :=
  .of_together h

end

theorem Ready.drop_one {ts : List Token} (h : x.Ready false ts) {kind : TokenKind}
    (hk : (x.reader.peek ts).kind = kind) (ho : kind.mayOpenReference = false) :
    x.Ready false (ts.drop 1) := by
  cases ts with
  | nil => exact .nil
  | cons t ts => exact h.tail hk ho

theorem Ready.drop_isWord {ts : List Token} (h : x.Ready false ts) {word : String}
    (hw : (x.reader.peek ts).isWord word = true) (hne : word ≠ "in") :
    x.Ready false (ts.drop 1) := by
  cases ts with
  | nil => exact .nil
  | cons t ts => exact h.tail_isWord hw hne

theorem Ready.skipWord {ts : List Token} (h : x.Ready false ts) {word : String}
    (hne : word ≠ "in") : x.Ready false (Reader.skipWord word ts) := by
  cases ts with
  | nil => exact .nil
  | cons t ts =>
    rw [Reader.skipWord]
    split_ifs with hw
    · exact h.tail_isWord hw hne
    · exact h

variable (x)

/-- A label that a number begins with is read as before. -/
theorem readPrimary_label {t : Token} (ht : t.kind = .label) {ts : List Token}
    (h : x.Ready false (t :: ts)) :
    x.Carries (Scalar.respell x.spell) (x.reader.readPrimary (t :: ts)).plain
      (x.reader.readPrimary (x.tokens (t :: ts))).plain := by
  by_cases hc : x.reader.namesColor t (x.reader.peek ts) = true
  · have known : x.reader.colors.knows t.text = true := by
      rw [Reader.namesColor] at hc
      split at hc
      · cases hc
      · cases hc
      · exact hc
    have unchanged := h.unchanged ht known
    have rest : x.tokens ts = ts := (List.cons.inj unchanged).2
    rw [unchanged, Reader.plain_readPrimary_cons, ht]
    dsimp only
    rw [if_pos hc]
    exact .ok ⟨by rw [carry, rest]; rfl, h.tail ht rfl⟩
  · rw [tokens_cons, Reader.plain_readPrimary_cons, Reader.plain_readPrimary_cons, token_kind, ht]
    dsimp only
    rw [if_neg hc, namesColor_tokens]
    intro s hs _
    rw [if_neg (by rw [x.reader.namesColor_eq_false_of_placeScalar ht hs]; simp)]
    exact Follows.of_together (P := fun _ => True) (x.readPlaceScalar_together h) s hs trivial

mutual

/-- Numbers are read as before. -/
theorem readExpression_carries (ts : List Token) (h : x.Ready false ts) :
    x.Carries (Scalar.respell x.spell) (x.reader.readExpression ts).plain
      (x.reader.readExpression (x.tokens ts)).plain := by
  rw [Reader.plain_readExpression, Reader.plain_readExpression]
  exact (readTerm_carries ts h).andThen fun left rest hlt ready => readSums_carries left rest ready
termination_by 16 * ts.length + 4

theorem readSums_carries (left : Scalar) (ts : List Token) (h : x.Ready false ts) :
    x.Carries (Scalar.respell x.spell) (x.reader.readSums left ts).plain
      (x.reader.readSums (left.respell x.spell) (x.tokens ts)).plain := by
  match ts, h with
  | [], h =>
    rw [tokens_nil, Reader.plain_readSums_nil, Reader.plain_readSums_nil]
    exact .ok ⟨rfl, h⟩
  | t :: ts, h =>
    rw [tokens_cons, Reader.plain_readSums_cons, Reader.plain_readSums_cons, token_kind, token_pos]
    cases hk : t.kind
    case plus =>
      exact (readTerm_carries ts (h.tail hk rfl)).andThen
        fun right rest hlt ready => readSums_carries (.binary t.pos .add left right) rest ready
    case minus =>
      exact (readTerm_carries ts (h.tail hk rfl)).andThen
        fun right rest hlt ready => readSums_carries (.binary t.pos .sub left right) rest ready
    all_goals exact .ok ⟨rfl, h⟩
termination_by 16 * ts.length
decreasing_by
  all_goals
    simp only [List.length_cons]
    omega

theorem readTerm_carries (ts : List Token) (h : x.Ready false ts) :
    x.Carries (Scalar.respell x.spell) (x.reader.readTerm ts).plain
      (x.reader.readTerm (x.tokens ts)).plain := by
  rw [Reader.plain_readTerm, Reader.plain_readTerm]
  exact (readSigned_carries ts h).andThen fun left rest hlt ready =>
    readFactors_carries left rest ready
termination_by 16 * ts.length + 3

theorem readFactors_carries (left : Scalar) (ts : List Token) (h : x.Ready false ts) :
    x.Carries (Scalar.respell x.spell) (x.reader.readFactors left ts).plain
      (x.reader.readFactors (left.respell x.spell) (x.tokens ts)).plain := by
  match ts, h with
  | [], h =>
    rw [tokens_nil, Reader.plain_readFactors_nil, Reader.plain_readFactors_nil]
    exact .ok ⟨rfl, h⟩
  | t :: ts, h =>
    rw [tokens_cons, Reader.plain_readFactors_cons, Reader.plain_readFactors_cons, token_kind,
      token_pos]
    cases hk : t.kind
    case star =>
      exact (readSigned_carries ts (h.tail hk rfl)).andThen
        fun right rest hlt ready => readFactors_carries (.binary t.pos .mul left right) rest ready
    case slash =>
      exact (readSigned_carries ts (h.tail hk rfl)).andThen
        fun right rest hlt ready => readFactors_carries (.binary t.pos .div left right) rest ready
    all_goals exact .ok ⟨rfl, h⟩
termination_by 16 * ts.length
decreasing_by
  all_goals
    simp only [List.length_cons]
    omega

theorem readSigned_carries (ts : List Token) (h : x.Ready false ts) :
    x.Carries (Scalar.respell x.spell) (x.reader.readSigned ts).plain
      (x.reader.readSigned (x.tokens ts)).plain := by
  match ts, h with
  | [], h =>
    rw [tokens_nil, Reader.plain_readSigned_nil]
    exact .error _
  | t :: ts, h =>
    have primary := readPrimary_carries (t :: ts) h
    rw [tokens_cons] at primary ⊢
    rw [Reader.plain_readSigned_cons, Reader.plain_readSigned_cons, token_kind, token_pos]
    cases hk : t.kind
    case minus =>
      exact (readSigned_carries ts (h.tail hk rfl)).andThen
        fun operand rest hlt ready => .ok ⟨rfl, ready⟩
    case plus => exact readSigned_carries ts (h.tail hk rfl)
    all_goals exact primary
termination_by 16 * ts.length + 2
decreasing_by
  all_goals
    simp only [List.length_cons]
    omega

theorem readPrimary_carries (ts : List Token) (h : x.Ready false ts) :
    x.Carries (Scalar.respell x.spell) (x.reader.readPrimary ts).plain
      (x.reader.readPrimary (x.tokens ts)).plain := by
  match ts, h with
  | [], h =>
    rw [tokens_nil, Reader.plain_readPrimary_nil]
    exact .error _
  | t :: ts, h =>
    have place := carries_of_together (x.readPlaceScalar_together h)
    by_cases hl : t.kind = .label
    · exact x.readPrimary_label hl h
    have call := readCall_carries t ts
    rw [tokens_cons, x.token_of_ne_label hl] at place ⊢
    rw [Reader.plain_readPrimary_cons, Reader.plain_readPrimary_cons]
    cases hk : t.kind
    case label => exact absurd hk hl
    case number v u => exact .ok ⟨rfl, h.tail hk rfl⟩
    case percent v => exact .ok ⟨rfl, h.tail hk rfl⟩
    case sigil => exact .ok ⟨rfl, h.tail hk rfl⟩
    case color name => exact .ok ⟨rfl, h.tail hk rfl⟩
    case lparen =>
      have rest := h.tail hk rfl
      refine (readExpression_carries ts rest).andThen fun inner rest hlt ready => ?_
      refine (carries_of_together (x.readMark_together rfl ready)).andThen ?_
      exact fun close rest hlt ready => .ok ⟨rfl, ready⟩
    case nth n => exact place
    case word =>
      rw [kind_peek_tokens]
      refine .ite (fun hf => call (h.tail_word hk fun hin => ?_)) fun _ => .ite (fun hv => ?_)
        fun _ => .ite (fun _ => place) fun _ => .error _
      · exact absurd (hin ▸ hf.1) (by decide)
      · refine .ok ⟨rfl, h.tail_word hk fun hin => ?_⟩
        exact absurd (hin ▸ hv) (by decide)
    all_goals exact .error _
termination_by 16 * ts.length + 1
decreasing_by
  all_goals
    simp only [List.length_cons]
    omega

theorem readCall_carries (name : Token) (ts : List Token) (h : x.Ready false ts) :
    x.Carries (Scalar.respell x.spell) (x.reader.readCall name ts).plain
      (x.reader.readCall name (x.tokens ts)).plain := by
  rw [Reader.plain_readCall, Reader.plain_readCall]
  refine (carries_of_together (x.readMark_together rfl h)).andThen
    fun start rest hlt ready => ?_
  rw [kind_peek_tokens, tokens_drop]
  cases ScalarFunction.ofName? name.text with
  | some function =>
    refine .ite (fun hk => .ok ⟨rfl, ready.drop_one hk rfl⟩) fun _ => ?_
    refine (readScalarArgs_carries rest ready).andThen fun args rest hlt ready => .ok ⟨?_, ready⟩
    exact congrArg (·, x.tokens rest) (Scalar.respell_call x.spell name.pos function args).symm
  | none =>
    refine .ite (fun hk => .ok ⟨rfl, ready.drop_one hk rfl⟩) fun _ => ?_
    refine (readPositionArgs_carries rest ready).andThen fun args rest hlt ready => .ok ⟨?_, ready⟩
    exact congrArg (·, x.tokens rest) (Scalar.respell_dist x.spell name.pos args).symm
termination_by 16 * ts.length
decreasing_by
  all_goals
    dsimp only at *
    omega

theorem readScalarArgs_carries (ts : List Token) (h : x.Ready false ts) :
    x.Carries (List.map (Scalar.respell x.spell)) (x.reader.readScalarArgs ts).plain
      (x.reader.readScalarArgs (x.tokens ts)).plain := by
  rw [Reader.plain_readScalarArgs, Reader.plain_readScalarArgs]
  refine (readExpression_carries ts h).andThen fun first left hlt ready => ?_
  match left, hlt, ready with
  | [], _, _ => exact .error _
  | t :: rest, hlt, ready =>
    dsimp only [tokens_cons]
    rw [token_kind]
    have : rest.length + 1 < ts.length := hlt
    cases hk : t.kind
    case rparen => exact .ok ⟨rfl, ready.tail hk rfl⟩
    case comma =>
      have ready := ready.tail hk rfl
      exact (readScalarArgs_carries rest ready).andThen fun more rest hlt ready => .ok ⟨rfl, ready⟩
    all_goals exact .error _
termination_by 16 * ts.length + 5

theorem readPositionArgs_carries (ts : List Token) (h : x.Ready false ts) :
    x.Carries (List.map (Position.respell x.spell)) (x.reader.readPositionArgs ts).plain
      (x.reader.readPositionArgs (x.tokens ts)).plain := by
  rw [Reader.plain_readPositionArgs, Reader.plain_readPositionArgs]
  refine (readPosition_carries ts h).andThen ?_ fun first left hlt ready => ?_
  · intro first left z hz _
    cases left with
    | nil => cases hz
    | cons t rest =>
      dsimp only at hz
      cases hk : t.kind <;> rw [hk] at hz
      case comma => exact loose_cons hk rfl rest
      case rparen => exact loose_cons hk rfl rest
      all_goals cases hz
  match left, hlt, ready with
  | [], _, _ => exact .error _
  | t :: rest, hlt, ready =>
    dsimp only [tokens_cons]
    rw [token_kind]
    have : rest.length + 1 < ts.length := hlt
    cases hk : t.kind
    case rparen => exact .ok ⟨rfl, ready.tail hk rfl⟩
    case comma =>
      have ready := ready.tail hk rfl
      exact (readPositionArgs_carries rest ready).andThen fun more rest hlt ready =>
        .ok ⟨rfl, ready⟩
    all_goals exact .error _
termination_by 16 * ts.length + 9

/-- Positions are read as before. -/
theorem readPosition_carries (ts : List Token) (h : x.Ready false ts) :
    x.CarriesLoose (Position.respell x.spell) (x.reader.readPosition ts).plain
      (x.reader.readPosition (x.tokens ts)).plain := by
  rw [Reader.plain_readPosition, Reader.plain_readPosition]
  exact (readPositionPrimary_carries ts h).andThen
    (fun base rest p hoffsets loose => loose_of_readOffsets hoffsets loose)
    fun base rest hlt ready => readOffsets_carries base rest ready
termination_by 16 * ts.length + 8

theorem readOffsets_carries (base : Position) (ts : List Token) (h : x.Ready false ts) :
    x.CarriesLoose (Position.respell x.spell) (x.reader.readOffsets base ts).plain
      (x.reader.readOffsets (base.respell x.spell) (x.tokens ts)).plain := by
  match ts, h with
  | [], h =>
    rw [tokens_nil, Reader.plain_readOffsets_nil, Reader.plain_readOffsets_nil]
    exact .ok ⟨rfl, h⟩
  | t :: ts, h =>
    intro p hp loose
    by_cases dangles : x.reader.dangles (t :: ts)
    · -- What stands apart is not spelled anew, so that no offset is found there either.
      rw [x.reader.plain_readOffsets_of_dangles dangles] at hp
      cases hp
      have unchanged := loose dangles
      rw [unchanged, x.reader.plain_readOffsets_of_dangles dangles]
      exact ⟨_, rfl, by rw [carry, unchanged], h⟩
    rw [Reader.plain_readOffsets_cons] at hp
    rw [tokens_cons, Reader.plain_readOffsets_cons, token_kind, token_pos]
    by_cases sign : t.kind = .plus ∨ t.kind = .minus
    · have rest : x.Ready false ts := sign.elim (h.tail · rfl) (h.tail · rfl)
      rw [if_pos sign] at hp ⊢
      cases hpair : (x.reader.readOffsetPair ts).plain with
      | error d => exact absurd (.inr ⟨sign, by simp [hpair]⟩) dangles
      | ok pair =>
        have := Reading.length_lt_of_plain hpair
        obtain ⟨_, hpair', rfl, ready⟩ := readOffsetPair_carries ts rest pair hpair trivial
        rw [hpair] at hp
        rw [hpair']
        exact readOffsets_carries
          (.offset t.pos base pair.1.1 pair.1.2 (t.kind = .minus)) pair.2 ready p hp loose
    · rw [if_neg sign] at hp ⊢
      cases hp
      exact ⟨_, rfl, rfl, h⟩
termination_by 16 * ts.length
decreasing_by
  all_goals
    simp only [List.length_cons]
    omega

theorem readOffsetPair_carries (ts : List Token) (h : x.Ready false ts) :
    x.Carries (Prod.map (Scalar.respell x.spell) (Scalar.respell x.spell))
      (x.reader.readOffsetPair ts).plain (x.reader.readOffsetPair (x.tokens ts)).plain := by
  match ts, h with
  | [], h =>
    rw [tokens_nil, Reader.plain_readOffsetPair_nil]
    exact .error _
  | t :: ts, h =>
    have bare := readExpression_carries (t :: ts) h
    rw [tokens_cons] at bare ⊢
    rw [Reader.plain_readOffsetPair_cons, Reader.plain_readOffsetPair_cons, token_kind]
    refine .ite (fun hk => ?_) fun _ => ?_
    · refine (readExpression_carries ts (h.tail hk rfl)).andThen
        fun dx rest hdx ready => ?_
      refine (carries_of_together (x.readMark_together rfl ready)).andThen
        fun comma rest hcomma ready => ?_
      refine (readExpression_carries rest ready).andThen fun dy rest hdy ready => ?_
      exact (carries_of_together (x.readMark_together rfl ready)).andThen
        fun close rest hlt ready => .ok ⟨rfl, ready⟩
    · refine bare.andThen fun dx rest hdx ready => ?_
      have : rest.length < ts.length + 1 := hdx
      refine (carries_of_together (x.readMark_together rfl ready)).andThen
        fun comma rest hcomma ready => ?_
      exact (readExpression_carries rest ready).andThen fun dy rest hdy ready => .ok ⟨rfl, ready⟩
termination_by 16 * ts.length + 5
decreasing_by
  all_goals
    try simp only [List.length_cons]
    omega

theorem readPositionPrimary_carries (ts : List Token) (h : x.Ready false ts) :
    x.CarriesLoose (Position.respell x.spell) (x.reader.readPositionPrimary ts).plain
      (x.reader.readPositionPrimary (x.tokens ts)).plain := by
  by_cases hb : (x.reader.peek ts).isWord "between" = true
  · rw [Reader.plain_readPositionPrimary, Reader.plain_readPositionPrimary, isWord_peek_tokens,
      if_pos hb, if_pos hb, pos_peek_tokens]
    refine (carries_of_together (x.readWord_together (by decide) h)).andThen
      fun keyword rest hlt ready => ?_
    exact (readEnds_carries rest ready).andThen
      (fun ends rest z hz loose => by cases hz; exact loose)
      fun ends rest _ ready => .ok ⟨rfl, ready⟩
  rw [Bool.not_eq_true] at hb
  intro p hp loose
  rcases x.reader.readPositionPrimary_cases hb hp with
    ⟨before, group⟩ | ⟨leading, hleading, -, hafter⟩
  · have again := (passes_of_group ts h group loose).rewinds h before
    rw [Reader.plain_readPositionPrimary_of_rewinds _ (by rwa [isWord_peek_tokens]) again]
    exact readGroupOrPlace_carries ts h p group loose
  · have hlt := Reading.length_lt_of_plain hleading
    obtain ⟨_, hleading', rfl, ready⟩ := readExpression_carries ts h leading hleading trivial
    obtain ⟨q, hq, hs⟩ := readAfterScalar_carries (x.reader.peek ts).pos leading.1 leading.2 ready
      (some p) hafter (by rintro _ ⟨⟩; exact loose)
    cases hs with
    | some hs =>
      refine ⟨_, ?_, hs⟩
      rw [Reader.plain_readPositionPrimary, isWord_peek_tokens, hb, if_neg (by simp), hleading',
        pos_peek_tokens]
      dsimp only [carry]
      rw [hq]
      rfl
termination_by 16 * ts.length + 7

theorem readEnds_carries (ts : List Token) (h : x.Ready false ts) :
    x.CarriesLoose (Prod.map (Position.respell x.spell) (Position.respell x.spell))
      (x.reader.readEnds ts).plain (x.reader.readEnds (x.tokens ts)).plain := by
  rw [Reader.plain_readEnds, Reader.plain_readEnds]
  refine (readPosition_carries ts h).andThen (fun _ _ _ hz _ => loose_of_readWord hz)
    fun a rest ha ready => ?_
  refine (carries_of_together (x.readWord_together (by decide) ready)).andThen
    fun conjunction left hconjunction ready => ?_
  have : left.length < rest.length := hconjunction
  exact (readPosition_carries left ready).andThen
    (fun b rest z hz loose => by cases hz; exact loose) fun b rest hb ready => .ok ⟨rfl, ready⟩
termination_by 16 * ts.length + 9

theorem readGroupOrPlace_carries (ts : List Token) (h : x.Ready false ts) :
    x.CarriesLoose (Position.respell x.spell) (x.reader.readGroupOrPlace ts).plain
      (x.reader.readGroupOrPlace (x.tokens ts)).plain := by
  match ts, h with
  | [], h =>
    rw [tokens_nil, Reader.plain_readGroupOrPlace_nil]
    exact .error _
  | t :: ts, h =>
    have place := x.readPlace_together h
    rw [tokens_cons] at place ⊢
    rw [Reader.plain_readGroupOrPlace_cons, Reader.plain_readGroupOrPlace_cons, token_kind,
      token_pos]
    refine .ite (fun hk => ?_) fun _ => .of_together place
    refine (readPosition_carries ts (h.tail hk rfl)).andThen
      ?_ fun first left hlt ready => ?_
    · exact fun first left z hz _ => loose_of_separated hz
    match left, hlt, ready with
    | [], _, _ => exact .error _
    | u :: more, hlt, ready =>
      dsimp only [tokens_cons]
      rw [token_kind]
      have : more.length + 1 < ts.length := hlt
      cases hu : u.kind
      case comma =>
        refine (readPosition_carries more (ready.tail hu rfl)).andThen
          (fun _ _ _ hz _ => loose_of_readMark rfl hz)
          fun second rest hsecond ready => ?_
        exact (carries_of_together (x.readMark_together rfl ready)).andThen
          fun close rest hlt ready => .ok ⟨rfl, ready⟩
      case rparen => exact .ok ⟨rfl, ready.tail hu rfl⟩
      all_goals exact .error _
termination_by 16 * ts.length + 6
decreasing_by
  all_goals
    simp only [List.length_cons]
    omega

theorem readAfterScalar_carries (pos : SourcePos) (leading : Scalar) (ts : List Token)
    (h : x.Ready false ts) :
    x.CarriesLoose? (Position.respell x.spell)
      (Reading.plain? (x.reader.readAfterScalar pos leading ts))
      (Reading.plain? (x.reader.readAfterScalar pos (leading.respell x.spell) (x.tokens ts))) := by
  match ts, h with
  | [], h =>
    rw [tokens_nil, Reader.plain?_readAfterScalar_nil, Reader.plain?_readAfterScalar_nil]
    exact .ok .none
  | t :: ts, h =>
    rw [tokens_cons, Reader.plain?_readAfterScalar_cons, Reader.plain?_readAfterScalar_cons,
      token_kind, isWord_peek_tokens, isWord_peekSecond_tokens]
    cases hk : t.kind
    case comma =>
      exact (readExpression_carries ts (h.tail hk rfl)).andThen
        fun y rest hlt ready => .ok (.some ⟨rfl, ready⟩)
    case less =>
      refine (readPosition_carries ts (h.tail hk rfl)).andThen
        (fun _ _ _ hz _ => loose_of_readMark rfl hz)
        fun a rest ha ready => ?_
      refine (carries_of_together (x.readMark_together rfl ready)).andThen
        fun comma rest hcomma ready => ?_
      refine (readPosition_carries rest ready).andThen
        (fun _ _ _ hz _ => loose_of_readMark rfl hz)
        fun b rest hb ready => ?_
      exact (carries_of_together (x.readMark_together rfl ready)).andThen
        fun close rest hlt ready => .ok (.some ⟨rfl, ready⟩)
    case word =>
      rw [x.token_text_of_word hk]
      refine .ite (fun hf => ?_) fun hf => ?_
      · have ready : x.Ready false ts := h.tail_word hk (by rw [hf.1]; decide)
        have ready : x.Ready false (ts.drop (1 + 1)) := List.drop_drop ▸
          (ready.drop_isWord hf.2.1 (by decide)).drop_isWord (x.reader.peek_drop_one ts ▸ hf.2.2)
            (by decide)
        rw [tokens_drop]
        refine (carries_of_together (x.readWord_together (by decide) ready)).andThen
          fun between rest hbetween ready => ?_
        have : rest.length < (ts.drop 2).length := hbetween
        have := (List.drop_sublist 2 ts).length_le
        exact (readEnds_carries rest ready).andThen
          (fun ends rest z hz loose => by cases hz; exact loose _ rfl)
          fun ends rest hends ready => .ok (.some ⟨rfl, ready⟩)
      · cases hside : Reader.relativeSide? t.text with
        | some side =>
          have := Reader.length_skipWord_le "of" ts
          have noSide : Reader.relativeSide? "in" = none := by decide
          have ready : x.Ready false ts := h.tail_word hk fun hin => by
            rw [hin, noSide] at hside
            cases hside
          dsimp only
          rw [tokens_skipWord]
          exact (readPosition_carries _ (ready.skipWord (by decide))).andThen
            (fun base rest z hz loose => by cases hz; exact loose _ rfl)
            fun base rest hbase ready => .ok (.some ⟨rfl, ready⟩)
        | none =>
          refine .ite (fun hh => ?_) fun _ => .ok .none
          refine (readExpression_carries ts (h.tail_word hk (by simp [hh]))).andThen
            fun angle rest hangle ready => ?_
          refine (carries_of_together (x.readWord_together (by decide) ready)).andThen
            fun source left hsource ready => ?_
          have : left.length < rest.length := hsource
          exact (readPosition_carries left ready).andThen
            (fun base rest z hz loose => by cases hz; exact loose _ rfl)
            fun base rest hbase ready => .ok (.some ⟨rfl, ready⟩)
    all_goals exact .ok .none
termination_by 16 * ts.length
decreasing_by
  all_goals
    simp only [List.length_cons]
    omega

theorem passes_of_group (ts : List Token) (h : x.Ready false ts) {p : Position × List Token}
    (hp : (x.reader.readGroupOrPlace ts).plain = .ok p) (loose : x.Loose p.2) : x.Passes ts := by
  match ts, h with
  | [], h =>
    rw [Reader.plain_readGroupOrPlace_nil] at hp
    cases hp
  | t :: ts, h =>
    rw [Reader.plain_readGroupOrPlace_cons] at hp
    split_ifs at hp with hk
    · obtain ⟨first, hfirst, hnext⟩ := exists_of_bind_eq_ok hp
      rw [Reader.plain_readPosition] at hfirst
      obtain ⟨base, hbase, hoffsets⟩ := exists_of_bind_eq_ok hfirst
      have ready := h.tail hk rfl
      exact .parens hk ready (passes_of_primary ts ready hbase
        (loose_of_readOffsets hoffsets (loose_of_separated hnext)))
    · exact .of_place h hp loose
termination_by 16 * ts.length + 5
decreasing_by
  simp only [List.length_cons]
  omega

theorem passes_of_primary (ts : List Token) (h : x.Ready false ts) {p : Position × List Token}
    (hp : (x.reader.readPositionPrimary ts).plain = .ok p) (loose : x.Loose p.2) :
    x.Passes ts ∨ Ensures (fun q => (x.reader.peek q.2).kind ≠ .rparen)
      (x.reader.readExpression (x.tokens ts)).plain := by
  by_cases hb : (x.reader.peek ts).isWord "between" = true
  · obtain ⟨d, hd⟩ := x.reader.readSigned_of_between (x.isWord_peek_tokens ts _ ▸ hb)
    exact .inl (.of_signed_error hd)
  rw [Bool.not_eq_true] at hb
  rcases x.reader.readPositionPrimary_cases hb hp with
    ⟨-, group⟩ | ⟨leading, hleading, hmakes, -⟩
  · exact .inl (passes_of_group ts h group loose)
  · obtain ⟨_, hleading', rfl, -⟩ := readExpression_carries ts h leading hleading trivial
    refine .inr ?_
    rw [hleading']
    refine .ok ?_
    rw [carry, kind_peek_tokens]
    exact x.reader.kind_peek_of_makesPosition hmakes
termination_by 16 * ts.length + 6

end

end Respelling

end DiagramScript
