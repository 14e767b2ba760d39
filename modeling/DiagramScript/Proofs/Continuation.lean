import DiagramScript.Proofs.Relocation
import DiagramScript.Proofs.ReadingSteps

/-!
# Texts that go on

A text may be read on its own, or with more text after it.  Nothing that is read up to the end of
its last statement depends on which: no reader that looks ahead mistakes the end of a statement for
something else than the end of the script, and a reading that fails, and is tried in another way,
fails in both cases.

* `Continuation` — a text on its own, and the same text at other places, with a new statement or
  nothing after it.
* `Alike` — two readings that both fail, or both give the same.
* `Continuation.readExpression_alike`, `Continuation.readPosition_alike` — the readers of numbers
  and points, and those they use, are alike.
-/

namespace DiagramScript

variable {α β γ δ ε : Type}

/-! ## Readings that are alike -/

/-- Two readings that both fail, or give corresponding answers. -/
inductive Alike (φ : α → β) : Except ε α → Except ε β → Prop where
  /-- Both succeed. -/
  | ok (x : α) : Alike φ (.ok x) (.ok (φ x))
  /-- Both fail, perhaps with different messages. -/
  | error (d e : ε) : Alike φ (.error d) (.error e)

namespace Alike

variable {φ : α → β} {ψ : γ → δ} {r : Except ε α} {r' : Except ε β}

theorem of_eq_ok {x : α} {y : β} (h : y = φ x) : Alike φ (.ok x : Except ε α) (.ok y) := h ▸ .ok x

theorem of_answer {x : α} (h : r' = .ok (φ x)) : Alike φ (.ok x) r' := h ▸ .ok x

theorem bind {next : α → Except ε γ} {next' : β → Except ε δ} (h : Alike φ r r')
    (hn : ∀ x, r = .ok x → Alike ψ (next x) (next' (φ x))) :
    Alike ψ (r >>= next) (r' >>= next') := by
  cases h with
  | ok x => exact hn x rfl
  | error d e => exact .error d e

theorem ite {s : Except ε α} {s' : Except ε β} {c c' : Prop} [Decidable c]
    [Decidable c'] (hc : c' ↔ c) (hr : c → Alike φ r r') (hs : ¬ c → Alike φ s s') :
    Alike φ (if c then r else s) (if c' then r' else s') := by
  by_cases h : c
  · rw [if_pos h, if_pos (hc.2 h)]
    exact hr h
  · rw [if_neg h, if_neg (mt hc.1 h)]
    exact hs h

/-- What succeeds on one side succeeds on the other. -/
theorem eq_ok {x : α} (h : Alike φ r r') (hx : r = .ok x) : r' = .ok (φ x) := by
  subst hx
  cases h
  rfl

theorem exists_eq_ok {y : β} (h : Alike φ r r') (hy : r' = .ok y) : ∃ x, r = .ok x ∧ y = φ x := by
  subst hy
  cases h
  exact ⟨_, rfl, rfl⟩

end Alike

/-! ## Longer texts -/

/-- A text read on its own, and the same text at other places, where it may be followed by the end
of its last statement and more. -/
structure Continuation where
  /-- What reading the text on its own depends on. -/
  inner : Reader
  /-- What reading the longer text depends on. -/
  outer : Reader
  /-- Where the text stands in the longer one. -/
  move : SourcePos → SourcePos
  /-- What follows it there. -/
  tail : List Token
  /-- The colours are the same. -/
  colors : outer.colors = inner.colors
  /-- The text ends with the script when it stands on its own. -/
  final : inner.final.kind = .eof
  /-- It ends with the script also when nothing follows it. -/
  outerFinal : outer.final.kind = .eof
  /-- It ends with a statement when more follows. -/
  stops : ∀ t ∈ tail.head?, t.kind = .eol

namespace Continuation

variable (x : Continuation)

/-- The tokens of the text at the other places, and those after it. -/
def extend (ts : List Token) : List Token := ts.map (Token.mapPos x.move) ++ x.tail

/-- What is read from the text, as it is read from the longer text. -/
def carry (k : α → α) (p : α × List Token) : α × List Token := (k p.1, x.extend p.2)

@[simp] theorem extend_nil : x.extend [] = x.tail := rfl

@[simp] theorem extend_cons (t : Token) (ts : List Token) :
    x.extend (t :: ts) = t.mapPos x.move :: x.extend ts := rfl

theorem extend_drop_one {ts : List Token} (h : ts ≠ []) :
    (x.extend ts).drop 1 = x.extend (ts.drop 1) := by
  cases ts with
  | nil => exact absurd rfl h
  | cons t ts => rfl

/-- What follows the text is nothing, or starts with the end of a statement. -/
@[elab_as_elim]
theorem tail_cases {motive : List Token → Prop} (nil : motive [])
    (cons : ∀ stop more, stop.kind = .eol → motive (stop :: more)) : motive x.tail := by
  have stops := x.stops
  generalize x.tail = tail at stops
  cases tail with
  | nil => exact nil
  | cons stop more => exact cons stop more (stops stop rfl)

/-! ### Looking ahead -/

theorem kind_peek_tail :
    (x.outer.peek x.tail).kind = .eol ∨ (x.outer.peek x.tail).kind = .eof :=
  x.tail_cases (.inr x.outerFinal) fun _ _ hs => .inl hs

/-- The next token differs only at the end, where both are ends of some kind. -/
theorem peek_extend (ts : List Token) :
    x.outer.peek (x.extend ts) = (x.inner.peek ts).mapPos x.move ∨
      (ts = [] ∧ ((x.outer.peek (x.extend ts)).kind = .eol ∨
        (x.outer.peek (x.extend ts)).kind = .eof) ∧ (x.inner.peek ts).kind = .eof) := by
  cases ts with
  | nil => exact .inr ⟨rfl, x.kind_peek_tail, x.final⟩
  | cons t ts => exact .inl rfl

@[simp] theorem isWord_peek_extend (ts : List Token) (word : String) :
    (x.outer.peek (x.extend ts)).isWord word = (x.inner.peek ts).isWord word := by
  rcases x.peek_extend ts with h | ⟨-, ho | ho, hi⟩
  · rw [h, Token.isWord_mapPos]
  all_goals simp [Token.isWord, ho, hi]

@[simp] theorem isTerminator_peek_extend (ts : List Token) :
    (x.outer.peek (x.extend ts)).isTerminator = (x.inner.peek ts).isTerminator := by
  rcases x.peek_extend ts with h | ⟨-, ho | ho, hi⟩
  · rw [h, Token.isTerminator_mapPos]
  all_goals simp [Token.isTerminator, ho, hi]

theorem kind_peek_extend_iff (ts : List Token) {kind : TokenKind} (hl : kind ≠ .eol)
    (hf : kind ≠ .eof) :
    (x.outer.peek (x.extend ts)).kind = kind ↔ (x.inner.peek ts).kind = kind := by
  rcases x.peek_extend ts with h | ⟨-, ho | ho, hi⟩
  · rw [h, Token.mapPos_kind]
  · rw [ho, hi]
    exact iff_of_false (Ne.symm hl) (Ne.symm hf)
  · rw [ho, hi]

/-- A token other than the end of the script is no lookahead beyond the text. -/
theorem ne_nil_of_kind_peek {ts : List Token} {kind : TokenKind} (hf : kind ≠ .eof)
    (h : (x.inner.peek ts).kind = kind) : ts ≠ [] := by
  rintro rfl
  exact hf (h.symm.trans x.final)

theorem ne_nil_of_isWord_peek {ts : List Token} {word : String}
    (h : (x.inner.peek ts).isWord word = true) : ts ≠ [] := by
  rintro rfl
  simp [Token.isWord, x.final] at h

theorem isWord_of_eol {t : Token} (h : t.kind = .eol) (word : String) : t.isWord word = false := by
  simp [Token.isWord, h]

theorem extend_skipWord (word : String) (ts : List Token) :
    Reader.skipWord word (x.extend ts) = x.extend (Reader.skipWord word ts) := by
  cases ts with
  | nil =>
    rw [Reader.skipWord, extend_nil]
    refine x.tail_cases rfl fun stop more hs => ?_
    rw [Reader.skipWord, isWord_of_eol hs]
    rfl
  | cons t ts =>
    rw [extend_cons, Reader.skipWord, Reader.skipWord, Token.isWord_mapPos]
    split_ifs <;> rfl

/-! ### Single tokens -/

theorem readToken_alike {ok : Token → Bool} {what : Expected}
    (hok : ∀ t, ok (t.mapPos x.move) = ok t)
    (hstop : ∀ t : Token, t.kind = .eol → ok t = false) (ts : List Token) :
    Alike (x.carry (Token.mapPos x.move)) (x.inner.readToken ok what ts).plain
      (x.outer.readToken ok what (x.extend ts)).plain := by
  cases ts with
  | nil =>
    rw [extend_nil]
    refine x.tail_cases (.error _ _) fun stop more hs => ?_
    rw [Reader.plain_readToken_cons, hstop stop hs]
    exact .error _ _
  | cons t ts =>
    rw [extend_cons, Reader.plain_readToken_cons, Reader.plain_readToken_cons, hok]
    exact .ite Iff.rfl (fun _ => .ok (t, ts)) fun _ => .error _ _

theorem readMark_alike {kind : TokenKind} (h : kind ≠ .eol) (mark : String) (ts : List Token) :
    Alike (x.carry (Token.mapPos x.move)) (x.inner.readMark kind mark ts).plain
      (x.outer.readMark kind mark (x.extend ts)).plain :=
  x.readToken_alike (fun _ => rfl) (fun t ht => by simp [ht, h.symm]) ts

theorem readWord_alike (word : String) (ts : List Token) :
    Alike (x.carry (Token.mapPos x.move)) (x.inner.readWord word ts).plain
      (x.outer.readWord word (x.extend ts)).plain :=
  x.readToken_alike (fun _ => rfl) (fun _ ht => isWord_of_eol ht word) ts

/-! ### References -/

theorem readClass_alike (ts : List Token) :
    Alike (x.carry id) (x.inner.readClass ts).plain (x.outer.readClass (x.extend ts)).plain := by
  cases ts with
  | nil =>
    rw [extend_nil]
    refine x.tail_cases (.error _ _) fun stop more hs => ?_
    rw [Reader.plain_readClass_cons, hs]
    exact .error _ _
  | cons t ts =>
    rw [extend_cons, Reader.plain_readClass_cons, Reader.plain_readClass_cons, Token.mapPos_kind,
      Token.mapPos_text]
    cases t.kind
    case word =>
      cases ObjectClass.ofKeyword? t.text with
      | none => exact .error _ _
      | some cls => exact .ok (cls, ts)
    case lbracket =>
      cases ts with
      | nil =>
        rw [extend_nil]
        refine x.tail_cases (.error _ _) fun stop more hs => ?_
        dsimp only
        rw [hs]
        exact .error _ _
      | cons u ts =>
        exact .ite Iff.rfl (fun _ => .ok (ObjectClass.container, ts)) fun _ => .error _ _
    all_goals exact .error _ _

theorem plainOrdinal?_extend (ts : List Token) :
    Reader.plainOrdinal? (x.extend ts) = (Reader.plainOrdinal? ts).map (x.carry id) := by
  cases ts with
  | nil =>
    rw [extend_nil]
    refine x.tail_cases rfl fun stop more hs => ?_
    rw [Reader.plainOrdinal?_cons, hs, isWord_of_eol hs]
    rfl
  | cons t ts =>
    rw [extend_cons, Reader.plainOrdinal?_cons, Reader.plainOrdinal?_cons, Token.mapPos_kind,
      Token.isWord_mapPos]
    cases t.kind
    case nth n =>
      cases ts with
      | nil =>
        rw [extend_nil, Option.map_some, carry, extend_nil]
        refine x.tail_cases rfl fun stop more hs => ?_
        dsimp only
        rw [isWord_of_eol hs]
        rfl
      | cons u ts =>
        dsimp only [extend_cons]
        rw [Token.isWord_mapPos]
        split_ifs <;> rfl
    all_goals
      dsimp only
      split_ifs <;> rfl

theorem plainMembers_extend (pos : SourcePos) (group : ObjectRef) (ts : List Token) :
    Reader.plainMembers (x.move pos) (group.mapPos x.move) (x.extend ts) =
      x.carry (ObjectRef.mapPos x.move) (Reader.plainMembers pos group ts) := by
  match ts with
  | [] =>
    rw [Reader.plainMembers_nil, carry, extend_nil]
    refine x.tail_cases (Reader.plainMembers_nil _ _) fun stop more hs => ?_
    cases more with
    | nil => rw [Reader.plainMembers_singleton]
    | cons l more => rw [Reader.plainMembers_cons_cons, if_neg (by simp [hs])]
  | [d] =>
    rw [Reader.plainMembers_singleton, carry, extend_cons, extend_nil]
    refine x.tail_cases (Reader.plainMembers_singleton _ _ _) fun stop more hs => ?_
    rw [Reader.plainMembers_cons_cons, if_neg (by simp [hs])]
  | d :: l :: ts =>
    rw [extend_cons, extend_cons, Reader.plainMembers_cons_cons, Reader.plainMembers_cons_cons,
      Token.mapPos_kind, Token.mapPos_kind]
    by_cases h : d.kind = .dot ∧ l.kind = .label
    · rw [if_pos h, if_pos h]
      exact plainMembers_extend pos (.member pos group l.pos (.label l.text)) ts
    · rw [if_neg h, if_neg h]
      rfl

/-- References are read alike. -/
theorem readObjectRef_alike (ts : List Token) :
    Alike (x.carry (ObjectRef.mapPos x.move)) (x.inner.readObjectRef ts).plain
      (x.outer.readObjectRef (x.extend ts)).plain := by
  cases ts with
  | nil =>
    rw [Reader.plain_readObjectRef_nil, extend_nil]
    refine x.tail_cases ?_ fun stop more hs => ?_
    · rw [Reader.plain_readObjectRef_nil]
      exact .error _ _
    · rw [Reader.plain_readObjectRef_cons, if_neg (by simp [hs]), isWord_of_eol hs,
        Reader.plainOrdinal?_cons, hs, isWord_of_eol hs]
      exact .error _ _
  | cons t ts =>
    have place := x.plainOrdinal?_extend (t :: ts)
    have shorter : ∀ {p}, Reader.plainOrdinal? (t :: ts) = some p → p.2.length < (t :: ts).length :=
      fun {p} hp => by
        obtain ⟨q, -, rfl⟩ := Option.map_eq_some_iff.1 hp
        exact q.shorter
    rw [extend_cons] at place ⊢
    rw [Reader.plain_readObjectRef_cons, Reader.plain_readObjectRef_cons, place]
    refine .ite Iff.rfl (fun _ => ?_) fun _ => .ite Iff.rfl (fun _ => ?_) fun _ => ?_
    · exact .of_eq_ok (x.plainMembers_extend t.pos (.select t.pos (.label t.text)) ts)
    · exact .of_eq_ok (x.plainMembers_extend t.pos (.previous t.pos) ts)
    · cases hp : Reader.plainOrdinal? (t :: ts) with
      | none => exact .error _ _
      | some p =>
        refine (x.readClass_alike p.2).bind fun cls hcls => ?_
        obtain ⟨cls, left⟩ := cls
        have hleft := Reading.length_lt_of_plain hcls
        have alone := x.plainMembers_extend t.pos (.select t.pos (.ordinal cls p.1.1 p.1.2)) left
        cases left with
        | nil =>
          rw [Reader.plainMembers_nil, carry, extend_nil] at alone
          refine .of_answer ?_
          rw [carry, carry, carry, extend_nil]
          revert alone
          refine x.tail_cases (fun _ => rfl) fun stop more hs alone => ?_
          dsimp only
          rw [isWord_of_eol hs]
          exact congrArg Except.ok alone
        | cons u more =>
          refine .ite Iff.rfl (fun _ => ?_) fun _ => .of_eq_ok alone
          have := shorter hp
          refine (readObjectRef_alike more).bind fun group _ => .of_eq_ok ?_
          exact x.plainMembers_extend t.pos
            (.member t.pos group.1 t.pos (.ordinal cls p.1.1 p.1.2)) group.2
termination_by ts.length
decreasing_by
  simp only [List.length_cons] at *
  omega

/-! ### Positions named by an object -/

theorem anchorOf?_mapPos (f : SourcePos → SourcePos) (t : Token) :
    Reader.anchorOf? (t.mapPos f) = Reader.anchorOf? t := rfl

theorem anchorOf?_of_eol {t : Token} (h : t.kind = .eol) : Reader.anchorOf? t = none := by
  rw [Reader.anchorOf?, h]

theorem readAnchor_alike (ts : List Token) :
    Alike (x.carry id) (x.inner.readAnchor ts).plain (x.outer.readAnchor (x.extend ts)).plain := by
  cases ts with
  | nil =>
    rw [extend_nil]
    refine x.tail_cases (.error _ _) fun stop more hs => ?_
    rw [Reader.plain_readAnchor_cons, anchorOf?_of_eol hs]
    exact .error _ _
  | cons t ts =>
    rw [extend_cons, Reader.plain_readAnchor_cons, Reader.plain_readAnchor_cons, anchorOf?_mapPos]
    cases Reader.anchorOf? t with
    | none => exact .error _ _
    | some a => exact .ok (a, ts)

theorem readVertex_alike (pos : SourcePos) (place : Nat × Bool) (ts : List Token) :
    Alike (Option.map (x.carry (Position.mapPos x.move)))
      (Reading.plain? (x.inner.readVertex pos place ts))
      (Reading.plain? (x.outer.readVertex (x.move pos) place (x.extend ts))) := by
  cases ts with
  | nil =>
    rw [extend_nil]
    refine x.tail_cases (.ok none) fun stop more hs => ?_
    rw [Reader.plain?_readVertex_cons, isWord_of_eol hs]
    exact .ok none
  | cons t ts =>
    rw [extend_cons, Reader.plain?_readVertex_cons, Reader.plain?_readVertex_cons]
    refine .ite Iff.rfl (fun _ => ?_) fun _ => .ok none
    refine (x.readWord_alike "of" ts).bind fun ofWord _ => ?_
    exact (x.readObjectRef_alike ofWord.2).bind fun ref _ => .of_eq_ok rfl

theorem readObjectPlace_alike (pos : SourcePos) (ts : List Token) :
    Alike (x.carry (Position.mapPos x.move)) (x.inner.readObjectPlace pos ts).plain
      (x.outer.readObjectPlace (x.move pos) (x.extend ts)).plain := by
  rw [Reader.plain_readObjectPlace, Reader.plain_readObjectPlace]
  refine (x.readObjectRef_alike ts).bind fun ref _ => ?_
  obtain ⟨ref, left⟩ := ref
  have bare : Alike (x.carry (Position.mapPos x.move))
      (.ok (.object pos ref none, left) : Except Diagnostic _)
      (.ok (.object (x.move pos) (ref.mapPos x.move) none, x.extend left)) := .of_eq_ok rfl
  cases left with
  | nil =>
    rw [carry]
    rw [extend_nil] at bare ⊢
    revert bare
    refine x.tail_cases id fun stop more hs bare => ?_
    dsimp only
    rw [hs]
    exact bare
  | cons t left =>
    dsimp only [carry, extend_cons]
    rw [Token.mapPos_kind]
    cases t.kind
    case edge a => exact .of_eq_ok rfl
    all_goals exact bare

theorem plainUnanchored_alike (pos : SourcePos) (ts : List Token) :
    Alike (x.carry (Position.mapPos x.move)) (x.inner.plainUnanchored pos ts)
      (x.outer.plainUnanchored (x.move pos) (x.extend ts)) := by
  have whole := x.readObjectPlace_alike pos ts
  unfold Reader.plainUnanchored
  rw [x.plainOrdinal?_extend]
  cases Reader.plainOrdinal? ts with
  | none => exact whole
  | some p =>
    refine (x.readVertex_alike pos p.1 p.2).bind fun v _ => ?_
    cases v with
    | none => exact whole
    | some v => exact .ok v

theorem readPlace_alike (ts : List Token) :
    Alike (x.carry (Position.mapPos x.move)) (x.inner.readPlace ts).plain
      (x.outer.readPlace (x.extend ts)).plain := by
  cases ts with
  | nil =>
    rw [extend_nil]
    refine x.tail_cases (.error _ _) fun stop more hs => ?_
    rw [Reader.plain_readPlace_cons, anchorOf?_of_eol hs]
    dsimp only
    rw [Reader.plainUnanchored, Reader.plainOrdinal?_cons, hs, isWord_of_eol hs]
    dsimp only
    rw [if_neg (by simp)]
    dsimp only
    rw [Reader.plain_readObjectPlace, Reader.plain_readObjectRef_cons, if_neg (by simp [hs]),
      isWord_of_eol hs, Reader.plainOrdinal?_cons, hs, isWord_of_eol hs]
    exact .error _ _
  | cons t ts =>
    have unanchored := x.plainUnanchored_alike t.pos (t :: ts)
    rw [extend_cons] at unanchored ⊢
    rw [Reader.plain_readPlace_cons, Reader.plain_readPlace_cons, anchorOf?_mapPos,
      isWord_peek_extend]
    cases Reader.anchorOf? t with
    | none => exact unanchored
    | some a =>
      cases hof : (x.inner.peek ts).isWord "of" with
      | false => exact unanchored
      | true =>
        dsimp only
        rw [x.extend_drop_one (x.ne_nil_of_isWord_peek hof)]
        exact (x.readObjectRef_alike _).bind fun ref _ => .of_eq_ok rfl

/-! ### Numbers -/

/-- What is read next is read from fewer tokens. -/
theorem andThen {k : α → α} {φ : γ → δ} {n : Nat} {r : Reading α n}
    {r' : Except Diagnostic (α × List Token)} {next : α × List Token → Except Diagnostic γ}
    {next' : α × List Token → Except Diagnostic δ} (h : Alike (x.carry k) r.plain r')
    (hn : ∀ v rest, rest.length < n → Alike φ (next (v, rest)) (next' (k v, x.extend rest))) :
    Alike φ (r.plain >>= next) (r' >>= next') :=
  h.bind fun p hp => hn p.1 p.2 (Reading.length_lt_of_plain hp)

theorem scalarOfPlace?_mapPos (f : SourcePos → SourcePos) (pos : SourcePos) (place : Position)
    (word : String) :
    Reader.scalarOfPlace? (f pos) (place.mapPos f) word =
      (Reader.scalarOfPlace? pos place word).map (Scalar.mapPos f) := by
  unfold Reader.scalarOfPlace?
  cases Reader.axisOf? word with
  | some axis => rfl
  | none =>
    dsimp only
    cases place
    case object p ref anchor =>
      cases anchor with
      | some a => rfl
      | none => cases Property.ofWord? word <;> rfl
    case between p fraction a b => cases fraction <;> rfl
    all_goals rfl

theorem pos_peek_extend {ts : List Token} (h : 0 < ts.length) :
    (x.outer.peek (x.extend ts)).pos = x.move (x.inner.peek ts).pos := by
  cases ts with
  | nil => exact absurd h (Nat.lt_irrefl 0)
  | cons t ts => rfl

theorem readPlaceScalar_alike (ts : List Token) :
    Alike (x.carry (Scalar.mapPos x.move)) (x.inner.readPlaceScalar ts).plain
      (x.outer.readPlaceScalar (x.extend ts)).plain := by
  rw [Reader.plain_readPlaceScalar, Reader.plain_readPlaceScalar]
  refine x.andThen (x.readPlace_alike ts) fun place left hlt => ?_
  rcases left with - | ⟨d, - | ⟨w, rest⟩⟩
  · dsimp only [extend_nil]
    refine x.tail_cases (.error _ _) fun stop more hs => ?_
    cases more with
    | nil => exact .error _ _
    | cons w rest =>
      dsimp only
      rw [if_neg (by simp [hs])]
      exact .error _ _
  · dsimp only [extend_cons, extend_nil]
    refine x.tail_cases (.error _ _) fun stop more hs => ?_
    dsimp only
    rw [if_neg (by simp [hs])]
    exact .error _ _
  · dsimp only [extend_cons]
    rw [x.pos_peek_extend (by omega), Token.mapPos_kind, Token.mapPos_kind, Token.mapPos_text,
      scalarOfPlace?_mapPos]
    by_cases h : d.kind = .dot ∧ w.kind = .word
    · rw [if_pos h, if_pos h]
      cases Reader.scalarOfPlace? (x.inner.peek ts).pos place w.text with
      | none => exact .error _ _
      | some s => exact .ok (s, rest)
    · rw [if_neg h, if_neg h]
      exact .error _ _

theorem namesColor_extend (t : Token) (ts : List Token) :
    x.outer.namesColor (t.mapPos x.move) (x.outer.peek (x.extend ts)) =
      x.inner.namesColor t (x.inner.peek ts) := by
  unfold Reader.namesColor
  rw [x.colors, Token.mapPos_text]
  rcases x.peek_extend ts with h | ⟨-, ho | ho, hi⟩
  · rw [h, Token.mapPos_kind]
  all_goals rw [ho, hi]

/-- The words `the way` are found in the longer text where they are found in the text. -/
theorem beginsFraction_extend (t : Token) (ts : List Token) :
    (t.text = "of" ∧ (x.outer.peek (x.extend ts)).isWord "the" = true ∧
        (x.outer.peekSecond (x.extend ts)).isWord "way" = true) ↔
      (t.text = "of" ∧ (x.inner.peek ts).isWord "the" = true ∧
        (x.inner.peekSecond ts).isWord "way" = true) := by
  rw [isWord_peek_extend]
  cases ts with
  | nil => simp [Token.isWord, x.final]
  | cons u ts =>
    rw [extend_cons, Reader.peekSecond_cons, Reader.peekSecond_cons, isWord_peek_extend]

theorem extend_drop_two {ts : List Token} {first second : String}
    (h₁ : (x.inner.peek ts).isWord first = true)
    (h₂ : (x.inner.peekSecond ts).isWord second = true) :
    (x.extend ts).drop 2 = x.extend (ts.drop 2) := by
  cases ts with
  | nil => exact absurd rfl (x.ne_nil_of_isWord_peek h₁)
  | cons t ts =>
    rw [Reader.peekSecond_cons] at h₂
    exact x.extend_drop_one (x.ne_nil_of_isWord_peek h₂)

/-! ### Expressions and positions -/

mutual

/-- Numbers are read alike. -/
theorem readExpression_alike (ts : List Token) :
    Alike (x.carry (Scalar.mapPos x.move)) (x.inner.readExpression ts).plain
      (x.outer.readExpression (x.extend ts)).plain := by
  rw [Reader.plain_readExpression, Reader.plain_readExpression]
  exact x.andThen (readTerm_alike ts) fun left rest hlt => readSums_alike left rest
termination_by 16 * ts.length + 4

theorem readSums_alike (left : Scalar) (ts : List Token) :
    Alike (x.carry (Scalar.mapPos x.move)) (x.inner.readSums left ts).plain
      (x.outer.readSums (left.mapPos x.move) (x.extend ts)).plain := by
  cases ts with
  | nil =>
    rw [extend_nil, Reader.plain_readSums_nil]
    refine .of_answer ?_
    rw [carry, extend_nil]
    refine x.tail_cases (Reader.plain_readSums_nil _ _) fun stop more hs => ?_
    rw [Reader.plain_readSums_cons, hs]
  | cons t ts =>
    rw [extend_cons, Reader.plain_readSums_cons, Reader.plain_readSums_cons, Token.mapPos_kind]
    cases t.kind
    case plus =>
      exact x.andThen (readTerm_alike ts) fun right rest hlt =>
        readSums_alike (.binary t.pos .add left right) rest
    case minus =>
      exact x.andThen (readTerm_alike ts) fun right rest hlt =>
        readSums_alike (.binary t.pos .sub left right) rest
    all_goals exact .ok (left, t :: ts)
termination_by 16 * ts.length
decreasing_by
  all_goals
    simp only [List.length_cons] at *
    omega

theorem readTerm_alike (ts : List Token) :
    Alike (x.carry (Scalar.mapPos x.move)) (x.inner.readTerm ts).plain
      (x.outer.readTerm (x.extend ts)).plain := by
  rw [Reader.plain_readTerm, Reader.plain_readTerm]
  exact x.andThen (readSigned_alike ts) fun left rest hlt => readFactors_alike left rest
termination_by 16 * ts.length + 3

theorem readFactors_alike (left : Scalar) (ts : List Token) :
    Alike (x.carry (Scalar.mapPos x.move)) (x.inner.readFactors left ts).plain
      (x.outer.readFactors (left.mapPos x.move) (x.extend ts)).plain := by
  cases ts with
  | nil =>
    rw [extend_nil, Reader.plain_readFactors_nil]
    refine .of_answer ?_
    rw [carry, extend_nil]
    refine x.tail_cases (Reader.plain_readFactors_nil _ _) fun stop more hs => ?_
    rw [Reader.plain_readFactors_cons, hs]
  | cons t ts =>
    rw [extend_cons, Reader.plain_readFactors_cons, Reader.plain_readFactors_cons,
      Token.mapPos_kind]
    cases t.kind
    case star =>
      exact x.andThen (readSigned_alike ts) fun right rest hlt =>
        readFactors_alike (.binary t.pos .mul left right) rest
    case slash =>
      exact x.andThen (readSigned_alike ts) fun right rest hlt =>
        readFactors_alike (.binary t.pos .div left right) rest
    all_goals exact .ok (left, t :: ts)
termination_by 16 * ts.length
decreasing_by
  all_goals
    simp only [List.length_cons] at *
    omega

theorem readSigned_alike (ts : List Token) :
    Alike (x.carry (Scalar.mapPos x.move)) (x.inner.readSigned ts).plain
      (x.outer.readSigned (x.extend ts)).plain := by
  cases ts with
  | nil =>
    rw [extend_nil, Reader.plain_readSigned_nil]
    refine x.tail_cases ?_ fun stop more hs => ?_
    · rw [Reader.plain_readSigned_nil]
      exact .error _ _
    · rw [Reader.plain_readSigned_cons, hs]
      dsimp only
      rw [Reader.plain_readPrimary_cons, hs]
      exact .error _ _
  | cons t ts =>
    have primary := readPrimary_alike (t :: ts)
    rw [extend_cons, Reader.plain_readSigned_cons, Reader.plain_readSigned_cons, Token.mapPos_kind]
    cases t.kind
    case minus =>
      exact x.andThen (readSigned_alike ts) fun operand rest hlt => .of_eq_ok rfl
    case plus => exact readSigned_alike ts
    all_goals exact primary
termination_by 16 * ts.length + 2
decreasing_by
  all_goals
    simp only [List.length_cons] at *
    omega

theorem readPrimary_alike (ts : List Token) :
    Alike (x.carry (Scalar.mapPos x.move)) (x.inner.readPrimary ts).plain
      (x.outer.readPrimary (x.extend ts)).plain := by
  cases ts with
  | nil =>
    rw [extend_nil, Reader.plain_readPrimary_nil]
    refine x.tail_cases ?_ fun stop more hs => ?_
    · rw [Reader.plain_readPrimary_nil]
      exact .error _ _
    · rw [Reader.plain_readPrimary_cons, hs]
      exact .error _ _
  | cons t ts =>
    have place := x.readPlaceScalar_alike (t :: ts)
    have call := readCall_alike t ts
    rw [extend_cons] at place ⊢
    rw [Reader.plain_readPrimary_cons, Reader.plain_readPrimary_cons, Token.mapPos_kind,
      namesColor_extend]
    cases t.kind
    case number v u => exact .of_eq_ok rfl
    case percent v => exact .of_eq_ok rfl
    case sigil => exact .of_eq_ok rfl
    case color name => exact .of_eq_ok rfl
    case label => exact .ite Iff.rfl (fun _ => .of_eq_ok rfl) fun _ => place
    case lparen =>
      refine x.andThen (readExpression_alike ts) fun inner rest hlt => ?_
      exact x.andThen (x.readMark_alike (by simp) ")" rest) fun close rest hlt => .of_eq_ok rfl
    case nth n => exact place
    case word =>
      refine .ite ?_ (fun _ => call) fun _ => .ite Iff.rfl (fun _ => .of_eq_ok rfl) fun _ =>
        .ite Iff.rfl (fun _ => place) fun _ => .error _ _
      rw [x.kind_peek_extend_iff ts (by simp) (by simp), Token.mapPos_text]
    all_goals exact .error _ _
termination_by 16 * ts.length + 1
decreasing_by
  all_goals
    simp only [List.length_cons] at *
    omega

theorem readCall_alike (name : Token) (ts : List Token) :
    Alike (x.carry (Scalar.mapPos x.move)) (x.inner.readCall name ts).plain
      (x.outer.readCall (name.mapPos x.move) (x.extend ts)).plain := by
  rw [Reader.plain_readCall, Reader.plain_readCall]
  refine x.andThen (x.readMark_alike (by simp) "(" ts) fun start rest hlt => ?_
  have closes :
      (x.outer.peek (x.extend rest)).kind = .rparen ↔ (x.inner.peek rest).kind = .rparen :=
    x.kind_peek_extend_iff rest (by simp) (by simp)
  cases hf : ScalarFunction.ofName? name.text with
  | some function =>
    dsimp only [Token.mapPos_text]
    rw [hf]
    refine .ite closes (fun h => ?_) fun _ => ?_
    · rw [x.extend_drop_one (x.ne_nil_of_kind_peek (by simp) h)]
      exact .of_eq_ok rfl
    · exact x.andThen (readScalarArgs_alike rest) fun args rest hlt => .of_eq_ok
        (congrArg (·, x.extend rest) (Scalar.mapPos_call x.move name.pos function args).symm)
  | none =>
    dsimp only [Token.mapPos_text]
    rw [hf]
    refine .ite closes (fun h => ?_) fun _ => ?_
    · rw [x.extend_drop_one (x.ne_nil_of_kind_peek (by simp) h)]
      exact .of_eq_ok rfl
    · exact x.andThen (readPositionArgs_alike rest) fun args rest hlt => .of_eq_ok
        (congrArg (·, x.extend rest) (Scalar.mapPos_dist x.move name.pos args).symm)
termination_by 16 * ts.length
decreasing_by
  all_goals
    dsimp only at *
    omega

theorem readScalarArgs_alike (ts : List Token) :
    Alike (x.carry (List.map (Scalar.mapPos x.move))) (x.inner.readScalarArgs ts).plain
      (x.outer.readScalarArgs (x.extend ts)).plain := by
  rw [Reader.plain_readScalarArgs, Reader.plain_readScalarArgs]
  refine x.andThen (readExpression_alike ts) fun first left hlt => ?_
  cases left with
  | nil =>
    dsimp only [extend_nil]
    refine x.tail_cases (.error _ _) fun stop more hs => ?_
    dsimp only
    rw [hs]
    exact .error _ _
  | cons t rest =>
    dsimp only [extend_cons]
    rw [Token.mapPos_kind]
    have : rest.length + 1 < ts.length := hlt
    cases t.kind
    case rparen => exact .of_eq_ok rfl
    case comma => exact x.andThen (readScalarArgs_alike rest) fun more rest hlt => .of_eq_ok rfl
    all_goals exact .error _ _
termination_by 16 * ts.length + 5

theorem readPositionArgs_alike (ts : List Token) :
    Alike (x.carry (List.map (Position.mapPos x.move))) (x.inner.readPositionArgs ts).plain
      (x.outer.readPositionArgs (x.extend ts)).plain := by
  rw [Reader.plain_readPositionArgs, Reader.plain_readPositionArgs]
  refine x.andThen (readPosition_alike ts) fun first left hlt => ?_
  cases left with
  | nil =>
    dsimp only [extend_nil]
    refine x.tail_cases (.error _ _) fun stop more hs => ?_
    dsimp only
    rw [hs]
    exact .error _ _
  | cons t rest =>
    dsimp only [extend_cons]
    rw [Token.mapPos_kind]
    have : rest.length + 1 < ts.length := hlt
    cases t.kind
    case rparen => exact .of_eq_ok rfl
    case comma => exact x.andThen (readPositionArgs_alike rest) fun more rest hlt => .of_eq_ok rfl
    all_goals exact .error _ _
termination_by 16 * ts.length + 9

/-- Points are read alike. -/
theorem readPosition_alike (ts : List Token) :
    Alike (x.carry (Position.mapPos x.move)) (x.inner.readPosition ts).plain
      (x.outer.readPosition (x.extend ts)).plain := by
  rw [Reader.plain_readPosition, Reader.plain_readPosition]
  exact x.andThen (readPositionPrimary_alike ts) fun base rest hlt => readOffsets_alike base rest
termination_by 16 * ts.length + 8

theorem readOffsets_alike (base : Position) (ts : List Token) :
    Alike (x.carry (Position.mapPos x.move)) (x.inner.readOffsets base ts).plain
      (x.outer.readOffsets (base.mapPos x.move) (x.extend ts)).plain := by
  cases ts with
  | nil =>
    rw [extend_nil, Reader.plain_readOffsets_nil]
    refine .of_answer ?_
    rw [carry, extend_nil]
    refine x.tail_cases (Reader.plain_readOffsets_nil _ _) fun stop more hs => ?_
    rw [Reader.plain_readOffsets_cons, if_neg (by simp [hs])]
  | cons t ts =>
    have pair := readOffsetPair_alike ts
    rw [extend_cons, Reader.plain_readOffsets_cons, Reader.plain_readOffsets_cons]
    refine .ite Iff.rfl (fun _ => ?_) fun _ => .ok (base, t :: ts)
    generalize hi : (x.inner.readOffsetPair ts).plain = r at pair
    generalize (x.outer.readOffsetPair (x.extend ts)).plain = r' at pair
    cases pair with
    | error d e => exact .ok (base, t :: ts)
    | ok p =>
      have hlt := Reading.length_lt_of_plain hi
      exact readOffsets_alike (.offset t.pos base p.1.1 p.1.2 (t.kind = .minus)) p.2
termination_by 16 * ts.length
decreasing_by
  all_goals
    simp only [List.length_cons] at *
    omega

theorem readOffsetPair_alike (ts : List Token) :
    Alike (x.carry (Prod.map (Scalar.mapPos x.move) (Scalar.mapPos x.move)))
      (x.inner.readOffsetPair ts).plain (x.outer.readOffsetPair (x.extend ts)).plain := by
  cases ts with
  | nil =>
    have first := readExpression_alike []
    rw [Reader.plain_readExpression, Reader.plain_readTerm, Reader.plain_readSigned_nil,
      extend_nil] at first
    rw [Reader.plain_readOffsetPair_nil, extend_nil]
    revert first
    refine x.tail_cases (fun _ => ?_) fun stop more hs first => ?_
    · rw [Reader.plain_readOffsetPair_nil]
      exact .error _ _
    · rw [Reader.plain_readOffsetPair_cons, if_neg (by simp [hs])]
      generalize (x.outer.readExpression (stop :: more)).plain = r at first ⊢
      cases first
      exact .error _ _
  | cons t ts =>
    have bare := readExpression_alike (t :: ts)
    rw [extend_cons] at bare ⊢
    rw [Reader.plain_readOffsetPair_cons, Reader.plain_readOffsetPair_cons]
    refine .ite Iff.rfl (fun _ => ?_) fun _ => ?_
    · refine x.andThen (readExpression_alike ts) fun dx rest hdx => ?_
      refine x.andThen (x.readMark_alike (by simp) "," rest) fun comma rest hcomma => ?_
      refine x.andThen (readExpression_alike rest) fun dy rest hdy => ?_
      exact x.andThen (x.readMark_alike (by simp) ")" rest) fun close rest hlt => .of_eq_ok rfl
    · refine x.andThen bare fun dx rest hdx => ?_
      refine x.andThen (x.readMark_alike (by simp) "," rest) fun comma rest hcomma => ?_
      exact x.andThen (readExpression_alike rest) fun dy rest hdy => .of_eq_ok rfl
termination_by 16 * ts.length + 5
decreasing_by
  all_goals
    try simp only [List.length_cons] at *
    omega

theorem readPositionPrimary_alike (ts : List Token) :
    Alike (x.carry (Position.mapPos x.move)) (x.inner.readPositionPrimary ts).plain
      (x.outer.readPositionPrimary (x.extend ts)).plain := by
  have again := readGroupOrPlace_alike ts
  have first := readExpression_alike ts
  rw [Reader.plain_readPositionPrimary, Reader.plain_readPositionPrimary, isWord_peek_extend]
  refine .ite Iff.rfl (fun h => ?_) fun _ => ?_
  · refine x.andThen (x.readWord_alike "between" ts) fun keyword rest hlt => ?_
    refine x.andThen (readEnds_alike rest) fun ends left _ => .of_eq_ok ?_
    rw [x.pos_peek_extend (by omega)]
    rfl
  · generalize hi : (x.inner.readExpression ts).plain = r at first
    generalize (x.outer.readExpression (x.extend ts)).plain = r' at first
    cases first with
    | error d e => exact again
    | ok p =>
      have hlt := Reading.length_lt_of_plain hi
      have after := readAfterScalar_alike (x.inner.peek ts).pos p.1 p.2
      rw [← x.pos_peek_extend (by omega)] at after
      refine after.bind fun q _ => ?_
      cases q with
      | none => exact again
      | some q => exact .ok q
termination_by 16 * ts.length + 7

theorem readEnds_alike (ts : List Token) :
    Alike (x.carry (Prod.map (Position.mapPos x.move) (Position.mapPos x.move)))
      (x.inner.readEnds ts).plain (x.outer.readEnds (x.extend ts)).plain := by
  rw [Reader.plain_readEnds, Reader.plain_readEnds]
  refine x.andThen (readPosition_alike ts) fun a rest ha => ?_
  refine x.andThen (x.readWord_alike "and" rest) fun conjunction rest hconjunction => ?_
  exact x.andThen (readPosition_alike rest) fun b rest hb => .of_eq_ok rfl
termination_by 16 * ts.length + 9
decreasing_by
  all_goals
    dsimp only at *
    omega

theorem readGroupOrPlace_alike (ts : List Token) :
    Alike (x.carry (Position.mapPos x.move)) (x.inner.readGroupOrPlace ts).plain
      (x.outer.readGroupOrPlace (x.extend ts)).plain := by
  cases ts with
  | nil =>
    have place := x.readPlace_alike []
    rw [extend_nil] at place
    rw [extend_nil, Reader.plain_readGroupOrPlace_nil]
    revert place
    refine x.tail_cases (fun _ => ?_) fun stop more hs place => ?_
    · rw [Reader.plain_readGroupOrPlace_nil]
      exact .error _ _
    · rw [Reader.plain_readGroupOrPlace_cons, if_neg (by simp [hs])]
      exact place
  | cons t ts =>
    have place := x.readPlace_alike (t :: ts)
    rw [extend_cons] at place ⊢
    rw [Reader.plain_readGroupOrPlace_cons, Reader.plain_readGroupOrPlace_cons]
    refine .ite Iff.rfl (fun _ => ?_) fun _ => place
    refine x.andThen (readPosition_alike ts) fun first left hfirst => ?_
    cases left with
    | nil =>
      dsimp only [extend_nil]
      refine x.tail_cases (.error _ _) fun stop more hs => ?_
      dsimp only
      rw [hs]
      exact .error _ _
    | cons u more =>
      dsimp only [extend_cons]
      rw [Token.mapPos_kind]
      rw [List.length_cons] at hfirst
      cases u.kind
      case comma =>
        refine x.andThen (readPosition_alike more) fun second rest hsecond => ?_
        exact x.andThen (x.readMark_alike (by simp) ")" rest) fun close rest hlt => .of_eq_ok rfl
      case rparen => exact .of_eq_ok rfl
      all_goals exact .error _ _
termination_by 16 * ts.length + 6
decreasing_by
  all_goals
    simp only [List.length_cons] at *
    omega

theorem readAfterScalar_alike (pos : SourcePos) (leading : Scalar) (ts : List Token) :
    Alike (Option.map (x.carry (Position.mapPos x.move)))
      (Reading.plain? (x.inner.readAfterScalar pos leading ts))
      (Reading.plain? (x.outer.readAfterScalar (x.move pos) (leading.mapPos x.move)
        (x.extend ts))) := by
  cases ts with
  | nil =>
    rw [extend_nil, Reader.plain?_readAfterScalar_nil]
    refine x.tail_cases ?_ fun stop more hs => ?_
    · rw [Reader.plain?_readAfterScalar_nil]
      exact .ok none
    · rw [Reader.plain?_readAfterScalar_cons, hs]
      exact .ok none
  | cons t ts =>
    rw [extend_cons, Reader.plain?_readAfterScalar_cons, Reader.plain?_readAfterScalar_cons,
      Token.mapPos_kind, Token.mapPos_text]
    cases t.kind
    case comma => exact x.andThen (readExpression_alike ts) fun y rest hlt => .of_eq_ok rfl
    case less =>
      refine x.andThen (readPosition_alike ts) fun a rest ha => ?_
      refine x.andThen (x.readMark_alike (by simp) "," rest) fun comma rest hcomma => ?_
      refine x.andThen (readPosition_alike rest) fun b rest hb => ?_
      exact x.andThen (x.readMark_alike (by simp) ">" rest) fun close rest hlt => .of_eq_ok rfl
    case word =>
      refine .ite (x.beginsFraction_extend t ts) (fun h => ?_) fun _ => ?_
      · rw [x.extend_drop_two h.2.1 h.2.2]
        refine x.andThen (x.readWord_alike "between" (ts.drop 2)) fun between rest hbetween => ?_
        have := (List.drop_sublist 2 ts).length_le
        exact x.andThen (readEnds_alike rest) fun ends rest hends => .of_eq_ok rfl
      · cases Reader.relativeSide? t.text with
        | some side =>
          have := Reader.length_skipWord_le "of" ts
          dsimp only
          rw [extend_skipWord]
          exact x.andThen (readPosition_alike _) fun base rest hbase => .of_eq_ok rfl
        | none =>
          refine .ite Iff.rfl (fun _ => ?_) fun _ => .ok none
          refine x.andThen (readExpression_alike ts) fun angle rest hangle => ?_
          refine x.andThen (x.readWord_alike "from" rest) fun source rest hsource => ?_
          exact x.andThen (readPosition_alike rest) fun base rest hbase => .of_eq_ok rfl
    all_goals exact .ok none
termination_by 16 * ts.length
decreasing_by
  all_goals
    simp only [List.length_cons] at *
    omega

end

end Continuation

end DiagramScript
