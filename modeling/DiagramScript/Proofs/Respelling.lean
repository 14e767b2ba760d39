import DiagramScript.Proofs.LeadingNumbers

/-!
# Labels under other spellings

A label may be spelled in any way, as long as nothing else is read in its place.  Here labels are
spelled anew, each at its place, in tokens and in what is made of them; references to objects do
not look at the spelling.  Numbers do: a label that names a colour is one.

* `Token.respell`, `ObjectRef.respell`, `Scalar.respell`, `Position.respell` — the same with other
  labels.
* `Respelling` — new spellings of the labels that a reader reads.
* `Respelling.settled` — whether no label that becomes the name of a colour stands before
  something that goes on with a number; `settled_of_same_colors` gives a simple case.
* `Respelling.readObjectRef_together`, `Respelling.readPlace_together` — references are read as
  before.
-/

namespace DiagramScript

/-! ## Other labels -/

section

variable (f : SourcePos → String → String)

/-- The token, spelled anew if it is a label. -/
def Token.respell (t : Token) : Token :=
  if t.kind = .label then { t with text := f t.pos t.text } else t

namespace Token

@[simp] theorem respell_kind (t : Token) : (t.respell f).kind = t.kind := by
  rw [respell]
  split <;> rfl

@[simp] theorem respell_pos (t : Token) : (t.respell f).pos = t.pos := by
  rw [respell]
  split <;> rfl

theorem respell_of_label {t : Token} (h : t.kind = .label) :
    t.respell f = { t with text := f t.pos t.text } :=
  if_pos h

theorem respell_of_ne_label {t : Token} (h : t.kind ≠ .label) : t.respell f = t := if_neg h

@[simp] theorem isWord_respell (t : Token) (word : String) :
    (t.respell f).isWord word = t.isWord word := by
  by_cases h : t.kind = .label
  · simp [isWord, h]
  · rw [respell_of_ne_label f h]

end Token

/-- The selector with another label at the given place. -/
def Selector.respell (pos : SourcePos) : Selector → Selector
  | label name => label (f pos name)
  | ordinal cls n fromLast => ordinal cls n fromLast

/-- The reference with other labels. -/
def ObjectRef.respell : ObjectRef → ObjectRef
  | previous p => previous p
  | select p s => select p (s.respell f p)
  | member p group q s => member p group.respell q (s.respell f q)

mutual

/-- The expression with other labels. -/
def Scalar.respell : Scalar → Scalar
  | .number p value unit => .number p value unit
  | .percent p value => .percent p value
  | .var p name => .var p name
  | .color p name => .color p name
  | .neg p e => .neg p (Scalar.respell e)
  | .binary p op a b => .binary p op (Scalar.respell a) (Scalar.respell b)
  | .call p function args => .call p function (scalarsRespell args)
  | .dist p args => .dist p (positionsRespell args)
  | .coordinate p q axis => .coordinate p (Position.respell q) axis
  | .property p ref what => .property p (ref.respell f) what

/-- Some expressions with other labels. -/
def scalarsRespell : List Scalar → List Scalar
  | [] => []
  | e :: es => Scalar.respell e :: scalarsRespell es

/-- Some positions with other labels. -/
def positionsRespell : List Position → List Position
  | [] => []
  | q :: qs => Position.respell q :: positionsRespell qs

/-- The position with other labels. -/
def Position.respell : Position → Position
  | .pair p x y => .pair p (Scalar.respell x) (Scalar.respell y)
  | .object p ref anchor => .object p (ref.respell f) anchor
  | .vertex p n ref fromLast => .vertex p n (ref.respell f) fromLast
  | .offset p base dx dy backward =>
    .offset p (Position.respell base) (Scalar.respell dx) (Scalar.respell dy) backward
  | .mix p a b => .mix p (Position.respell a) (Position.respell b)
  | .relative p distance side base =>
    .relative p (Scalar.respell distance) side (Position.respell base)
  | .heading p distance angle base =>
    .heading p (Scalar.respell distance) (Scalar.respell angle) (Position.respell base)
  | .between p none a b => .between p none (Position.respell a) (Position.respell b)
  | .between p (some fraction) a b =>
    .between p (some (Scalar.respell fraction)) (Position.respell a) (Position.respell b)

end

theorem scalarsRespell_eq_map (es : List Scalar) :
    scalarsRespell f es = es.map (Scalar.respell f) := by
  induction es with
  | nil => rw [scalarsRespell, List.map_nil]
  | cons e es ih => rw [scalarsRespell, ih, List.map_cons]

theorem positionsRespell_eq_map (qs : List Position) :
    positionsRespell f qs = qs.map (Position.respell f) := by
  induction qs with
  | nil => rw [positionsRespell, List.map_nil]
  | cons q qs ih => rw [positionsRespell, ih, List.map_cons]

theorem Scalar.respell_call (p : SourcePos) (function : ScalarFunction) (args : List Scalar) :
    (Scalar.call p function args).respell f = .call p function (args.map (Scalar.respell f)) := by
  rw [Scalar.respell, scalarsRespell_eq_map]

theorem Scalar.respell_dist (p : SourcePos) (args : List Position) :
    (Scalar.dist p args).respell f = .dist p (args.map (Position.respell f)) := by
  rw [Scalar.respell, positionsRespell_eq_map]

end

/-! ## Where a spelling matters -/

/-- Whether what follows the token can only be part of a reference to an object: the label of a
member, or the group that an object is in. -/
def Token.opensReference (t : Token) : Bool := t.kind = .dot || t.isWord "in"

/-- Whether a token of the kind may do so. -/
def TokenKind.mayOpenReference : TokenKind → Bool
  | dot | word => true
  | _ => false

theorem Token.opensReference_of_kind (t : Token) (h : t.kind.mayOpenReference = false) :
    t.opensReference = false := by
  rw [opensReference, Bool.or_eq_false_iff, decide_eq_false_iff_not, isWord,
    Bool.and_eq_false_iff, decide_eq_false_iff_not]
  constructor
  · rintro hd
    rw [hd] at h
    cases h
  · left
    rintro hw
    rw [hw] at h
    cases h

/-- New spellings of the labels that a reader reads. -/
structure Respelling where
  /-- What reading depends on. -/
  reader : Reader
  /-- The new spelling of the label at a place. -/
  spell : SourcePos → String → String

namespace Respelling

variable (x : Respelling)

/-- The token in its new spelling. -/
def token (t : Token) : Token := t.respell x.spell

/-- The tokens in their new spelling. -/
def tokens (ts : List Token) : List Token := ts.map x.token

/-- Whether only the new spelling of a label names a colour. -/
def becomesColor (t following : Token) : Bool :=
  !x.reader.namesColor t following && x.reader.namesColor (x.token t) following

/-- If tokens begin with a label that becomes the name of a colour, perhaps behind signs and in
parentheses: the tokens after it. -/
def afterColor? : List Token → Option (List Token)
  | [] => none
  | t :: rest =>
    match t.kind with
    | .label => if x.becomesColor t (x.reader.peek rest) then some rest else none
    | .plus => afterColor? rest
    | .minus => afterColor? rest
    | .lparen =>
      match afterColor? rest with
      | some (u :: more) => if u.kind = .rparen then some more else none
      | _ => none
    | _ => none

/-- Whether a label that becomes the name of a colour never stands before something that goes on
with a number, unless it is part of a longer reference; `inside` such a reference, the first
label is. -/
def settled (inside : Bool) : List Token → Bool
  | [] => true
  | t :: rest =>
    (inside || (x.afterColor? (t :: rest)).all fun after =>
        !x.reader.extendsNumber (x.tokens after) && !x.reader.makesPosition after) &&
      settled t.opensReference rest

/-- Whether no label is spelled anew after one that names a colour, nor that label itself. -/
def Kept : List Token → Prop
  | [] => True
  | t :: rest =>
    (t.kind = .label → x.reader.colors.knows t.text = true → x.tokens (t :: rest) = t :: rest) ∧
      Kept rest

/-- Tokens that are read as before in their new spelling. -/
structure Ready (inside : Bool) (ts : List Token) : Prop where
  /-- No new name of a colour can be taken for a number. -/
  settled : x.settled inside ts = true
  /-- The old names of colours are left alone. -/
  kept : x.Kept ts

/-- What is read, with other labels, and the tokens after it in their new spelling. -/
def carry {α : Type} (k : α → α) (p : α × List Token) : α × List Token := (k p.1, x.tokens p.2)

/-- Two answers that are the same up to labels, where the tokens that are left are ready. -/
def Same {α : Type} (k : α → α) (p p' : α × List Token) : Prop :=
  p' = x.carry k p ∧ x.Ready false p.2

/-! ### Looking ahead -/

@[simp] theorem tokens_nil : x.tokens [] = [] := rfl

@[simp] theorem tokens_cons (t : Token) (ts : List Token) :
    x.tokens (t :: ts) = x.token t :: x.tokens ts := rfl

@[simp] theorem tokens_drop (n : Nat) (ts : List Token) :
    (x.tokens ts).drop n = x.tokens (ts.drop n) :=
  (List.map_drop).symm

@[simp] theorem token_kind (t : Token) : (x.token t).kind = t.kind := Token.respell_kind _ t

@[simp] theorem token_pos (t : Token) : (x.token t).pos = t.pos := Token.respell_pos _ t

@[simp] theorem token_isWord (t : Token) (word : String) :
    (x.token t).isWord word = t.isWord word := Token.isWord_respell _ t word

theorem token_of_ne_label {t : Token} (h : t.kind ≠ .label) : x.token t = t :=
  Token.respell_of_ne_label _ h

theorem token_text_of_label {t : Token} (h : t.kind = .label) :
    (x.token t).text = x.spell t.pos t.text := by
  rw [token, Token.respell_of_label _ h]

theorem token_text_of_word {t : Token} (h : t.kind = .word) : (x.token t).text = t.text := by
  rw [x.token_of_ne_label (by simp [h])]

@[simp] theorem kind_peek_tokens (ts : List Token) :
    (x.reader.peek (x.tokens ts)).kind = (x.reader.peek ts).kind := by
  cases ts <;> simp

@[simp] theorem isWord_peek_tokens (ts : List Token) (word : String) :
    (x.reader.peek (x.tokens ts)).isWord word = (x.reader.peek ts).isWord word := by
  cases ts <;> simp

@[simp] theorem isWord_peekSecond_tokens (ts : List Token) (word : String) :
    (x.reader.peekSecond (x.tokens ts)).isWord word =
      (x.reader.peekSecond ts).isWord word := by
  cases ts <;> simp

@[simp] theorem pos_peek_tokens (ts : List Token) :
    (x.reader.peek (x.tokens ts)).pos = (x.reader.peek ts).pos := by
  cases ts <;> simp

@[simp] theorem tokens_skipWord (word : String) (ts : List Token) :
    Reader.skipWord word (x.tokens ts) = x.tokens (Reader.skipWord word ts) := by
  cases ts with
  | nil => rfl
  | cons t ts =>
    rw [tokens_cons, Reader.skipWord, Reader.skipWord, token_isWord]
    split_ifs <;> rfl

/-! ### Spellings that change no colours -/

theorem afterColor?_eq_none {ts : List Token} (h : ∀ t ∈ ts, t.kind = .label →
    x.reader.colors.knows (x.token t).text = x.reader.colors.knows t.text) :
    x.afterColor? ts = none := by
  induction ts with
  | nil => rfl
  | cons t ts ih =>
    have rest := ih fun u hu => h u (List.mem_cons_of_mem t hu)
    rw [afterColor?]
    cases hk : t.kind <;> dsimp only
    case label =>
      have same : x.reader.namesColor (x.token t) (x.reader.peek ts) =
          x.reader.namesColor t (x.reader.peek ts) := by
        rw [Reader.namesColor, h t List.mem_cons_self hk]
        rfl
      rw [becomesColor, same, Bool.not_and_self]
      rfl
    case plus => exact rest
    case minus => exact rest
    case lparen => rw [rest]

/-- A spelling that names a colour where the old one does, and nowhere else, takes nothing for a
number. -/
theorem settled_of_same_colors (inside : Bool) {ts : List Token} (h : ∀ t ∈ ts, t.kind = .label →
    x.reader.colors.knows (x.token t).text = x.reader.colors.knows t.text) :
    x.settled inside ts = true := by
  induction ts generalizing inside with
  | nil => rfl
  | cons t ts ih =>
    rw [settled, x.afterColor?_eq_none h, ih _ fun u hu => h u (List.mem_cons_of_mem t hu)]
    exact Bool.and_eq_true _ _ ▸ ⟨Bool.or_true _, rfl⟩

/-! ### Tokens that are ready -/

namespace Ready

variable {x} {inside : Bool} {t : Token} {ts : List Token}

theorem nil : x.Ready inside [] := ⟨rfl, trivial⟩

theorem next (h : x.Ready inside (t :: ts)) : x.Ready t.opensReference ts :=
  ⟨(Bool.and_eq_true _ _ ▸ h.settled).2, h.kept.2⟩

/-- After a token that is neither a dot nor a word. -/
theorem tail (h : x.Ready inside (t :: ts)) {kind : TokenKind} (hk : t.kind = kind)
    (ho : kind.mayOpenReference = false) : x.Ready false ts := by
  have := h.next
  rwa [t.opensReference_of_kind (hk ▸ ho)] at this

/-- After a word other than `in`. -/
theorem tail_word (h : x.Ready inside (t :: ts)) (hw : t.kind = .word) (ht : t.text ≠ "in") :
    x.Ready false ts := by
  have := h.next
  rwa [Token.opensReference, Token.isWord, decide_eq_false (by simp [hw]), decide_eq_false ht,
    Bool.and_false, Bool.or_false] at this

theorem tail_isWord {word : String} (h : x.Ready inside (t :: ts)) (hw : t.isWord word = true)
    (hne : word ≠ "in") : x.Ready false ts := by
  obtain ⟨hk, rfl⟩ := Token.isWord_iff.1 hw
  exact h.tail_word hk hne

theorem unchanged (h : x.Ready inside (t :: ts)) (ht : t.kind = .label)
    (hc : x.reader.colors.knows t.text = true) : x.tokens (t :: ts) = t :: ts :=
  h.kept.1 ht hc

end Ready

/-! ### Single tokens -/

theorem readToken_together {ok : Token → Bool} {what : Expected} {ts : List Token}
    (hok : ∀ t, ok (x.token t) = ok t)
    (ready : ∀ t rest, ts = t :: rest → ok t = true → x.Ready false rest) :
    Together (x.Same x.token) (x.reader.readToken ok what ts).plain
      (x.reader.readToken ok what (x.tokens ts)).plain := by
  cases ts with
  | nil => exact .error _ _
  | cons t ts =>
    rw [tokens_cons, Reader.plain_readToken_cons, Reader.plain_readToken_cons, hok]
    by_cases ht : ok t = true
    · rw [if_pos ht, if_pos ht]
      exact .ok ⟨rfl, ready t ts rfl ht⟩
    · rw [if_neg ht, if_neg ht]
      exact .error _ _

theorem readMark_together {kind : TokenKind} (ho : kind.mayOpenReference = false)
    {mark : String} {inside : Bool} {ts : List Token} (h : x.Ready inside ts) :
    Together (x.Same x.token) (x.reader.readMark kind mark ts).plain
      (x.reader.readMark kind mark (x.tokens ts)).plain := by
  refine x.readToken_together (fun t => by rw [token_kind]) ?_
  rintro t rest rfl ht
  exact h.tail (of_decide_eq_true ht) ho

theorem readWord_together {word : String} (hne : word ≠ "in") {inside : Bool} {ts : List Token}
    (h : x.Ready inside ts) :
    Together (x.Same x.token) (x.reader.readWord word ts).plain
      (x.reader.readWord word (x.tokens ts)).plain := by
  refine x.readToken_together (fun t => x.token_isWord t word) ?_
  rintro t rest rfl ht
  exact h.tail_isWord ht hne

/-! ### References -/

theorem plainMembers_same (pos : SourcePos) (group : ObjectRef) {ts : List Token}
    (h : x.Ready false ts) :
    x.Same (ObjectRef.respell x.spell) (Reader.plainMembers pos group ts)
      (Reader.plainMembers pos (group.respell x.spell) (x.tokens ts)) := by
  match ts with
  | [] =>
    rw [tokens_nil, Reader.plainMembers_nil, Reader.plainMembers_nil]
    exact ⟨rfl, h⟩
  | [d] =>
    rw [tokens_cons, tokens_nil, Reader.plainMembers_singleton, Reader.plainMembers_singleton]
    exact ⟨rfl, h⟩
  | d :: l :: ts =>
    rw [tokens_cons, tokens_cons, Reader.plainMembers_cons_cons, Reader.plainMembers_cons_cons,
      token_kind, token_kind]
    by_cases hd : d.kind = .dot ∧ l.kind = .label
    · rw [if_pos hd, if_pos hd, token_pos, x.token_text_of_label hd.2]
      exact plainMembers_same pos (.member pos group l.pos (.label l.text))
        (h.next.tail hd.2 rfl)
    · rw [if_neg hd, if_neg hd]
      exact ⟨rfl, h⟩

theorem readClass_together {inside : Bool} {ts : List Token} (h : x.Ready inside ts) :
    Together (x.Same id) (x.reader.readClass ts).plain
      (x.reader.readClass (x.tokens ts)).plain := by
  cases ts with
  | nil => exact .error _ _
  | cons t ts =>
    rw [tokens_cons, Reader.plain_readClass_cons, Reader.plain_readClass_cons, token_kind]
    cases hk : t.kind <;> dsimp only
    case word =>
      rw [x.token_text_of_word hk]
      cases hc : ObjectClass.ofKeyword? t.text with
      | none => exact .error _ _
      | some cls =>
        have noClass : ObjectClass.ofKeyword? "in" = none := by decide
        refine .ok ⟨rfl, h.tail_word hk fun ht => ?_⟩
        rw [ht, noClass] at hc
        cases hc
    case lbracket =>
      have rest := h.tail hk rfl
      cases ts with
      | nil => exact .error _ _
      | cons u ts =>
        rw [tokens_cons]
        dsimp only
        rw [token_kind]
        by_cases hu : u.kind = .rbracket
        · rw [if_pos hu, if_pos hu]
          exact .ok ⟨rfl, rest.tail hu rfl⟩
        · rw [if_neg hu, if_neg hu]
          exact .error _ _
    all_goals exact .error _ _

theorem plainOrdinal?_tokens (ts : List Token) :
    Reader.plainOrdinal? (x.tokens ts) = (Reader.plainOrdinal? ts).map (x.carry id) := by
  cases ts with
  | nil => rfl
  | cons t ts =>
    rw [tokens_cons, Reader.plainOrdinal?_cons, Reader.plainOrdinal?_cons, token_kind, token_isWord]
    cases t.kind
    case nth n =>
      cases ts with
      | nil => rfl
      | cons u ts =>
        dsimp only [tokens_cons]
        rw [token_isWord]
        split_ifs <;> rfl
    all_goals
      dsimp only
      split_ifs <;> rfl

theorem Ready.ordinal {x : Respelling} {inside : Bool} {ts : List Token} (h : x.Ready inside ts)
    {p : (Nat × Bool) × List Token} (hp : Reader.plainOrdinal? ts = some p) :
    x.Ready false p.2 := by
  cases ts with
  | nil => cases hp
  | cons t ts =>
    rw [Reader.plainOrdinal?_cons] at hp
    cases hk : t.kind <;> rw [hk] at hp <;> dsimp only at hp
    case nth n =>
      have rest := h.tail hk rfl
      cases ts with
      | nil =>
        cases hp
        exact rest
      | cons u ts =>
        dsimp only at hp
        split_ifs at hp with hu <;> cases hp
        · exact rest.tail_isWord hu (by decide)
        · exact rest
    case word =>
      split_ifs at hp with ht
      cases hp
      exact h.tail_isWord ht (by decide)
    all_goals simp [Token.isWord, hk] at hp

/-- References are read as before. -/
theorem readObjectRef_together {inside : Bool} {ts : List Token} (h : x.Ready inside ts) :
    Together (x.Same (ObjectRef.respell x.spell)) (x.reader.readObjectRef ts).plain
      (x.reader.readObjectRef (x.tokens ts)).plain := by
  match ts, h with
  | [], _ =>
    rw [tokens_nil, Reader.plain_readObjectRef_nil]
    exact .error _ _
  | t :: ts, h =>
    have place := x.plainOrdinal?_tokens (t :: ts)
    rw [tokens_cons] at place ⊢
    rw [Reader.plain_readObjectRef_cons, Reader.plain_readObjectRef_cons, place, token_kind,
      token_isWord, token_pos]
    by_cases hl : t.kind = .label
    · rw [if_pos hl, if_pos hl, x.token_text_of_label hl]
      exact .ok (x.plainMembers_same t.pos (.select t.pos (.label t.text))
        (h.tail hl rfl))
    rw [if_neg hl, if_neg hl]
    by_cases hp : t.isWord "previous" = true
    · rw [if_pos hp, if_pos hp]
      exact .ok (x.plainMembers_same t.pos (.previous t.pos) (h.tail_isWord hp (by decide)))
    rw [if_neg hp, if_neg hp]
    cases ho : Reader.plainOrdinal? (t :: ts) with
    | none => exact .error _ _
    | some p =>
      have shorter : p.2.length < (t :: ts).length := by
        obtain ⟨q, -, rfl⟩ := Option.map_eq_some_iff.1 ho
        exact q.shorter
      refine (x.readClass_together (h.ordinal ho)).bind fun cls cls' hcls hs => ?_
      obtain ⟨cls, left⟩ := cls
      obtain ⟨rfl, left_ready⟩ := hs
      cases left with
      | nil => exact .ok ⟨rfl, left_ready⟩
      | cons u more =>
        dsimp only [carry, tokens_cons, id]
        rw [token_isWord]
        by_cases hu : u.isWord "in" = true
        · have hleft := Reading.length_lt_of_plain hcls
          rw [if_pos hu, if_pos hu]
          refine (readObjectRef_together left_ready.next).bind fun group group' _ hs => ?_
          obtain ⟨rfl, ready⟩ := hs
          exact .ok (x.plainMembers_same t.pos
            (.member t.pos group.1 t.pos (.ordinal cls p.1.1 p.1.2)) ready)
        · rw [if_neg hu, if_neg hu]
          exact .ok (x.plainMembers_same t.pos (.select t.pos (.ordinal cls p.1.1 p.1.2))
            left_ready)
termination_by ts.length
decreasing_by
  simp only [List.length_cons] at *
  omega

/-! ### Positions named by an object -/

theorem anchorOf?_token (t : Token) : Reader.anchorOf? (x.token t) = Reader.anchorOf? t := by
  by_cases h : t.kind = .label
  · rw [Reader.anchorOf?, Reader.anchorOf?, token_kind, h]
  · rw [x.token_of_ne_label h]

/-- What names an anchor does not open a reference. -/
theorem Ready.anchor {x : Respelling} {inside : Bool} {t : Token} {ts : List Token}
    (h : x.Ready inside (t :: ts)) {a : Anchor} (ha : Reader.anchorOf? t = some a) :
    x.Ready false ts := by
  rw [Reader.anchorOf?] at ha
  cases hk : t.kind <;> rw [hk] at ha <;> dsimp only at ha
  case edge => exact h.tail hk rfl
  case word =>
    have noAnchor : Reader.anchorWords.contains "in" = false := by decide
    refine h.tail_word hk fun ht => ?_
    rw [ht, noAnchor] at ha
    cases ha
  all_goals cases ha

theorem readVertex_together (pos : SourcePos) (place : Nat × Bool) {ts : List Token}
    (h : x.Ready false ts) :
    Together (Option.Rel (x.Same (Position.respell x.spell)))
      (Reading.plain? (x.reader.readVertex pos place ts))
      (Reading.plain? (x.reader.readVertex pos place (x.tokens ts))) := by
  cases ts with
  | nil => exact .ok .none
  | cons t ts =>
    rw [tokens_cons, Reader.plain?_readVertex_cons, Reader.plain?_readVertex_cons, token_isWord]
    by_cases ht : t.isWord "vertex" = true
    · rw [if_pos ht, if_pos ht]
      refine (x.readWord_together (by decide) (h.tail_isWord ht (by decide))).bind
        fun ofWord ofWord' _ hof => ?_
      obtain ⟨rfl, ready⟩ := hof
      refine (x.readObjectRef_together ready).bind fun ref ref' _ href => ?_
      obtain ⟨rfl, ready⟩ := href
      exact .ok (.some ⟨rfl, ready⟩)
    · rw [if_neg ht, if_neg ht]
      exact .ok .none

theorem readObjectPlace_together (pos : SourcePos) {inside : Bool} {ts : List Token}
    (h : x.Ready inside ts) :
    Together (x.Same (Position.respell x.spell)) (x.reader.readObjectPlace pos ts).plain
      (x.reader.readObjectPlace pos (x.tokens ts)).plain := by
  rw [Reader.plain_readObjectPlace, Reader.plain_readObjectPlace]
  refine (x.readObjectRef_together h).bind fun ref ref' _ href => ?_
  obtain ⟨ref, left⟩ := ref
  obtain ⟨rfl, ready⟩ := href
  cases left with
  | nil => exact .ok ⟨rfl, ready⟩
  | cons t left =>
    dsimp only [carry, tokens_cons]
    rw [token_kind]
    cases hk : t.kind
    case edge a => exact .ok ⟨rfl, ready.tail hk rfl⟩
    all_goals exact .ok ⟨rfl, ready⟩

theorem plainUnanchored_together (pos : SourcePos) {inside : Bool} {ts : List Token}
    (h : x.Ready inside ts) :
    Together (x.Same (Position.respell x.spell)) (x.reader.plainUnanchored pos ts)
      (x.reader.plainUnanchored pos (x.tokens ts)) := by
  have whole := x.readObjectPlace_together pos h
  unfold Reader.plainUnanchored
  rw [plainOrdinal?_tokens]
  cases hp : Reader.plainOrdinal? ts with
  | none => exact whole
  | some p =>
    refine (x.readVertex_together pos p.1 (h.ordinal hp)).bind fun v v' _ hv => ?_
    cases hv with
    | none => exact whole
    | some hv => exact .ok hv

/-- Positions named by an object are read as before. -/
theorem readPlace_together {inside : Bool} {ts : List Token} (h : x.Ready inside ts) :
    Together (x.Same (Position.respell x.spell)) (x.reader.readPlace ts).plain
      (x.reader.readPlace (x.tokens ts)).plain := by
  cases ts with
  | nil => exact .error _ _
  | cons t ts =>
    have unanchored := x.plainUnanchored_together t.pos h
    rw [tokens_cons] at unanchored ⊢
    rw [Reader.plain_readPlace_cons, Reader.plain_readPlace_cons, anchorOf?_token,
      isWord_peek_tokens, token_pos]
    cases ha : Reader.anchorOf? t with
    | none => exact unanchored
    | some a =>
      cases hof : (x.reader.peek ts).isWord "of" with
      | false => exact unanchored
      | true =>
        have ready : x.Ready false (ts.drop 1) := by
          cases ts with
          | nil => exact .nil
          | cons u ts => exact (h.anchor ha).tail_isWord hof (by decide)
        dsimp only
        rw [tokens_drop]
        refine (x.readObjectRef_together ready).bind fun ref ref' _ href => ?_
        obtain ⟨rfl, ready⟩ := href
        exact .ok ⟨rfl, ready⟩

/-! ### Numbers made of objects -/

theorem scalarOfPlace?_respell (pos : SourcePos) (place : Position) (word : String) :
    Reader.scalarOfPlace? pos (place.respell x.spell) word =
      (Reader.scalarOfPlace? pos place word).map (Scalar.respell x.spell) := by
  unfold Reader.scalarOfPlace?
  cases Reader.axisOf? word with
  | some axis => rfl
  | none =>
    dsimp only
    cases place
    case object p ref anchor =>
      cases anchor with
      | some a => rfl
      | none => cases Property.ofWord? word <;> rfl
    case between p fraction a b => cases fraction <;> rfl
    all_goals rfl

theorem scalarOfPlace?_in (pos : SourcePos) (place : Position) :
    Reader.scalarOfPlace? pos place "in" = none := by
  have noAxis : Reader.axisOf? "in" = none := by decide
  have noProperty : Property.ofWord? "in" = none := by decide
  unfold Reader.scalarOfPlace?
  rw [noAxis]
  dsimp only
  rw [noProperty]
  cases place
  case object p ref anchor => cases anchor <;> rfl
  all_goals rfl

theorem readPlaceScalar_together {inside : Bool} {ts : List Token} (h : x.Ready inside ts) :
    Together (x.Same (Scalar.respell x.spell)) (x.reader.readPlaceScalar ts).plain
      (x.reader.readPlaceScalar (x.tokens ts)).plain := by
  rw [Reader.plain_readPlaceScalar, Reader.plain_readPlaceScalar]
  refine (x.readPlace_together h).bind fun place place' _ hplace => ?_
  obtain ⟨place, left⟩ := place
  obtain ⟨rfl, ready⟩ := hplace
  rcases left with - | ⟨d, - | ⟨w, rest⟩⟩
  · exact .error _ _
  · exact .error _ _
  · dsimp only [carry, tokens_cons]
    rw [pos_peek_tokens, token_kind, token_kind]
    by_cases hw : d.kind = .dot ∧ w.kind = .word
    · rw [if_pos hw, if_pos hw, x.token_text_of_word hw.2, scalarOfPlace?_respell]
      cases hs : Reader.scalarOfPlace? (x.reader.peek ts).pos place w.text with
      | none => exact .error _ _
      | some s =>
        refine .ok ⟨rfl, ready.next.tail_word hw.2 fun hin => ?_⟩
        rw [hin, scalarOfPlace?_in] at hs
        cases hs
    · rw [if_neg hw, if_neg hw]
      exact .error _ _

end Respelling

end DiagramScript
