import DiagramScript.Proofs.ReadingSteps

/-!
# Walks over tokens

The readers take what is left of a list of tokens.  A parser that keeps all tokens and an index
into them reads the same: here is what such a parser can do with its index, and what it means
that it reads as a reader does.

* `Step`, `Trail` — what may happen to an index: it goes on by one token, or back to where a call
  that is still going on has saved it; a pass of a loop leads to another only further on.
* `Trail.addresses` — an index that moves so addresses a token, with no end of a script before it.
* `Walk` — a computation that moves an index, stops with a mistake or not, and logs its moves.
* `Follows` — a walk that leaves a trail, and answers as a reader of the tokens from its index on.
-/

namespace DiagramScript

variable {α β γ : Type}

/-! ## Trails -/

/-- The loops of a parser. -/
inductive Loop where
  /-- Over the statements of a script or a group. -/
  | statements
  /-- Over the ends of statements before a statement. -/
  | ends
  /-- Over the clauses of a declaration. -/
  | attributes
  /-- Over what is printed. -/
  | items
  /-- Over the arguments of a function. -/
  | arguments
  /-- Over what is added and subtracted. -/
  | sums
  /-- Over what is multiplied and divided. -/
  | factors
  /-- Over the offsets after a position. -/
  | offsets
  /-- Over the members of groups. -/
  | members
  deriving DecidableEq, Repr

/-- What a parser does. -/
inductive Act where
  /-- It takes a token. -/
  | take
  /-- A call saves the index. -/
  | save
  /-- A call goes back to the index that it has saved. -/
  | rewind
  /-- A pass of a loop begins. -/
  | enter (l : Loop)
  /-- A pass of a loop leads to another. -/
  | again (l : Loop)
  /-- A pass of a loop, or a call that has saved the index, is over. -/
  | leave
  deriving DecidableEq, Repr

/-- Something that a parser does, and its index after that. -/
structure Event where
  /-- What it does. -/
  act : Act
  /-- The index after that. -/
  index : Nat
  deriving DecidableEq, Repr

/-- What is going on: a call that has saved an index, or a pass of a loop that began at one. -/
inductive Pending where
  /-- A call has saved the index. -/
  | saved (index : Nat)
  /-- A pass of the loop began at the index. -/
  | pass (l : Loop) (index : Nat)
  deriving DecidableEq, Repr

/-- Where a parser is: its index, and what is going on, the innermost first. -/
structure Place where
  /-- The index. -/
  index : Nat
  /-- What is going on. -/
  pending : List Pending

/-- What may happen to an index. -/
inductive Step (tokens : List Token) : Place → Event → Place → Prop where
  /-- A token is taken, unless it is the end of a script. -/
  | take {i : Nat} {outer : List Pending} {t : Token} (ht : tokens[i]? = some t)
      (hf : t.kind ≠ .eof) : Step tokens ⟨i, outer⟩ ⟨.take, i + 1⟩ ⟨i + 1, outer⟩
  /-- A call saves the index. -/
  | save {i : Nat} {outer : List Pending} :
      Step tokens ⟨i, outer⟩ ⟨.save, i⟩ ⟨i, .saved i :: outer⟩
  /-- The innermost call that is going on has saved an index, and goes back to it. -/
  | rewind {i saved : Nat} {outer : List Pending} :
      Step tokens ⟨i, .saved saved :: outer⟩ ⟨.rewind, saved⟩ ⟨saved, .saved saved :: outer⟩
  /-- A pass of a loop begins. -/
  | enter {i : Nat} {outer : List Pending} {l : Loop} :
      Step tokens ⟨i, outer⟩ ⟨.enter l, i⟩ ⟨i, .pass l i :: outer⟩
  /-- A pass of a loop leads to another: the index is larger than where it began. -/
  | again {i start : Nat} {outer : List Pending} {l : Loop} (h : start < i) :
      Step tokens ⟨i, .pass l start :: outer⟩ ⟨.again l, i⟩ ⟨i, .pass l start :: outer⟩
  /-- Something that is going on is over. -/
  | leave {i : Nat} {m : Pending} {outer : List Pending} :
      Step tokens ⟨i, m :: outer⟩ ⟨.leave, i⟩ ⟨i, outer⟩

/-- Step by step from one place to another. -/
inductive Trail (tokens : List Token) : Place → List Event → Place → Prop where
  /-- Nothing happens. -/
  | nil (p : Place) : Trail tokens p [] p
  /-- A step, and more. -/
  | cons {p q r : Place} {e : Event} {log : List Event} (h : Step tokens p e q)
      (rest : Trail tokens q log r) : Trail tokens p (e :: log) r

/-- Whether an index addresses a token that has no end of a script before it. -/
def Addresses (tokens : List Token) (i : Nat) : Prop :=
  i < tokens.length ∧ ∀ t ∈ tokens.take i, t.kind ≠ .eof

section

variable {tokens : List Token} {p q r : Place} {log log' : List Event}

theorem Step.trail {e : Event} (h : Step tokens p e q) : Trail tokens p [e] q := .cons h (.nil q)

theorem Trail.append (h : Trail tokens p log q) (h' : Trail tokens q log' r) :
    Trail tokens p (log ++ log') r := by
  induction h with
  | nil p => exact h'
  | cons h rest ih => exact .cons h (ih h')

/-- Only a call that goes back to an index it has saved makes the index smaller. -/
theorem Step.index_le {e : Event} (h : Step tokens p e q) :
    p.index ≤ q.index ∨
      e.act = .rewind ∧ ∃ outer, p.pending = .saved q.index :: outer := by
  cases h with
  | take ht hf => exact .inl (Nat.le_succ _)
  | rewind => exact .inr ⟨rfl, _, rfl⟩
  | save => exact .inl (Nat.le_refl _)
  | enter => exact .inl (Nat.le_refl _)
  | again h => exact .inl (Nat.le_refl _)
  | leave => exact .inl (Nat.le_refl _)

/-- Whether the index of a place, and all indices that can be restored there, address tokens. -/
structure Place.IsInside (tokens : List Token) (p : Place) : Prop where
  /-- The index does. -/
  index : Addresses tokens p.index
  /-- The saved ones do. -/
  saved : ∀ i, Pending.saved i ∈ p.pending → Addresses tokens i

/-- The first index addresses a token, the end of the script if there is no other. -/
theorem addresses_zero (body : List Token) (final : Token) : Addresses (body ++ [final]) 0 :=
  ⟨by simp, fun t ht => by simp at ht⟩

/-- Behind a token that does not end the script there is another. -/
theorem Addresses.succ {body : List Token} {final t : Token} {i : Nat} (hfinal : final.kind = .eof)
    (h : Addresses (body ++ [final]) i) (ht : (body ++ [final])[i]? = some t)
    (hf : t.kind ≠ .eof) : Addresses (body ++ [final]) (i + 1) := by
  have inside : i < body.length := by
    have bound := h.1
    rw [List.length_append, List.length_singleton] at bound
    refine Nat.lt_of_le_of_ne (Nat.le_of_lt_succ bound) ?_
    rintro rfl
    rw [List.getElem?_concat_length] at ht
    cases ht
    exact hf hfinal
  refine ⟨by simpa using inside, ?_⟩
  rw [List.take_add_one, ht]
  intro u hu
  rcases List.mem_append.1 hu with hu | hu
  · exact h.2 u hu
  · cases List.mem_singleton.1 hu
    exact hf

theorem Step.isInside {body : List Token} {final : Token} {e : Event}
    (hfinal : final.kind = .eof) (h : Step (body ++ [final]) p e q)
    (hp : p.IsInside (body ++ [final])) :
    e.index = q.index ∧ q.IsInside (body ++ [final]) := by
  obtain ⟨index, saved⟩ := hp
  cases h with
  | take ht hf => exact ⟨rfl, index.succ hfinal ht hf, saved⟩
  | save =>
    refine ⟨rfl, index, fun i hi => ?_⟩
    rcases List.mem_cons.1 hi with hi | hi
    · cases hi
      exact index
    · exact saved i hi
  | rewind => exact ⟨rfl, saved _ List.mem_cons_self, saved⟩
  | enter =>
    refine ⟨rfl, index, fun i hi => ?_⟩
    rcases List.mem_cons.1 hi with hi | hi
    · cases hi
    · exact saved i hi
  | again h => exact ⟨rfl, index, saved⟩
  | leave => exact ⟨rfl, index, fun i hi => saved i (List.mem_cons_of_mem _ hi)⟩

/-- Along a trail the index addresses a token, and no end of a script is passed. -/
theorem Trail.addresses {body : List Token} {final : Token} (hfinal : final.kind = .eof)
    (h : Trail (body ++ [final]) p log q) (hp : p.IsInside (body ++ [final])) :
    ∀ e ∈ log, Addresses (body ++ [final]) e.index := by
  induction h with
  | nil p => exact fun e he => absurd he List.not_mem_nil
  | cons h rest ih =>
    obtain ⟨same, inside⟩ := h.isInside hfinal hp
    intro e he
    rcases List.mem_cons.1 he with rfl | he
    · exact same ▸ inside.index
    · exact ih inside e he

end

/-! ## Walks -/

/-- A grammatical mistake, and the place that it is reported at. -/
structure Mistake where
  /-- The mistake. -/
  error : ParseError
  /-- The place. -/
  pos : SourcePos
  deriving DecidableEq, Repr

/-- How the mistake is reported. -/
def Mistake.diagnostic (m : Mistake) : Diagnostic := ⟨.parse m.error, some m.pos⟩

/-- How a walk ends. -/
structure Run (α : Type) where
  /-- What it answers. -/
  result : Except Mistake α
  /-- The index at its end. -/
  index : Nat
  /-- What it has done. -/
  log : List Event

/-- A computation that starts at an index.  It does not end if it calls itself too deeply, or if
there is no token at its index. -/
def Walk (α : Type) : Type := Nat → Option (Run α)

/-- How a pass of a loop ends. -/
inductive Turn (α β : Type) where
  /-- There is another pass. -/
  | again (next : α)
  /-- The loop is over. -/
  | done (answer : β)

namespace Walk

/-- A mistake ends a walk; otherwise the next starts where it ends. -/
instance : Monad Walk where
  pure x i := some ⟨.ok x, i, []⟩
  bind m f i :=
    match m i with
    | none => none
    | some r =>
      match r.result with
      | .error e => some ⟨.error e, r.index, r.log⟩
      | .ok x => (f x r.index).map fun s => { s with log := r.log ++ s.log }

/-- No answer. -/
def stuck : Walk α := fun _ => none

/-- Stops with a mistake at a token. -/
def fail (t : Token) (e : ParseError) : Walk α := fun i => some ⟨.error ⟨e, t.pos⟩, i, []⟩

/-- Stops at a token that stands where something else is expected. -/
def unexpected (t : Token) (what : Expected) : Walk α := fail t (.unexpected what t.found)

/-- A walk that may use the index it starts at. -/
def saving (body : Nat → Walk α) : Walk α := fun i =>
  (body i i).map fun r => { r with log := ⟨.save, i⟩ :: r.log ++ [⟨.leave, r.index⟩] }

/-- Goes back to an index. -/
def rewind (saved : Nat) : Walk Unit := fun _ => some ⟨.ok (), saved, [⟨.rewind, saved⟩]⟩

/-- A walk whose mistakes do not matter; after one it goes on where that was made. -/
def attempt (m : Walk α) : Walk (Option α) := fun i =>
  (m i).map fun r =>
    { r with result := match r.result with
        | .ok x => .ok (some x)
        | .error _ => .ok none }

/-- A walk whose mistakes do not matter; after one it goes back to where it started. -/
def tried (m : Walk α) : Walk (Option α) := saving fun saved => do
  match ← attempt m with
  | some x => pure (some x)
  | none => do
    let _ ← rewind saved
    pure none

/-- A pass of a loop, and what follows if there is another. -/
def pass (l : Loop) (body : Walk (Turn α β)) (next : α → Walk β) : Walk β := fun i =>
  match body i with
  | none => none
  | some r =>
    match r.result with
    | .error e => some ⟨.error e, r.index, ⟨.enter l, i⟩ :: r.log ++ [⟨.leave, r.index⟩]⟩
    | .ok (.done y) => some ⟨.ok y, r.index, ⟨.enter l, i⟩ :: r.log ++ [⟨.leave, r.index⟩]⟩
    | .ok (.again x) => (next x r.index).map fun s =>
      { s with log := ⟨.enter l, i⟩ :: r.log ++ [⟨.again l, r.index⟩, ⟨.leave, r.index⟩] ++ s.log }

end Walk

/-! ## Tokens to walk over -/

/-- The tokens of a script, with what reading them depends on. -/
structure Tape where
  /-- What reading depends on; the token at the end of the script is part of it. -/
  reader : Reader
  /-- The tokens before that. -/
  body : List Token
  /-- The last token ends the script. -/
  final : reader.final.kind = .eof

namespace Tape

variable (x : Tape)

/-- All the tokens. -/
def tokens : List Token := x.body ++ [x.reader.final]

/-- A token further on, or the last if there are not so many. -/
def peek (k : Nat) : Walk Token := fun i =>
  (x.tokens[min (i + k) (x.tokens.length - 1)]?).map fun t => ⟨.ok t, i, []⟩

/-- Takes a token; the end of a script is never passed. -/
def next : Walk Token := fun i =>
  (x.tokens[i]?).map fun t =>
    if t.kind = .eof then ⟨.ok t, i, []⟩ else ⟨.ok t, i + 1, [⟨.take, i + 1⟩]⟩

/-- Takes a token if it satisfies a test. -/
def accept (ok : Token → Bool) : Walk (Option Token) := do
  let t ← x.peek 0
  if ok t then do
    let u ← x.next
    pure (some u)
  else pure none

/-- Takes a token that has to satisfy a test. -/
def expect (ok : Token → Bool) (what : Expected) : Walk Token := do
  let t ← x.peek 0
  if ok t then x.next else .unexpected t what

/-- Takes a mark of punctuation. -/
def expectMark (kind : TokenKind) (mark : String) : Walk Token :=
  x.expect (·.kind = kind) (.exactly mark)

/-- Takes a word. -/
def expectWord (word : String) : Walk Token := x.expect (·.isWord word) (.exactly word)

/-! ## Walks that follow readers -/

/-- What is left of the tokens before the last from an index on. -/
def left (i : Nat) : List Token := x.body.drop i

/-- Whether a walk from an index ends, leaves a trail, and has a result and a last index of some
kind. -/
def Ends (outer : List Pending) (m : Walk α) (i : Nat) (Q : Except Mistake α → Nat → Prop) :
    Prop :=
  ∃ r, m i = some r ∧ Trail x.tokens ⟨i, outer⟩ r.log ⟨r.index, outer⟩ ∧
    r.index ≤ x.body.length ∧ Q r.result r.index

/-- The result and the last index of a walk that answers as a reader does. -/
def Gives (p : Except Diagnostic (α × List Token)) : Except Mistake α → Nat → Prop
  | .ok v, j => p = .ok (v, x.left j)
  | .error e, _ => p = .error e.diagnostic

/-- Whether a walk from an index answers as a reader of what is left does. -/
abbrev Follows (outer : List Pending) (m : Walk α) (i : Nat)
    (p : Except Diagnostic (α × List Token)) : Prop :=
  x.Ends outer m i (x.Gives p)

/-- The result and the last index of a pass that began at some index, if what follows it answers
as a reader does. -/
def Repeats (outer : List Pending) (start : Nat) (next : α → Walk β)
    (p : Except Diagnostic (β × List Token)) : Except Mistake (Turn α β) → Nat → Prop
  | .ok (.again v), j => start < j ∧ x.Follows outer (next v) j p
  | .ok (.done y), j => p = .ok (y, x.left j)
  | .error e, _ => p = .error e.diagnostic

/-- What a reader answers whose mistakes do not matter. -/
def orUnread (ts : List Token) (p : Except Diagnostic (α × List Token)) :
    Except Diagnostic (Option α × List Token) :=
  match p with
  | .ok r => .ok (some r.1, r.2)
  | .error _ => .ok (none, ts)

/-- What a reader answers that may read nothing, with all tokens left in that case. -/
def orNothing (ts : List Token) (p : Except Diagnostic (Option (α × List Token))) :
    Except Diagnostic (Option α × List Token) :=
  match p with
  | .ok (some r) => .ok (some r.1, r.2)
  | .ok none => .ok (none, ts)
  | .error d => .error d

variable {x} {outer : List Pending} {i j : Nat} {t : Token}

/-! ### Single tokens -/

theorem length_left (i : Nat) : (x.left i).length = x.body.length - i := List.length_drop

theorem left_end : x.left x.body.length = [] := List.drop_length

theorem drop_left (i k : Nat) : (x.left i).drop k = x.left (i + k) := List.drop_drop

/-- Either nothing is left but the end of the script, or a token stands at the index. -/
theorem left_cases (x : Tape) (i : Nat) :
    x.left i = [] ∨ ∃ t, x.left i = t :: x.left (i + 1) ∧ i + 1 ≤ x.body.length := by
  rcases Nat.lt_or_ge i x.body.length with h | h
  · exact .inr ⟨x.body[i], List.drop_eq_getElem_cons h, h⟩
  · exact .inl (List.drop_eq_nil_of_le h)

/-- The token at an index, or further on, is the one that stands there in what is left. -/
theorem peek_eq (x : Tape) (i k : Nat) :
    x.peek k i = some ⟨.ok ((x.left i)[k]?.getD x.reader.final), i, []⟩ := by
  have last : x.tokens.length - 1 = x.body.length := by simp [tokens]
  have found : x.tokens[min (i + k) x.body.length]? =
      some ((x.left i)[k]?.getD x.reader.final) := by
    rw [left, List.getElem?_drop]
    rcases Nat.lt_or_ge (i + k) x.body.length with h | h
    · rw [Nat.min_eq_left (Nat.le_of_lt h), tokens, List.getElem?_append_left h,
        List.getElem?_eq_getElem h]
      rfl
    · rw [Nat.min_eq_right h, tokens, List.getElem?_concat_length, List.getElem?_eq_none h]
      rfl
  rw [peek, last, found]
  rfl

/-- Different indices leave different tokens. -/
theorem eq_of_left_eq (hi : i ≤ x.body.length) (hj : j ≤ x.body.length)
    (h : x.left i = x.left j) : i = j := by
  have := congrArg List.length h
  rw [length_left, length_left] at this
  omega

theorem tokens_getElem? (h : x.left i = t :: x.left (i + 1)) : x.tokens[i]? = some t := by
  have at_ : x.body[i]? = some t := by
    rw [← Nat.add_zero i, ← List.getElem?_drop]
    exact congrArg (·[0]?) h
  obtain ⟨hi, rfl⟩ := List.getElem?_eq_some_iff.1 at_
  rw [tokens, List.getElem?_append_left hi]
  exact at_

theorem next_eq (h : x.left i = t :: x.left (i + 1)) (hf : t.kind ≠ .eof) :
    x.next i = some ⟨.ok t, i + 1, [⟨.take, i + 1⟩]⟩ := by
  rw [next, tokens_getElem? h, Option.map_some, if_neg hf]

theorem peek_zero (x : Tape) (i : Nat) :
    x.peek 0 i = some ⟨.ok (x.reader.peek (x.left i)), i, []⟩ := by
  rw [peek_eq, ← List.head?_eq_getElem?]
  rfl

theorem accept_some {ok : Token → Bool} (h : x.left i = t :: x.left (i + 1))
    (ht : ok t = true) (hf : t.kind ≠ .eof) :
    x.accept ok i = some ⟨.ok (some t), i + 1, [⟨.take, i + 1⟩]⟩ := by
  simp [accept, bind, pure, peek_zero, h, ht, next_eq h hf]

theorem accept_none {ok : Token → Bool} (h : ok (x.reader.peek (x.left i)) = false) :
    x.accept ok i = some ⟨.ok none, i, []⟩ := by
  simp [accept, bind, pure, peek_zero, h]

/-! ### Walks one after the other -/

namespace Ends

variable {Q : Except Mistake β → Nat → Prop}

theorem pure {Q : Except Mistake α → Nat → Prop} {v : α} (hi : i ≤ x.body.length)
    (h : Q (.ok v) i) : x.Ends outer (pure v) i Q :=
  ⟨_, rfl, .nil _, hi, h⟩

theorem fail {Q : Except Mistake α → Nat → Prop} {e : ParseError} (hi : i ≤ x.body.length)
    (h : Q (.error ⟨e, t.pos⟩) i) : x.Ends outer (.fail t e) i Q :=
  ⟨_, rfl, .nil _, hi, h⟩

/-- What follows a walk that succeeds goes on where that has ended. -/
theorem after {m : Walk α} {f : α → Walk β} {v : α} {log : List Event}
    (hm : m i = some ⟨.ok v, j, log⟩) (trail : Trail x.tokens ⟨i, outer⟩ log ⟨j, outer⟩)
    (h : x.Ends outer (f v) j Q) : x.Ends outer (m >>= f) i Q := by
  obtain ⟨r, hr, rest, hj, hQ⟩ := h
  refine ⟨{ r with log := log ++ r.log }, ?_, trail.append rest, hj, hQ⟩
  simp only [bind, hm, hr, Option.map_some]

/-- After a walk that follows a reader, its answer is used, or its mistake is passed on. -/
theorem follow {m : Walk α} {f : α → Walk β} {p : Except Diagnostic (α × List Token)}
    (hm : x.Follows outer m i p)
    (ok : ∀ v j, j ≤ x.body.length → p = .ok (v, x.left j) → x.Ends outer (f v) j Q)
    (error : ∀ (e : Mistake) j, p = .error e.diagnostic → Q (.error e) j) :
    x.Ends outer (m >>= f) i Q := by
  obtain ⟨⟨result, j, log⟩, hr, trail, hj, hp⟩ := hm
  cases result with
  | ok v => exact after hr trail (ok v j hj hp)
  | error e =>
    refine ⟨⟨.error e, j, log⟩, ?_, trail, hj, error e j hp⟩
    simp only [Bind.bind, hr]

/-- After a walk that follows a reader that succeeds. -/
theorem given {m : Walk α} {f : α → Walk β} {v : α} {ts : List Token}
    (hm : x.Follows outer m i (.ok (v, ts)))
    (h : ∀ j, j ≤ x.body.length → ts = x.left j → x.Ends outer (f v) j Q) :
    x.Ends outer (m >>= f) i Q := by
  refine follow hm (fun u j hj hp => ?_) fun e j hp => ?_
  · obtain ⟨rfl, hts⟩ := Prod.mk.inj (Except.ok.inj hp)
    exact h j hj hts
  · cases hp

/-- The same where it is known how far the reader goes. -/
theorem known {m : Walk α} {f : α → Walk β} {v : α} (hm : x.Follows outer m i (.ok (v, x.left j)))
    (hj : j ≤ x.body.length) (h : x.Ends outer (f v) j Q) : x.Ends outer (m >>= f) i Q := by
  refine given hm fun k hk same => ?_
  cases eq_of_left_eq hj hk same
  exact h

theorem peek {f : Token → Walk β}
    (h : x.Ends outer (f (x.reader.peek (x.left i))) i Q) :
    x.Ends outer (x.peek 0 >>= f) i Q :=
  after (peek_zero x i) (.nil _) h

theorem peekSecond {f : Token → Walk β}
    (h : x.Ends outer (f (x.reader.peekSecond (x.left i))) i Q) :
    x.Ends outer (x.peek 1 >>= f) i Q :=
  after (peek_eq x i 1) (.nil _) h

theorem peekThird {f : Token → Walk β}
    (h : x.Ends outer (f (x.reader.peekThird (x.left i))) i Q) :
    x.Ends outer (x.peek 2 >>= f) i Q :=
  after (peek_eq x i 2) (.nil _) h

theorem next {f : Token → Walk β} (h : x.left i = t :: x.left (i + 1)) (hf : t.kind ≠ .eof)
    (hn : x.Ends outer (f t) (i + 1) Q) : x.Ends outer (x.next >>= f) i Q :=
  after (next_eq h hf) (Step.take (tokens_getElem? h) hf).trail hn

/-- No word ends a script. -/
theorem isWord_stops {word : String} (h : t.isWord word = true) : t.kind ≠ .eof := by
  intro ht
  rw [Token.isWord, ht] at h
  cases h

/-- At the end of the script no word stands. -/
theorem isWord_peek_nil (x : Tape) (word : String) :
    (x.reader.peek []).isWord word = false := by
  rw [Reader.peek_nil, Token.isWord, x.final]
  rfl

/-- Where a word stands, there is a token. -/
theorem left_of_isWord {word : String} (h : (x.reader.peek (x.left i)).isWord word = true) :
    ∃ t, x.left i = t :: x.left (i + 1) ∧ i + 1 ≤ x.body.length ∧ t.isWord word = true := by
  rcases x.left_cases i with hl | ⟨t, hl, hlt⟩
  · rw [hl, isWord_peek_nil] at h
    cases h
  · rw [hl, Reader.peek_cons] at h
    exact ⟨t, hl, hlt, h⟩

/-- A token that satisfies a test is taken. -/
theorem accepts {ok : Token → Bool} {f : Option Token → Walk β}
    (hl : x.left i = t :: x.left (i + 1)) (ht : ok t = true) (hf : t.kind ≠ .eof)
    (h : x.Ends outer (f (some t)) (i + 1) Q) : x.Ends outer (x.accept ok >>= f) i Q :=
  after (accept_some hl ht hf) (Step.take (tokens_getElem? hl) hf).trail h

/-- Any other token is left. -/
theorem declines {ok : Token → Bool} {f : Option Token → Walk β}
    (hn : ok (x.reader.peek (x.left i)) = false) (h : x.Ends outer (f none) i Q) :
    x.Ends outer (x.accept ok >>= f) i Q :=
  after (accept_none hn) (.nil _) h

/-- A token that satisfies a test is taken, and any other is left. -/
theorem accept {ok : Token → Bool} {f : Option Token → Walk β}
    (stops : ∀ t, ok t = true → t.kind ≠ .eof)
    (some : ∀ t, ok t = true → x.left i = t :: x.left (i + 1) → i + 1 ≤ x.body.length →
      x.Ends outer (f (some t)) (i + 1) Q)
    (none : ok (x.reader.peek (x.left i)) = false → x.Ends outer (f none) i Q) :
    x.Ends outer (x.accept ok >>= f) i Q := by
  cases h : ok (x.reader.peek (x.left i)) with
  | false => exact declines h (none h)
  | true =>
    rcases x.left_cases i with hl | ⟨t, hl, hlt⟩
    · rw [hl] at h
      exact absurd x.final (stops _ h)
    · rw [hl] at h
      exact accepts hl h (stops t h) (some t h hl hlt)

/-- A token that has to satisfy a test is taken, or is a mistake. -/
theorem expect {ok : Token → Bool} (stops : ∀ t, ok t = true → t.kind ≠ .eof)
    (what : Expected) (hi : i ≤ x.body.length) :
    x.Follows outer (x.expect ok what) i (x.reader.readToken ok what (x.left i)).plain := by
  refine peek ?_
  rcases x.left_cases i with hl | ⟨t, hl, hlt⟩
  · rw [hl, Reader.peek_nil, if_neg fun h => stops _ h x.final]
    exact fail hi rfl
  · rw [hl, Reader.peek_cons, Reader.plain_readToken_cons]
    by_cases h : ok t = true
    · rw [if_pos h, if_pos h]
      have taken : Trail x.tokens ⟨i, outer⟩ [⟨.take, i + 1⟩] ⟨i + 1, outer⟩ :=
        (Step.take (tokens_getElem? hl) (stops t h)).trail
      exact ⟨_, next_eq hl (stops t h), taken, hlt, rfl⟩
    · rw [if_neg h, if_neg h]
      exact fail hi rfl

theorem expectMark {kind : TokenKind} (hk : kind ≠ .eof) (mark : String)
    (hi : i ≤ x.body.length) :
    x.Follows outer (x.expectMark kind mark) i
      (x.reader.readMark kind mark (x.left i)).plain :=
  expect (fun t ht => by rwa [of_decide_eq_true ht]) _ hi

theorem expectWord (word : String) (hi : i ≤ x.body.length) :
    x.Follows outer (x.expectWord word) i (x.reader.readWord word (x.left i)).plain :=
  expect (fun _ ht => isWord_stops ht) _ hi

/-- A token that satisfies the test is taken. -/
theorem expects {ok : Token → Bool} {what : Expected} {f : Token → Walk β}
    (hl : x.left i = t :: x.left (i + 1)) (ht : ok t = true) (hf : t.kind ≠ .eof)
    (h : x.Ends outer (f t) (i + 1) Q) : x.Ends outer (x.expect ok what >>= f) i Q := by
  refine after ?_ (Step.take (tokens_getElem? hl) hf).trail h
  simp only [Tape.expect, bind, peek_zero, hl, Reader.peek_cons, ht, if_pos, next_eq hl hf]
  rfl

/-- Any other token is a mistake. -/
theorem mistaken {ok : Token → Bool} {what : Expected} {f : Token → Walk β}
    (hi : i ≤ x.body.length) (hn : ok (x.reader.peek (x.left i)) = false)
    (h : Q (.error ⟨.unexpected what (x.reader.peek (x.left i)).found,
      (x.reader.peek (x.left i)).pos⟩) i) :
    x.Ends outer (x.expect ok what >>= f) i Q := by
  refine ⟨⟨_, i, []⟩, ?_, .nil _, hi, h⟩
  simp only [Tape.expect, bind, peek_zero, hn, Bool.false_eq_true, if_false]
  rfl

/-! ### Mistakes that do not matter -/

theorem saving {body : Nat → Walk β} (h : x.Ends (.saved i :: outer) (body i) i Q) :
    x.Ends outer (.saving body) i Q := by
  obtain ⟨r, hr, trail, hj, hQ⟩ := h
  refine ⟨{ r with log := ⟨.save, i⟩ :: r.log ++ [⟨.leave, r.index⟩] }, ?_, ?_, hj, hQ⟩
  · rw [Walk.saving, hr, Option.map_some]
  · exact .cons .save (trail.append Step.leave.trail)

theorem rewind {f : Unit → Walk β} {saved : Nat}
    (h : x.Ends (.saved saved :: outer) (f ()) saved Q) :
    x.Ends (.saved saved :: outer) (Walk.rewind saved >>= f) i Q :=
  after rfl Step.rewind.trail h

/-- After a walk that follows a reader, its answer is used, or none, wherever it has stopped. -/
theorem attempt {m : Walk α} {f : Option α → Walk β} {p : Except Diagnostic (α × List Token)}
    (hm : x.Follows outer m i p)
    (ok : ∀ v j, j ≤ x.body.length → p = .ok (v, x.left j) → x.Ends outer (f (some v)) j Q)
    (error : ∀ d j, j ≤ x.body.length → p = .error d → x.Ends outer (f none) j Q) :
    x.Ends outer (.attempt m >>= f) i Q := by
  obtain ⟨⟨result, j, log⟩, hr, trail, hj, hp⟩ := hm
  cases result with
  | ok v => exact after (v := some v) (by rw [Walk.attempt, hr]; rfl) trail (ok v j hj hp)
  | error e => exact after (v := none) (by rw [Walk.attempt, hr]; rfl) trail (error _ j hj hp)

theorem tried {m : Walk α} {p : Except Diagnostic (α × List Token)} (hi : i ≤ x.body.length)
    (hm : x.Follows (.saved i :: outer) m i p) :
    x.Follows outer (.tried m) i (orUnread (x.left i) p) := by
  refine saving (attempt hm (fun v j hj hp => ?_) fun d j hj hp => rewind ?_)
  · rw [hp]
    exact pure hj rfl
  · rw [hp]
    exact pure hi rfl

/-! ### Loops -/

/-- A pass, with what follows if there is another. -/
theorem pass {l : Loop} {body : Walk (Turn α β)} {next : α → Walk β}
    {p : Except Diagnostic (β × List Token)}
    (h : x.Ends (.pass l i :: outer) body i (x.Repeats outer i next p)) :
    x.Follows outer (.pass l body next) i p := by
  obtain ⟨⟨result, j, log⟩, hr, trail, hj, hp⟩ := h
  have finished : Trail x.tokens ⟨i, outer⟩
      (⟨.enter l, i⟩ :: (log ++ [⟨.leave, j⟩])) ⟨j, outer⟩ :=
    .cons .enter (trail.append Step.leave.trail)
  rcases result with e | v | y
  · refine ⟨⟨.error e, j, _⟩, ?_, finished, hj, hp⟩
    simp only [Walk.pass, hr]
    rfl
  · obtain ⟨further, s, hs, rest, hk, hQ⟩ := hp
    have repeated : Trail x.tokens ⟨i, outer⟩
        (⟨.enter l, i⟩ :: (log ++ [⟨.again l, j⟩, ⟨.leave, j⟩])) ⟨j, outer⟩ :=
      .cons .enter (trail.append (.cons (.again further) Step.leave.trail))
    refine ⟨⟨s.result, s.index, _⟩, ?_, repeated.append rest, hk, hQ⟩
    simp only [Walk.pass, hr, hs]
    rfl
  · refine ⟨⟨.ok y, j, _⟩, ?_, finished, hj, hp⟩
    simp only [Walk.pass, hr]
    rfl

end Ends

/-! ### Readers one after the other -/

/-- Two walks one after the other end as two readers do, if a mistake is passed on. -/
theorem Ends.bind {δ : Type} {m : Walk α} {f : α → Walk β} {p : Except Diagnostic (α × List Token)}
    {k : α × List Token → Except Diagnostic δ}
    {P : Except Diagnostic δ → Except Mistake β → Nat → Prop}
    (passes : ∀ (e : Mistake) j, P (.error e.diagnostic) (.error e) j)
    (hm : x.Follows outer m i p)
    (ok : ∀ v j, j ≤ x.body.length → p = .ok (v, x.left j) →
      x.Ends outer (f v) j (P (k (v, x.left j)))) :
    x.Ends outer (m >>= f) i (P (p >>= k)) := by
  refine Ends.follow hm (fun v j hj hp => ?_) fun e j hp => ?_
  · rw [hp]
    exact ok v j hj hp
  · rw [hp]
    exact passes e j

/-- Where a walk and a reader go on by the same test, each way is settled on its own. -/
theorem Ends.ite {δ : Type} {c : Prop} [Decidable c] {m m' : Walk α} {q q' : δ}
    {P : δ → Except Mistake α → Nat → Prop} (pos : c → x.Ends outer m i (P q))
    (neg : ¬ c → x.Ends outer m' i (P q')) :
    x.Ends outer (if c then m else m') i (P (if c then q else q')) := by
  by_cases h : c
  · rw [if_pos h, if_pos h]
    exact pos h
  · rw [if_neg h, if_neg h]
    exact neg h

/-- A walk follows a reader that goes on by the same test. -/
theorem Follows.ite {c : Prop} [Decidable c] {m m' : Walk α}
    {p p' : Except Diagnostic (α × List Token)} (pos : c → x.Follows outer m i p)
    (neg : ¬ c → x.Follows outer m' i p') :
    x.Follows outer (if c then m else m') i (if c then p else p') :=
  Ends.ite (P := x.Gives) pos neg

/-- The same for a reader that may read nothing. -/
theorem Follows.ite? {c : Prop} [Decidable c] {m m' : Walk (Option α)} {ts : List Token}
    {p p' : Except Diagnostic (Option (α × List Token))}
    (pos : c → x.Follows outer m i (orNothing ts p))
    (neg : ¬ c → x.Follows outer m' i (orNothing ts p')) :
    x.Follows outer (if c then m else m') i (orNothing ts (if c then p else p')) :=
  Ends.ite (P := fun q => x.Gives (orNothing ts q)) pos neg

/-- A walk follows two readers, one after the other. -/
theorem Follows.bind {m : Walk α} {f : α → Walk β} {p : Except Diagnostic (α × List Token)}
    {k : α × List Token → Except Diagnostic (β × List Token)} (hm : x.Follows outer m i p)
    (ok : ∀ v j, j ≤ x.body.length → p = .ok (v, x.left j) →
      x.Follows outer (f v) j (k (v, x.left j))) :
    x.Follows outer (m >>= f) i (p >>= k) :=
  Ends.bind (P := x.Gives) (fun _ _ => rfl) hm ok

/-- The same for a reader that may read nothing. -/
theorem Follows.bind? {m : Walk α} {f : α → Walk (Option β)} {ts : List Token}
    {p : Except Diagnostic (α × List Token)}
    {k : α × List Token → Except Diagnostic (Option (β × List Token))}
    (hm : x.Follows outer m i p)
    (ok : ∀ v j, j ≤ x.body.length → p = .ok (v, x.left j) →
      x.Follows outer (f v) j (orNothing ts (k (v, x.left j)))) :
    x.Follows outer (m >>= f) i (orNothing ts (p >>= k)) :=
  Ends.bind (P := fun q => x.Gives (orNothing ts q)) (fun _ _ => rfl) hm ok

/-- The same in a pass of a loop. -/
theorem Follows.turn {m : Walk γ} {f : γ → Walk (Turn α β)} {start : Nat} {next : α → Walk β}
    {pending : List Pending} {p : Except Diagnostic (γ × List Token)}
    {k : γ × List Token → Except Diagnostic (β × List Token)} (hm : x.Follows pending m i p)
    (ok : ∀ v j, j ≤ x.body.length → p = .ok (v, x.left j) →
      x.Ends pending (f v) j (x.Repeats outer start next (k (v, x.left j)))) :
    x.Ends pending (m >>= f) i (x.Repeats outer start next (p >>= k)) :=
  Ends.bind (P := x.Repeats outer start next) (fun _ _ => rfl) hm ok

/-- After a walk that follows a reader that may read nothing. -/
theorem Follows.orElse {m : Walk (Option α)} {f : Option α → Walk β}
    {p : Except Diagnostic (Option (α × List Token))}
    {k : Option (α × List Token) → Except Diagnostic (β × List Token)}
    (hi : i ≤ x.body.length) (hm : x.Follows outer m i (orNothing (x.left i) p))
    (some : ∀ v j, j ≤ x.body.length → p = .ok (some (v, x.left j)) →
      x.Follows outer (f (some v)) j (k (some (v, x.left j))))
    (none : p = .ok none → x.Follows outer (f none) i (k none)) :
    x.Follows outer (m >>= f) i (p >>= k) := by
  refine Ends.follow hm (fun v j hj hp => ?_) fun e j hp => ?_
  · rcases p with d | - | r
    · cases hp
    · obtain ⟨rfl, hl⟩ := Prod.mk.inj (Except.ok.inj hp)
      cases eq_of_left_eq hi hj hl
      exact none rfl
    · obtain ⟨y, rest⟩ := r
      obtain ⟨rfl, rfl⟩ := Prod.mk.inj (Except.ok.inj hp)
      exact some y j hj rfl
  · rcases p with d | - | r
    · exact congrArg _ (Except.error.inj hp)
    · cases hp
    · cases hp

/-- What is read is not before the index. -/
theorem le_of_plain {r : Reading α ((x.left i).length + 1)} {v : α} (hi : i ≤ x.body.length)
    (hj : j ≤ x.body.length) (h : r.plain = .ok (v, x.left j)) : i ≤ j := by
  have := Reading.length_lt_of_plain h
  rw [length_left, length_left] at this
  omega

/-- What is read is behind the index. -/
theorem lt_of_plain {r : Reading α (x.left i).length} {v : α}
    (hj : j ≤ x.body.length) (h : r.plain = .ok (v, x.left j)) : i < j := by
  have := Reading.length_lt_of_plain h
  rw [length_left, length_left] at this
  omega

end Tape

end DiagramScript
