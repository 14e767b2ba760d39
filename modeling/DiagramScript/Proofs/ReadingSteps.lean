import DiagramScript.Script.ReadingExpressions
import Mathlib.Tactic.SplitIfs

/-!
# Readers step by step

Every reader proves that it leaves fewer tokens than there were.  Here the same readers are
described without that proof, by one equation each, which says what is read first and what is
done with it.

* `Reading.plain`, `Reading.plain?` — what a reader answers, without the proof.
* `Ensures`, `Settles` — a computation that gives something with a property, unless it fails, and
  one that fails only in some way.
* `plain_bind`, `length_lt_of_plain` — how readers follow each other, and that they end.
* `plain_readExpression` and its like — the equation of each reader.
-/

namespace DiagramScript

variable {α β : Type} {m n : Nat}

/-! ## Computations in steps -/

/-- If two steps succeed one after the other, the first succeeds, and the second with its answer. -/
theorem exists_of_bind_eq_ok {ε : Type} {r : Except ε α} {next : α → Except ε β} {y : β}
    (h : r >>= next = .ok y) : ∃ x, r = .ok x ∧ next x = .ok y := by
  cases r with
  | error e => cases h
  | ok x => exact ⟨x, rfl, h⟩

/-- Whatever a computation gives as an option, it gives. -/
theorem eq_ok_of_toOption {ε : Type} {r : Except ε α} {x : α} (h : r.toOption = some x) :
    r = .ok x := by
  cases r with
  | error e => cases h
  | ok y => exact congrArg Except.ok (Option.some.inj h)

@[simp] theorem ok_bind {ε : Type} (x : α) (next : α → Except ε β) :
    (Except.ok x >>= next) = next x := rfl

/-- A computation that gives something with a property, unless it fails. -/
def Ensures {ε : Type} (P : α → Prop) (r : Except ε α) : Prop := ∀ x, r = .ok x → P x

namespace Ensures

variable {ε : Type} {P : α → Prop} {Q : β → Prop}

theorem error (e : ε) : Ensures P (.error e) := fun _ h => nomatch h

theorem ok {x : α} (h : P x) : Ensures P (.ok x : Except ε α) := fun _ hx => by
  cases hx
  exact h

theorem bind {r : Except ε α} {next : α → Except ε β} (h : Ensures P r)
    (hn : ∀ x, P x → Ensures Q (next x)) : Ensures Q (r >>= next) := by
  intro y hy
  obtain ⟨x, hx, hnext⟩ := exists_of_bind_eq_ok hy
  exact hn x (h x hx) y hnext

/-- Whatever the first step gives. -/
theorem andThen {r : Except ε α} {next : α → Except ε β} (hn : ∀ x, Ensures Q (next x)) :
    Ensures Q (r >>= next) :=
  bind (P := fun _ => True) (fun _ _ => trivial) fun x _ => hn x

theorem ite {c : Prop} [Decidable c] {r s : Except ε α} (hr : Ensures P r) (hs : Ensures P s) :
    Ensures P (if c then r else s) := by
  by_cases h : c
  · rwa [if_pos h]
  · rwa [if_neg h]

theorem locating {r : Except Failure α} (h : Ensures P r) (p : SourcePos) :
    Ensures P (DiagramScript.locating p r) := by
  cases r with
  | error e => exact error _
  | ok x => exact h

theorem map {r : Except ε α} {f : α → β} (h : Ensures P r) (hf : ∀ x, P x → Q (f x)) :
    Ensures Q (r.map f) := by
  cases r with
  | error e => exact error e
  | ok x => exact ok (hf x (h x rfl))

theorem mapError {δ : Type} {r : Except ε α} (h : Ensures P r) (f : ε → δ) :
    Ensures P (r.mapError f) := by
  cases r with
  | error e => exact error _
  | ok x => exact ok (h x rfl)

/-- What every step gives, all the results have. -/
theorem mapM {f : α → Except ε β} {xs : List α} (h : ∀ x ∈ xs, Ensures Q (f x)) :
    Ensures (∀ y ∈ ·, Q y) (xs.mapM f) := by
  induction xs with
  | nil => exact ok fun y hy => nomatch hy
  | cons x xs ih =>
    rw [List.mapM_cons]
    refine bind (h x List.mem_cons_self) fun y hy => ?_
    refine bind (ih fun z hz => h z (List.mem_cons_of_mem _ hz)) fun ys hys => ok ?_
    intro z hz
    rcases List.mem_cons.1 hz with rfl | hz
    · exact hy
    · exact hys z hz

end Ensures

/-- Whether whatever a computation gives has one property, and whatever it stops at another. -/
structure Settles {ε : Type} (E : ε → Prop) (Q : α → Prop) (r : Except ε α) : Prop where
  /-- Results have the one property. -/
  ok : ∀ x, r = .ok x → Q x
  /-- Errors have the other. -/
  error : ∀ e, r = .error e → E e

namespace Settles

variable {ε : Type} {E : ε → Prop} {Q : α → Prop} {R : β → Prop}

theorem of_ok {x : α} (h : Q x) : Settles E Q (.ok x) where
  ok y hy := by
    cases hy
    exact h
  error e he := nomatch he

theorem of_error {e : ε} (h : E e) : Settles E Q (.error e) where
  ok x hx := nomatch hx
  error e' he := by
    cases he
    exact h

theorem bind {r : Except ε α} {next : α → Except ε β} (h : Settles E Q r)
    (hn : ∀ x, Q x → Settles E R (next x)) : Settles E R (r >>= next) := by
  cases r with
  | ok x => exact hn x (h.ok x rfl)
  | error e => exact .of_error (h.error e rfl)

theorem imp {Q' : α → Prop} {r : Except ε α} (h : Settles E Q r) (hQ : ∀ x, Q x → Q' x) :
    Settles E Q' r where
  ok x hx := hQ x (h.ok x hx)
  error := h.error

theorem ite {c : Prop} [Decidable c] {r s : Except ε α} (hr : Settles E Q r)
    (hs : Settles E Q s) : Settles E Q (if c then r else s) := by
  by_cases h : c
  · rwa [if_pos h]
  · rwa [if_neg h]

theorem map {r : Except ε α} {f : α → β} (h : Settles E Q r) (hf : ∀ x, Q x → R (f x)) :
    Settles E R (r.map f) := by
  cases r with
  | ok x => exact of_ok (hf x (h.ok x rfl))
  | error e => exact .of_error (h.error e rfl)

end Settles

/-- A computation that succeeds and gives something with a property. -/
abbrev Gives {ε : Type} (Q : α → Prop) (r : Except ε α) : Prop := Settles (fun _ => False) Q r

/-- A computation that succeeds. -/
abbrev Succeeds {ε : Type} (r : Except ε α) : Prop := Gives (fun _ => True) r

theorem Settles.exists_eq_ok {ε : Type} {Q : α → Prop} {r : Except ε α} (h : Gives Q r) :
    ∃ x, r = .ok x ∧ Q x := by
  cases r with
  | ok x => exact ⟨x, rfl, h.ok x rfl⟩
  | error e => exact (h.error e rfl).elim

/-! ## Answers without proofs -/

/-- What a reader answers, without the proof that there are fewer tokens. -/
def Reading.plain (r : Reading α n) : Except Diagnostic (α × List Token) := r.map Parsed.plain

/-- The same for a reader that may read nothing. -/
def Reading.plain? (r : Except Diagnostic (Option (Parsed α n))) :
    Except Diagnostic (Option (α × List Token)) :=
  r.map (Option.map Parsed.plain)

namespace Reading

@[simp] theorem plain_ok (p : Parsed α n) : Reading.plain (.ok p) = .ok p.plain := rfl

@[simp] theorem plain_error (e : Diagnostic) :
    Reading.plain (.error e : Reading α n) = .error e := rfl

@[simp] theorem plain?_ok (p : Option (Parsed α n)) :
    Reading.plain? (.ok p) = .ok (p.map Parsed.plain) := rfl

@[simp] theorem plain?_error (e : Diagnostic) :
    Reading.plain? (.error e : Except Diagnostic (Option (Parsed α n))) = .error e := rfl

/-- A reader that goes on after another goes on after what the other answers. -/
theorem plain_bind {r : Reading α m} {next : Parsed α m → Reading β n}
    {k : α × List Token → Except Diagnostic (β × List Token)}
    (h : ∀ p : Parsed α m, Reading.plain (next p) = k p.plain) :
    Reading.plain (r >>= next) = r.plain >>= k := by
  cases r with
  | error e => rfl
  | ok p => exact h p

theorem plain?_bind {r : Reading α m} {next : Parsed α m → Except Diagnostic (Option (Parsed β n))}
    {k : α × List Token → Except Diagnostic (Option (β × List Token))}
    (h : ∀ p : Parsed α m, Reading.plain? (next p) = k p.plain) :
    Reading.plain? (r >>= next) = r.plain >>= k := by
  cases r with
  | error e => rfl
  | ok p => exact h p

theorem plain_bind? {r : Except Diagnostic (Option (Parsed α m))}
    {next : Option (Parsed α m) → Reading β n}
    {k : Option (α × List Token) → Except Diagnostic (β × List Token)}
    (h : ∀ p, Reading.plain (next p) = k (p.map Parsed.plain)) :
    Reading.plain (r >>= next) = Reading.plain? r >>= k := by
  cases r with
  | error e => rfl
  | ok p => exact h p

/-- A change of the bound alone leaves the answer as it is. -/
theorem plain_bind_same {r : Reading α m} {next : Parsed α m → Parsed α n}
    (h : ∀ p : Parsed α m, (next p).plain = p.plain) :
    Reading.plain (r >>= fun p => .ok (next p)) = r.plain := by
  cases r with
  | error e => rfl
  | ok p => exact congrArg Except.ok (h p)

theorem plain_ite {c : Prop} [Decidable c] {r s : Reading α n}
    {r' s' : Except Diagnostic (α × List Token)} (hr : r.plain = r') (hs : s.plain = s') :
    Reading.plain (if c then r else s) = if c then r' else s' := by
  by_cases h : c
  · rw [if_pos h, if_pos h, hr]
  · rw [if_neg h, if_neg h, hs]

theorem plain?_ite {c : Prop} [Decidable c] {r s : Except Diagnostic (Option (Parsed α n))}
    {r' s' : Except Diagnostic (Option (α × List Token))} (hr : Reading.plain? r = r')
    (hs : Reading.plain? s = s') :
    Reading.plain? (if c then r else s) = if c then r' else s' := by
  by_cases h : c
  · rw [if_pos h, if_pos h, hr]
  · rw [if_neg h, if_neg h, hs]

/-- What is read leaves fewer tokens. -/
theorem length_lt_of_plain {r : Reading α n} {v : α} {rest : List Token}
    (h : r.plain = .ok (v, rest)) : rest.length < n := by
  cases r with
  | error e => cases h
  | ok p =>
    cases h
    exact p.shorter

theorem length_lt_of_plain? {r : Except Diagnostic (Option (Parsed α n))} {v : α}
    {rest : List Token} (h : Reading.plain? r = .ok (some (v, rest))) : rest.length < n := by
  rcases r with e | - | p
  · cases h
  · cases h
  · cases h
    exact p.shorter

end Reading

namespace Reader

variable (g : Reader)

/-! ## Single tokens -/

@[simp] theorem plain_readToken_nil (ok : Token → Bool) (what : Expected) :
    (g.readToken ok what []).plain = .error (unexpected g.final what) := rfl

@[simp] theorem plain_readToken_cons (ok : Token → Bool) (what : Expected) (t : Token)
    (rest : List Token) :
    (g.readToken ok what (t :: rest)).plain
      = if ok t then .ok (t, rest) else .error (unexpected t what) := by
  rw [readToken]
  split <;> rfl

theorem plain_readMark_cons (kind : TokenKind) {t : Token} (h : t.kind = kind) (mark : String)
    (rest : List Token) : (g.readMark kind mark (t :: rest)).plain = .ok (t, rest) := by
  rw [readMark, plain_readToken_cons, if_pos (decide_eq_true h)]

theorem plain_readWord_cons {word : String} {t : Token} (h : t.isWord word = true)
    (rest : List Token) : (g.readWord word (t :: rest)).plain = .ok (t, rest) := by
  rw [readWord, plain_readToken_cons, if_pos h]

@[simp] theorem peek_nil : g.peek [] = g.final := rfl

@[simp] theorem peek_cons (t : Token) (rest : List Token) : g.peek (t :: rest) = t := rfl

@[simp] theorem peekSecond_nil : g.peekSecond [] = g.final := rfl

@[simp] theorem peekSecond_cons (t : Token) (rest : List Token) :
    g.peekSecond (t :: rest) = g.peek rest := by
  cases rest <;> rfl

/-! ## References -/

theorem plain_readClass_cons (t : Token) (rest : List Token) :
    (g.readClass (t :: rest)).plain = match t.kind with
      | .word =>
        match ObjectClass.ofKeyword? t.text with
        | some cls => .ok (cls, rest)
        | none => .error (unexpected t .className)
      | .lbracket =>
        match rest with
        | u :: rest' =>
          if u.kind = .rbracket then .ok (.container, rest') else .error (unexpected t .className)
        | [] => .error (unexpected t .className)
      | _ => .error (unexpected t .className) := by
  unfold readClass
  dsimp only
  cases t.kind <;> dsimp only
  case word => cases ObjectClass.ofKeyword? t.text <;> rfl
  case lbracket =>
    cases rest with
    | nil => rfl
    | cons u rest =>
      dsimp only
      split <;> rfl
  all_goals rfl

/-- A place in a sequence, and the tokens after it. -/
def plainOrdinal? (ts : List Token) : Option ((Nat × Bool) × List Token) :=
  (readOrdinal? ts).map Parsed.plain

theorem plainOrdinal?_cons (t : Token) (rest : List Token) :
    plainOrdinal? (t :: rest) = match t.kind with
      | .nth n =>
        match rest with
        | u :: rest' =>
          if u.isWord "last" then some ((n, true), rest') else some ((n, false), u :: rest')
        | [] => some ((n, false), [])
      | _ => if t.isWord "last" then some ((1, true), rest) else none := by
  rw [plainOrdinal?, readOrdinal?]
  cases t.kind <;> dsimp only
  case nth n =>
    cases rest with
    | nil => rfl
    | cons u rest =>
      dsimp only
      split <;> rfl
  all_goals split <;> rfl

/-- Labels of members, and the tokens after them. -/
def plainMembers (pos : SourcePos) (group : ObjectRef) (ts : List Token) :
    ObjectRef × List Token :=
  (readMembers pos group ts).plain

theorem plainMembers_cons_cons (pos : SourcePos) (group : ObjectRef) (d l : Token)
    (rest : List Token) :
    plainMembers pos group (d :: l :: rest) =
      if d.kind = .dot ∧ l.kind = .label
      then plainMembers pos (.member pos group l.pos (.label l.text)) rest
      else (group, d :: l :: rest) := by
  rw [plainMembers, readMembers]
  split <;> rfl

@[simp] theorem plainMembers_nil (pos : SourcePos) (group : ObjectRef) :
    plainMembers pos group [] = (group, []) := by
  rw [plainMembers, readMembers]
  · rfl
  · simp

@[simp] theorem plainMembers_singleton (pos : SourcePos) (group : ObjectRef) (t : Token) :
    plainMembers pos group [t] = (group, [t]) := by
  rw [plainMembers, readMembers]
  · rfl
  · simp

theorem plain_readObjectRef_nil :
    (g.readObjectRef []).plain = .error (unexpected g.final .objectReference) := by
  rw [readObjectRef]
  rfl

theorem plain_readObjectRef_cons (t : Token) (rest : List Token) :
    (g.readObjectRef (t :: rest)).plain =
      if t.kind = .label then .ok (plainMembers t.pos (.select t.pos (.label t.text)) rest)
      else if t.isWord "previous" then .ok (plainMembers t.pos (.previous t.pos) rest)
      else match plainOrdinal? (t :: rest) with
        | none => .error (unexpected t .objectReference)
        | some place => (do
          let cls ← (g.readClass place.2).plain
          let selector := Selector.ordinal cls.1 place.1.1 place.1.2
          match cls.2 with
          | u :: more =>
            if u.isWord "in" then do
              let group ← (g.readObjectRef more).plain
              .ok (plainMembers t.pos (.member t.pos group.1 t.pos selector) group.2)
            else .ok (plainMembers t.pos (.select t.pos selector) (u :: more))
          | [] => .ok (.select t.pos selector, [])) := by
  rw [readObjectRef]
  split_ifs with h₁ h₂
  · rfl
  · rfl
  · rw [plainOrdinal?]
    cases readOrdinal? (t :: rest) with
    | none => rfl
    | some place =>
      refine Reading.plain_bind fun cls => ?_
      obtain ⟨cls, left, hlt⟩ := cls
      cases left with
      | nil => rfl
      | cons u more =>
        dsimp only [Parsed.plain]
        split_ifs with h₃
        · exact Reading.plain_bind fun group => rfl
        · rfl

/-! ## Positions named by an object -/

theorem plain_readAnchor_cons (t : Token) (rest : List Token) :
    (g.readAnchor (t :: rest)).plain = match anchorOf? t with
      | some a => .ok (a, rest)
      | none => .error (unexpected t .anchorName) := by
  rw [readAnchor]
  cases anchorOf? t <;> rfl

theorem plain?_readVertex_cons (pos : SourcePos) (place : Nat × Bool) (t : Token)
    (rest : List Token) :
    Reading.plain? (g.readVertex pos place (t :: rest)) =
      if t.isWord "vertex" then (do
        let ofWord ← (g.readWord "of" rest).plain
        let ref ← (g.readObjectRef ofWord.2).plain
        .ok (some (.vertex pos place.1 ref.1 place.2, ref.2)))
      else .ok none := by
  rw [readVertex]
  split_ifs with h
  · exact Reading.plain?_bind fun ofWord => Reading.plain?_bind fun ref => rfl
  · rfl

theorem plain_readObjectPlace (pos : SourcePos) (ts : List Token) :
    (g.readObjectPlace pos ts).plain = (do
      let ref ← (g.readObjectRef ts).plain
      match ref.2 with
      | t :: rest =>
        match t.kind with
        | .edge a => .ok (.object pos ref.1 (some a), rest)
        | _ => .ok (.object pos ref.1 none, t :: rest)
      | [] => .ok (.object pos ref.1 none, [])) := by
  rw [readObjectPlace]
  refine Reading.plain_bind fun ref => ?_
  obtain ⟨ref, left, hlt⟩ := ref
  cases left with
  | nil => rfl
  | cons t rest =>
    dsimp only [Parsed.plain]
    cases t.kind <;> rfl

/-- What is read where a place without an anchor stands: a vertex, or else an object. -/
def plainUnanchored (pos : SourcePos) (ts : List Token) :
    Except Diagnostic (Position × List Token) :=
  match plainOrdinal? ts with
  | some place => do
    match ← Reading.plain? (g.readVertex pos place.1 place.2) with
    | some v => .ok v
    | none => (g.readObjectPlace pos ts).plain
  | none => (g.readObjectPlace pos ts).plain

theorem plain_unanchored (t : Token) (rest : List Token) :
    Reading.plain (match readOrdinal? (t :: rest) with
      | some place => (do
        match ← g.readVertex t.pos place.value place.rest with
        | some v => .ok (place.following v)
        | none => g.readObjectPlace t.pos (t :: rest))
      | none => g.readObjectPlace t.pos (t :: rest)) = g.plainUnanchored t.pos (t :: rest) := by
  rw [plainUnanchored, plainOrdinal?]
  cases readOrdinal? (t :: rest) with
  | none => rfl
  | some place => exact Reading.plain_bind? fun v => by cases v <;> rfl

theorem plain_readPlace_cons (t : Token) (rest : List Token) :
    (g.readPlace (t :: rest)).plain = match anchorOf? t, (g.peek rest).isWord "of" with
      | some a, true => (do
        let ref ← (g.readObjectRef (rest.drop 1)).plain
        .ok (.object t.pos ref.1 (some a), ref.2))
      | _, _ => g.plainUnanchored t.pos (t :: rest) := by
  unfold readPlace
  dsimp only
  cases anchorOf? t with
  | none => exact g.plain_unanchored t rest
  | some a =>
    cases (g.peek rest).isWord "of" with
    | false => exact g.plain_unanchored t rest
    | true => exact Reading.plain_bind fun ref => rfl

/-! ## Numbers -/

theorem plain_readPlaceScalar (ts : List Token) :
    (g.readPlaceScalar ts).plain = (do
      let place ← (g.readPlace ts).plain
      match place.2 with
      | d :: w :: rest =>
        match if d.kind = .dot ∧ w.kind = .word
          then scalarOfPlace? (g.peek ts).pos place.1 w.text else none with
        | some s => .ok (s, rest)
        | none => .error (unexpected d .property)
      | _ => .error (unexpected (g.peek place.2) .property)) := by
  rw [readPlaceScalar]
  refine Reading.plain_bind fun place => ?_
  obtain ⟨place, left, hlt⟩ := place
  rcases left with - | ⟨d, - | ⟨w, rest⟩⟩
  · rfl
  · rfl
  · dsimp only [Parsed.plain]
    generalize (if d.kind = .dot ∧ w.kind = .word
      then scalarOfPlace? (g.peek ts).pos place w.text else none) = s
    cases s <;> rfl

theorem plain_readExpression (ts : List Token) :
    (g.readExpression ts).plain = (do
      let left ← (g.readTerm ts).plain
      (g.readSums left.1 left.2).plain) := by
  rw [readExpression]
  exact Reading.plain_bind fun left => Reading.plain_bind_same fun all => rfl

@[simp] theorem plain_readSums_nil (left : Scalar) :
    (g.readSums left []).plain = .ok (left, []) := by
  rw [readSums]
  rfl

theorem plain_readSums_cons (left : Scalar) (t : Token) (rest : List Token) :
    (g.readSums left (t :: rest)).plain = match t.kind with
      | .plus => (do
        let right ← (g.readTerm rest).plain
        (g.readSums (.binary t.pos .add left right.1) right.2).plain)
      | .minus => (do
        let right ← (g.readTerm rest).plain
        (g.readSums (.binary t.pos .sub left right.1) right.2).plain)
      | _ => .ok (left, t :: rest) := by
  rw [readSums.eq_def]
  dsimp only
  cases t.kind <;> try rfl
  all_goals exact Reading.plain_bind fun right => Reading.plain_bind_same fun all => rfl

theorem plain_readTerm (ts : List Token) :
    (g.readTerm ts).plain = (do
      let left ← (g.readSigned ts).plain
      (g.readFactors left.1 left.2).plain) := by
  rw [readTerm]
  exact Reading.plain_bind fun left => Reading.plain_bind_same fun all => rfl

@[simp] theorem plain_readFactors_nil (left : Scalar) :
    (g.readFactors left []).plain = .ok (left, []) := by
  rw [readFactors]
  rfl

theorem plain_readFactors_cons (left : Scalar) (t : Token) (rest : List Token) :
    (g.readFactors left (t :: rest)).plain = match t.kind with
      | .star => (do
        let right ← (g.readSigned rest).plain
        (g.readFactors (.binary t.pos .mul left right.1) right.2).plain)
      | .slash => (do
        let right ← (g.readSigned rest).plain
        (g.readFactors (.binary t.pos .div left right.1) right.2).plain)
      | _ => .ok (left, t :: rest) := by
  rw [readFactors.eq_def]
  dsimp only
  cases t.kind <;> try rfl
  all_goals exact Reading.plain_bind fun right => Reading.plain_bind_same fun all => rfl

theorem plain_readSigned_nil :
    (g.readSigned []).plain = .error (unexpected g.final .expression) := by
  rw [readSigned]
  rfl

theorem plain_readSigned_cons (t : Token) (rest : List Token) :
    (g.readSigned (t :: rest)).plain = match t.kind with
      | .minus => (do
        let operand ← (g.readSigned rest).plain
        .ok (.neg t.pos operand.1, operand.2))
      | .plus => (g.readSigned rest).plain
      | _ => (g.readPrimary (t :: rest)).plain := by
  rw [readSigned.eq_def]
  dsimp only
  cases t.kind <;> try rfl
  · exact Reading.plain_bind_same fun operand => rfl
  · exact Reading.plain_bind fun operand => rfl

theorem plain_readPrimary_nil :
    (g.readPrimary []).plain = .error (unexpected g.final .expression) := by
  rw [readPrimary]
  rfl

theorem plain_readPrimary_cons (t : Token) (rest : List Token) :
    (g.readPrimary (t :: rest)).plain = match t.kind with
      | .number v u => .ok (.number t.pos v u, rest)
      | .percent v => .ok (.percent t.pos v, rest)
      | .sigil => .ok (.var t.pos t.text, rest)
      | .color name => .ok (.color t.pos name, rest)
      | .label =>
        if g.namesColor t (g.peek rest) then .ok (.color t.pos (lowercase t.text), rest)
        else (g.readPlaceScalar (t :: rest)).plain
      | .lparen => (do
        let inner ← (g.readExpression rest).plain
        let close ← (g.readMark .rparen ")" inner.2).plain
        .ok (inner.1, close.2))
      | .nth _ => (g.readPlaceScalar (t :: rest)).plain
      | .word =>
        if isFunctionName t.text ∧ (g.peek rest).kind = .lparen then (g.readCall t rest).plain
        else if !isKeyword t.text then .ok (.var t.pos t.text, rest)
        else if t.text = "previous" ∨ t.text = "last" then (g.readPlaceScalar (t :: rest)).plain
        else .error (unexpected t .expression)
      | _ => .error (unexpected t .expression) := by
  rw [readPrimary.eq_def]
  dsimp only
  cases t.kind <;> dsimp only
  case label => split <;> rfl
  case lparen => exact Reading.plain_bind fun inner => Reading.plain_bind fun close => rfl
  case word =>
    split_ifs
    · exact Reading.plain_bind_same fun call => rfl
    all_goals rfl
  all_goals rfl

/-! ## Calls -/

/-- A call goes on as its name and the token after its parenthesis say. -/
theorem plain_readCall (name : Token) (ts : List Token) :
    (g.readCall name ts).plain = (do
      let start ← (g.readMark .lparen "(" ts).plain
      match ScalarFunction.ofName? name.text with
      | some f =>
        if (g.peek start.2).kind = .rparen then .ok (.call name.pos f [], start.2.drop 1)
        else do
          let args ← (g.readScalarArgs start.2).plain
          .ok (.call name.pos f args.1, args.2)
      | none =>
        if (g.peek start.2).kind = .rparen then .ok (.dist name.pos [], start.2.drop 1)
        else do
          let args ← (g.readPositionArgs start.2).plain
          .ok (.dist name.pos args.1, args.2)) := by
  rw [readCall]
  refine Reading.plain_bind fun start => ?_
  dsimp only [Parsed.plain]
  cases ScalarFunction.ofName? name.text with
  | none =>
    cases (g.peek start.rest).kind <;> first
      | rfl
      | exact Reading.plain_bind fun args => rfl
  | some f =>
    cases (g.peek start.rest).kind <;> first
      | rfl
      | exact Reading.plain_bind fun args => rfl

theorem plain_readScalarArgs (ts : List Token) :
    (g.readScalarArgs ts).plain = (do
      let first ← (g.readExpression ts).plain
      match first.2 with
      | t :: rest =>
        match t.kind with
        | .rparen => .ok ([first.1], rest)
        | .comma => do
          let more ← (g.readScalarArgs rest).plain
          .ok (first.1 :: more.1, more.2)
        | _ => .error (unexpected t .commaOrParen)
      | [] => .error (unexpected g.final .commaOrParen)) := by
  rw [readScalarArgs]
  refine Reading.plain_bind fun first => ?_
  obtain ⟨first, left, hlt⟩ := first
  cases left with
  | nil => rfl
  | cons t rest =>
    dsimp only [Parsed.plain]
    cases t.kind <;> try rfl
    exact Reading.plain_bind fun more => rfl

theorem plain_readPositionArgs (ts : List Token) :
    (g.readPositionArgs ts).plain = (do
      let first ← (g.readPosition ts).plain
      match first.2 with
      | t :: rest =>
        match t.kind with
        | .rparen => .ok ([first.1], rest)
        | .comma => do
          let more ← (g.readPositionArgs rest).plain
          .ok (first.1 :: more.1, more.2)
        | _ => .error (unexpected t .commaOrParen)
      | [] => .error (unexpected g.final .commaOrParen)) := by
  rw [readPositionArgs]
  refine Reading.plain_bind fun first => ?_
  obtain ⟨first, left, hlt⟩ := first
  cases left with
  | nil => rfl
  | cons t rest =>
    dsimp only [Parsed.plain]
    cases t.kind <;> try rfl
    exact Reading.plain_bind fun more => rfl

/-! ## Positions -/

theorem plain_readPosition (ts : List Token) :
    (g.readPosition ts).plain = (do
      let base ← (g.readPositionPrimary ts).plain
      (g.readOffsets base.1 base.2).plain) := by
  rw [readPosition]
  exact Reading.plain_bind fun base => Reading.plain_bind_same fun all => rfl

@[simp] theorem plain_readOffsets_nil (base : Position) :
    (g.readOffsets base []).plain = .ok (base, []) := by
  rw [readOffsets]
  rfl

/-- An offset that cannot be read is left alone, together with its sign. -/
theorem plain_readOffsets_cons (base : Position) (t : Token) (rest : List Token) :
    (g.readOffsets base (t :: rest)).plain =
      if t.kind = .plus ∨ t.kind = .minus then
        match (g.readOffsetPair rest).plain with
        | .error _ => .ok (base, t :: rest)
        | .ok pair =>
          (g.readOffsets (.offset t.pos base pair.1.1 pair.1.2 (t.kind = .minus)) pair.2).plain
      else .ok (base, t :: rest) := by
  rw [readOffsets]
  split_ifs with h
  · cases g.readOffsetPair rest with
    | error e => rfl
    | ok pair => exact Reading.plain_bind_same fun all => rfl
  · rfl

theorem plain_readOffsetPair_nil :
    (g.readOffsetPair []).plain = .error (unexpected g.final .expression) := by
  rw [readOffsetPair]
  rfl

theorem plain_readOffsetPair_cons (t : Token) (rest : List Token) :
    (g.readOffsetPair (t :: rest)).plain =
      if t.kind = .lparen then (do
        let dx ← (g.readExpression rest).plain
        let comma ← (g.readMark .comma "," dx.2).plain
        let dy ← (g.readExpression comma.2).plain
        let close ← (g.readMark .rparen ")" dy.2).plain
        .ok ((dx.1, dy.1), close.2))
      else (do
        let dx ← (g.readExpression (t :: rest)).plain
        let comma ← (g.readMark .comma "," dx.2).plain
        let dy ← (g.readExpression comma.2).plain
        .ok ((dx.1, dy.1), dy.2)) := by
  rw [readOffsetPair]
  split_ifs with h
  · exact Reading.plain_bind fun dx => Reading.plain_bind fun comma =>
      Reading.plain_bind fun dy => Reading.plain_bind fun close => rfl
  · exact Reading.plain_bind fun dx => Reading.plain_bind fun comma =>
      Reading.plain_bind fun dy => rfl

/-- What starts as a number and does not go on as a position is read again. -/
theorem plain_readPositionPrimary (ts : List Token) :
    (g.readPositionPrimary ts).plain =
      if (g.peek ts).isWord "between" then (do
        let keyword ← (g.readWord "between" ts).plain
        let ends ← (g.readEnds keyword.2).plain
        .ok (.between (g.peek ts).pos none ends.1.1 ends.1.2, ends.2))
      else
        match (g.readExpression ts).plain with
        | .error _ => (g.readGroupOrPlace ts).plain
        | .ok leading => (do
          match ← Reading.plain? (g.readAfterScalar (g.peek ts).pos leading.1 leading.2) with
          | some p => .ok p
          | none => (g.readGroupOrPlace ts).plain) := by
  rw [readPositionPrimary]
  split_ifs with h
  · exact Reading.plain_bind fun keyword => Reading.plain_bind fun ends => rfl
  · cases g.readExpression ts with
    | error e => rfl
    | ok leading => exact Reading.plain_bind? fun p => by cases p <;> rfl

theorem plain_readEnds (ts : List Token) :
    (g.readEnds ts).plain = (do
      let a ← (g.readPosition ts).plain
      let conjunction ← (g.readWord "and" a.2).plain
      let b ← (g.readPosition conjunction.2).plain
      .ok ((a.1, b.1), b.2)) := by
  rw [readEnds]
  exact Reading.plain_bind fun a => Reading.plain_bind fun conjunction =>
    Reading.plain_bind fun b => rfl

theorem plain_readGroupOrPlace_nil :
    (g.readGroupOrPlace []).plain = .error (unexpected g.final .objectReference) := by
  rw [readGroupOrPlace]
  rfl

theorem plain_readGroupOrPlace_cons (t : Token) (rest : List Token) :
    (g.readGroupOrPlace (t :: rest)).plain =
      if t.kind = .lparen then (do
        let first ← (g.readPosition rest).plain
        match first.2 with
        | [] => .error (unexpected g.final (.exactly ")"))
        | u :: more =>
          match u.kind with
          | .comma => do
            let second ← (g.readPosition more).plain
            let close ← (g.readMark .rparen ")" second.2).plain
            .ok (.mix t.pos first.1 second.1, close.2)
          | .rparen => .ok (first.1, more)
          | _ => .error (unexpected u (.exactly ")")))
      else (g.readPlace (t :: rest)).plain := by
  rw [readGroupOrPlace]
  split_ifs with h
  · refine Reading.plain_bind fun first => ?_
    obtain ⟨first, left, hlt⟩ := first
    cases left with
    | nil => rfl
    | cons u more =>
      dsimp only [Parsed.plain]
      cases u.kind <;> try rfl
      exact Reading.plain_bind fun second => Reading.plain_bind fun close => rfl
  · rfl

@[simp] theorem plain?_readAfterScalar_nil (pos : SourcePos) (leading : Scalar) :
    Reading.plain? (g.readAfterScalar pos leading []) = .ok none := by
  rw [readAfterScalar]
  rfl

theorem plain?_readAfterScalar_cons (pos : SourcePos) (leading : Scalar) (t : Token)
    (rest : List Token) :
    Reading.plain? (g.readAfterScalar pos leading (t :: rest)) = match t.kind with
      | .comma => (do
        let y ← (g.readExpression rest).plain
        .ok (some (.pair pos leading y.1, y.2)))
      | .less => (do
        let a ← (g.readPosition rest).plain
        let comma ← (g.readMark .comma "," a.2).plain
        let b ← (g.readPosition comma.2).plain
        let close ← (g.readMark .greater ">" b.2).plain
        .ok (some (.between pos (some leading) a.1 b.1, close.2)))
      | .word =>
        if t.text = "of" ∧ (g.peek rest).isWord "the" ∧ (g.peekSecond rest).isWord "way" then (do
          let between ← (g.readWord "between" (rest.drop 2)).plain
          let ends ← (g.readEnds between.2).plain
          .ok (some (.between pos (some leading) ends.1.1 ends.1.2, ends.2)))
        else
          match relativeSide? t.text with
          | some side => (do
            let base ← (g.readPosition (skipWord "of" rest)).plain
            .ok (some (.relative pos leading side base.1, base.2)))
          | none =>
            if t.text = "heading" then (do
              let angle ← (g.readExpression rest).plain
              let source ← (g.readWord "from" angle.2).plain
              let base ← (g.readPosition source.2).plain
              .ok (some (.heading pos leading angle.1 base.1, base.2)))
            else .ok none
      | _ => .ok none := by
  rw [readAfterScalar.eq_def]
  dsimp only
  cases t.kind <;> dsimp only
  case comma => exact Reading.plain?_bind fun y => rfl
  case less =>
    exact Reading.plain?_bind fun a => Reading.plain?_bind fun comma =>
      Reading.plain?_bind fun b => Reading.plain?_bind fun close => rfl
  case word =>
    split_ifs with h
    · exact Reading.plain?_bind fun between => Reading.plain?_bind fun ends => rfl
    all_goals cases relativeSide? t.text with
      | some side => exact Reading.plain?_bind fun base => rfl
      | none => first
        | rfl
        | exact Reading.plain?_bind fun angle => Reading.plain?_bind fun source =>
            Reading.plain?_bind fun base => rfl
  all_goals rfl

end Reader

end DiagramScript
