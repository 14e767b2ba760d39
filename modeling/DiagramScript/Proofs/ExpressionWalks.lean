import DiagramScript.Proofs.ScriptWalks

/-!
# Walks over expressions

A walk over a reference, a number or a point follows the reader of that phrase, as soon as it may
call itself deeply enough.  How deeply that is, is the measure by which the reader itself ends:
sixteen calls for each token that is left, and a few more for each kind of phrase.

* `objectRef_follows`, `place_follows` — references, and the positions that are named by one.
* `arguments_follows` — arguments, whatever they are.
* `expression_follows`, `position_follows` — numbers and points, and the walks they use.
-/

namespace DiagramScript

namespace Tape

variable {x : Tape} {outer : List Pending} {i : Nat}

/-! ## References to objects -/

theorem className_follows (hi : i ≤ x.body.length) :
    x.Follows outer x.className i (x.reader.readClass (x.left i)).plain := by
  refine Ends.peek (Ends.peekSecond ?_)
  rcases x.left_cases i with hl | ⟨t, hl, hlt⟩
  · rw [hl, Reader.peek_nil, x.final]
    exact Ends.fail hi rfl
  · rw [hl, Reader.plain_readClass_cons, Reader.peek_cons, Reader.peekSecond_cons]
    cases hk : t.kind <;> dsimp only
    case word =>
      cases ObjectClass.ofKeyword? t.text with
      | none => exact Ends.fail hi rfl
      | some cls => exact Ends.next hl (by simp [hk]) (Ends.pure hlt rfl)
    case lbracket =>
      rcases x.left_cases (i + 1) with hl' | ⟨u, hl', hlt'⟩
      · rw [hl', Reader.peek_nil, x.final]
        exact Ends.fail hi rfl
      · rw [hl', Reader.peek_cons]
        by_cases hu : u.kind = .rbracket
        · rw [if_pos hu]
          dsimp only
          rw [if_pos hu]
          exact Ends.next hl (by simp [hk]) (Ends.next hl' (by simp [hu]) (Ends.pure hlt' rfl))
        · rw [if_neg hu]
          dsimp only
          rw [if_neg hu]
          exact Ends.fail hi rfl
    all_goals exact Ends.fail hi rfl

theorem plainOrdinal?_of_not_begins {t : Token} (h : beginsOrdinal t = false)
    (rest : List Token) : Reader.plainOrdinal? (t :: rest) = none := by
  rw [Reader.plainOrdinal?_cons]
  unfold beginsOrdinal at h
  cases hk : t.kind <;> rw [hk] at h <;> first
    | cases h
    | exact if_neg (by simpa using h)

/-- Where a place in a sequence starts, one is read. -/
theorem ordinal_follows {t : Token} (hl : x.left i = t :: x.left (i + 1))
    (hlt : i + 1 ≤ x.body.length) (h : beginsOrdinal t = true) :
    ∃ place, Reader.plainOrdinal? (x.left i) = some place ∧
      ∀ outer, x.Follows outer x.ordinal i (.ok place) := by
  rw [hl, Reader.plainOrdinal?_cons]
  unfold beginsOrdinal at h
  have last : t.isWord "last" = true → (∀ n, t.kind ≠ .nth n) → ∃ place,
      (if t.isWord "last" = true then some ((1, true), x.left (i + 1)) else none) = some place ∧
        ∀ outer, x.Follows outer x.ordinal i (.ok place) := by
    intro hw hn
    refine ⟨_, if_pos hw, fun outer => Ends.next hl (Ends.isWord_stops hw) ?_⟩
    cases hk : t.kind <;> first
      | exact absurd hk (hn _)
      | exact Ends.pure hlt rfl
  cases hk : t.kind <;> rw [hk] at h <;> try exact last h (by simp [hk])
  case nth n =>
    rcases x.left_cases (i + 1) with hl' | ⟨u, hl', hlt'⟩
    · rw [hl']
      refine ⟨_, rfl, fun outer => Ends.next hl (by simp [hk]) ?_⟩
      rw [hk]
      have hn : (x.reader.peek (x.left (i + 1))).isWord "last" = false := by
        rw [hl', Ends.isWord_peek_nil]
      exact Ends.declines hn (Ends.pure hlt (by rw [Gives, hl']; rfl))
    · rw [hl']
      dsimp only
      by_cases hu : u.isWord "last" = true
      · refine ⟨_, if_pos hu, fun outer => Ends.next hl (by simp [hk]) ?_⟩
        rw [hk]
        exact Ends.accepts hl' hu (Ends.isWord_stops hu) (Ends.pure hlt' rfl)
      · refine ⟨_, if_neg hu, fun outer => Ends.next hl (by simp [hk]) ?_⟩
        rw [hk]
        have hn : (x.reader.peek (x.left (i + 1))).isWord "last" = false := by simpa [hl'] using hu
        exact Ends.declines hn (Ends.pure hlt (by rw [Gives, hl']; rfl))

/-- A place in a sequence is behind the index. -/
theorem lt_of_plainOrdinal? {v : Nat × Bool} {j : Nat} (hj : j ≤ x.body.length)
    (h : Reader.plainOrdinal? (x.left i) = some (v, x.left j)) : i < j := by
  obtain ⟨r, -, hr⟩ := Option.map_eq_some_iff.1 h
  have rest : r.rest = x.left j := congrArg Prod.snd hr
  have shorter := r.shorter
  rw [rest, length_left, length_left] at shorter
  omega

theorem members_follows (pos : SourcePos) (depth : Nat) {outer : List Pending} {i : Nat}
    (group : ObjectRef) (hi : i ≤ x.body.length) (hd : x.body.length - i < depth) :
    x.Follows outer (x.members depth pos group) i
      (.ok (Reader.plainMembers pos group (x.left i))) := by
  induction depth generalizing outer i group with
  | zero => exact absurd hd (Nat.not_lt_zero _)
  | succ depth ih =>
    refine Ends.pass (Ends.peek (Ends.peekSecond ?_))
    rcases x.left_cases i with hl | ⟨d, hl, hlt⟩
    · rw [hl, Reader.peek_nil, x.final, if_neg (by simp), Reader.plainMembers_nil]
      exact Ends.pure hi (by rw [Repeats, hl])
    rcases x.left_cases (i + 1) with hl' | ⟨l, hl', hlt'⟩
    · rw [hl, Reader.peekSecond_cons, hl', Reader.peek_nil, x.final, if_neg (by simp),
        Reader.plainMembers_singleton]
      exact Ends.pure hi (by rw [Repeats, hl, hl'])
    · rw [hl, Reader.peekSecond_cons, hl', Reader.peek_cons, Reader.peek_cons,
        Reader.plainMembers_cons_cons]
      by_cases h : d.kind = .dot ∧ l.kind = .label
      · rw [if_pos h, if_pos h]
        refine Ends.next hl (by simp [h.1]) (Ends.next hl' (by simp [h.2]) (Ends.pure hlt' ?_))
        exact ⟨by omega, ih _ hlt' (by omega)⟩
      · rw [if_neg h, if_neg h]
        exact Ends.pure hi (by rw [Repeats, hl, hl'])

theorem objectRef_follows (depth : Nat) {outer : List Pending} {i : Nat}
    (hi : i ≤ x.body.length) (hd : x.body.length - i < depth) :
    x.Follows outer (x.objectRef depth) i (x.reader.readObjectRef (x.left i)).plain := by
  induction depth generalizing outer i with
  | zero => exact absurd hd (Nat.not_lt_zero _)
  | succ depth ih =>
    refine Ends.peek ?_
    rcases x.left_cases i with hl | ⟨t, hl, hlt⟩
    · rw [hl, Reader.peek_nil, Reader.plain_readObjectRef_nil, if_neg (by simp [x.final]),
        if_neg (by simp [Token.isWord, x.final]),
        if_neg (by simp [beginsOrdinal, Token.isWord, x.final])]
      exact Ends.fail hi rfl
    rw [hl, Reader.peek_cons, Reader.plain_readObjectRef_cons]
    refine Follows.ite (fun hlabel => ?_) fun _ => ?_
    · exact Ends.next hl (by simp [hlabel]) (members_follows _ _ _ hlt (by omega))
    refine Follows.ite (fun hprevious => ?_) fun _ => ?_
    · exact Ends.next hl (Ends.isWord_stops hprevious) (members_follows _ _ _ hlt (by omega))
    cases hordinal : beginsOrdinal t with
    | false =>
      rw [if_neg (by simp), plainOrdinal?_of_not_begins hordinal]
      exact Ends.fail hi rfl
    | true =>
      obtain ⟨⟨place, rest⟩, found, reads⟩ := ordinal_follows hl hlt hordinal
      rw [if_pos rfl, ← hl, found]
      refine Ends.given (reads outer) fun j hj hrest => ?_
      subst hrest
      refine Follows.bind (className_follows hj) fun cls k hk hq => ?_
      have hij := lt_of_plainOrdinal? hj found
      have hjk := lt_of_plain hk hq
      dsimp only
      rcases x.left_cases k with hl' | ⟨u, hl', hk'⟩
      · have rest : x.Follows outer (x.members depth t.pos
            (.select t.pos (.ordinal cls place.1 place.2))) k _ :=
          members_follows t.pos depth _ hk (by omega)
        rw [hl', Reader.plainMembers_nil] at rest
        rw [hl']
        exact Ends.declines (by rw [hl', Ends.isWord_peek_nil]) rest
      · rw [hl']
        dsimp only
        by_cases hin : u.isWord "in" = true
        · rw [if_pos hin]
          refine Ends.accepts hl' hin (Ends.isWord_stops hin) ?_
          refine Follows.bind (ih hk' (by omega)) fun group l hm hg => ?_
          have := lt_of_plain hm hg
          exact members_follows _ _ _ hm (by omega)
        · have rest : x.Follows outer (x.members depth t.pos
              (.select t.pos (.ordinal cls place.1 place.2))) k _ :=
            members_follows t.pos depth _ hk (by omega)
          rw [if_neg hin, ← hl']
          exact Ends.declines (by rw [hl', Reader.peek_cons, Bool.eq_false_iff.2 hin]) rest

/-! ## Positions named by an object -/

/-- No end of a script names an anchor. -/
theorem anchorOf?_stops {t : Token} {a : Anchor} (h : Reader.anchorOf? t = some a) :
    t.kind ≠ .eof := by
  intro ht
  rw [Reader.anchorOf?, ht] at h
  cases h

theorem anchor_follows (hi : i ≤ x.body.length) :
    x.Follows outer x.anchor i (x.reader.readAnchor (x.left i)).plain := by
  refine Ends.peek ?_
  rcases x.left_cases i with hl | ⟨t, hl, hlt⟩
  · rw [hl, Reader.peek_nil, Reader.anchorOf?, x.final]
    exact Ends.fail hi rfl
  · rw [hl, Reader.peek_cons, Reader.plain_readAnchor_cons]
    cases ha : Reader.anchorOf? t with
    | none => exact Ends.fail hi rfl
    | some a => exact Ends.next hl (anchorOf?_stops ha) (Ends.pure hlt rfl)

/-- A point of a path is read where a place in a sequence starts; otherwise nothing is. -/
theorem vertex_follows {depth : Nat} (pos : SourcePos) {t : Token}
    (hl : x.left i = t :: x.left (i + 1)) (hlt : i + 1 ≤ x.body.length)
    (h : beginsOrdinal t = true) (hd : x.body.length - i < depth) :
    ∃ place, Reader.plainOrdinal? (x.left i) = some place ∧
      ∀ outer, x.Follows outer (x.vertex depth pos) i
        (orNothing (x.left i) (Reading.plain? (x.reader.readVertex pos place.1 place.2))) := by
  obtain ⟨⟨place, rest⟩, found, reads⟩ := ordinal_follows hl hlt h
  refine ⟨(place, rest), found, fun outer =>
    Ends.saving (Ends.given (reads _) fun j hj hrest => ?_)⟩
  subst hrest
  have hij := lt_of_plainOrdinal? hj found
  dsimp only
  rcases x.left_cases j with hl' | ⟨u, hl', hj'⟩
  · refine Ends.declines (by rw [hl', Ends.isWord_peek_nil]) (Ends.rewind ?_)
    rw [hl']
    exact Ends.pure (by omega) rfl
  · rw [hl', Reader.plain?_readVertex_cons]
    by_cases hv : u.isWord "vertex" = true
    · rw [if_pos hv]
      refine Ends.accepts hl' hv (Ends.isWord_stops hv) ?_
      refine Follows.bind? (Ends.expectWord "of" hj') fun w k hk hw => ?_
      have hjk := lt_of_plain hk hw
      refine Follows.bind? (objectRef_follows depth hk (by omega)) fun ref l hl'' _ => ?_
      exact Ends.pure hl'' rfl
    · rw [if_neg hv]
      refine Ends.declines (by rw [hl', Reader.peek_cons, Bool.eq_false_iff.2 hv]) ?_
      exact Ends.rewind (Ends.pure (by omega) rfl)

theorem objectPlace_follows {depth : Nat} (pos : SourcePos) (hi : i ≤ x.body.length)
    (hd : x.body.length - i < depth) :
    x.Follows outer (x.objectPlace depth pos) i
      (x.reader.readObjectPlace pos (x.left i)).plain := by
  rw [Reader.plain_readObjectPlace]
  refine Follows.bind (objectRef_follows depth hi hd) fun ref j hj _ => Ends.peek ?_
  rcases x.left_cases j with hl | ⟨t, hl, hlt⟩
  · rw [hl, Reader.peek_nil, x.final]
    exact Ends.pure hj (by rw [Gives, hl])
  · rw [hl, Reader.peek_cons]
    dsimp only
    cases hk : t.kind <;> dsimp only
    case edge a => exact Ends.next hl (by simp [hk]) (Ends.pure hlt rfl)
    all_goals exact Ends.pure hj (by rw [Gives, hl])

/-- A point of a path is read where a place in a sequence starts, and an object if there is none
or the vertex is missing. -/
theorem unanchored_follows {depth : Nat} (pos : SourcePos) {f : Option Position → Walk Position}
    (found : ∀ p, f (some p) = pure p) (missing : f none = x.objectPlace depth pos) {t : Token}
    (hl : x.left i = t :: x.left (i + 1)) (hlt : i + 1 ≤ x.body.length)
    (hd : x.body.length - i < depth) :
    x.Follows outer
      (if beginsOrdinal t = true then x.vertex depth pos >>= f else x.objectPlace depth pos) i
      (x.reader.plainUnanchored pos (x.left i)) := by
  have hi : i ≤ x.body.length := by omega
  rw [Reader.plainUnanchored]
  cases hordinal : beginsOrdinal t with
  | false =>
    have none_ : Reader.plainOrdinal? (x.left i) = none := by
      rw [hl, plainOrdinal?_of_not_begins hordinal]
    rw [if_neg (by simp), none_]
    exact objectPlace_follows pos hi hd
  | true =>
    obtain ⟨place, read, follows⟩ := vertex_follows pos hl hlt hordinal hd
    rw [if_pos rfl, read]
    refine Follows.orElse hi (follows outer) (fun v j hj _ => ?_) fun _ => ?_
    · rw [found]
      exact Ends.pure hj rfl
    · rw [missing]
      exact objectPlace_follows pos hi hd

theorem place_follows {depth : Nat} (hi : i ≤ x.body.length) (hd : x.body.length - i < depth) :
    x.Follows outer (x.place depth) i (x.reader.readPlace (x.left i)).plain := by
  refine Ends.peek (Ends.peekSecond ?_)
  rcases x.left_cases i with hl | ⟨t, hl, hlt⟩
  · have nothing : x.Follows outer (x.objectPlace depth x.reader.final.pos) i _ :=
      objectPlace_follows x.reader.final.pos hi hd
    rw [hl] at nothing ⊢
    rw [Reader.peek_nil, if_neg (by simp [Reader.anchorOf?, x.final]),
      if_neg (by simp [beginsOrdinal, Token.isWord, x.final])]
    rw [Reader.plain_readObjectPlace, Reader.plain_readObjectRef_nil] at nothing
    exact nothing
  rw [hl, Reader.peek_cons, Reader.peekSecond_cons, Reader.plain_readPlace_cons, ← hl]
  cases ha : Reader.anchorOf? t with
  | none =>
    rw [if_neg (by simp)]
    exact unanchored_follows t.pos (fun _ => rfl) rfl hl hlt hd
  | some a =>
    cases hof : (x.reader.peek (x.left (i + 1))).isWord "of" with
    | false =>
      rw [if_neg (by simp)]
      exact unanchored_follows t.pos (fun _ => rfl) rfl hl hlt hd
    | true =>
      have anchored : (x.reader.readAnchor (x.left i)).plain = .ok (a, x.left (i + 1)) := by
        rw [hl, Reader.plain_readAnchor_cons, ha]
      rw [if_pos (by simp)]
      refine Ends.known (anchored ▸ anchor_follows hi) hlt ?_
      obtain ⟨u, hl', hlt', hword⟩ := Ends.left_of_isWord hof
      rw [drop_left]
      refine Ends.next hl' (Ends.isWord_stops hword) ?_
      refine Follows.bind (objectRef_follows depth hlt' (by omega)) fun ref k hk _ => ?_
      exact Ends.pure hk rfl

theorem placeScalar_follows {depth : Nat} (hi : i ≤ x.body.length)
    (hd : x.body.length - i < depth) :
    x.Follows outer (x.placeScalar depth) i (x.reader.readPlaceScalar (x.left i)).plain := by
  rw [Reader.plain_readPlaceScalar]
  refine Ends.peek (Follows.bind (place_follows hi hd) fun p j hj _ => ?_)
  refine Ends.peek (Ends.peekSecond ?_)
  dsimp only
  rcases x.left_cases j with hl | ⟨d, hl, hlt⟩
  · rw [hl, Reader.peek_nil, if_neg (by simp [x.final])]
    exact Ends.fail hj rfl
  rcases x.left_cases (j + 1) with hl' | ⟨w, hl', hlt'⟩
  · rw [hl, Reader.peekSecond_cons, hl', Reader.peek_nil, if_neg (by simp [x.final])]
    exact Ends.fail hj rfl
  · rw [hl, Reader.peekSecond_cons, hl', Reader.peek_cons, Reader.peek_cons]
    dsimp only
    by_cases h : d.kind = .dot ∧ w.kind = .word
    · rw [if_pos h]
      cases Reader.scalarOfPlace? (x.reader.peek (x.left i)).pos p w.text with
      | none => exact Ends.fail hj rfl
      | some s =>
        exact Ends.next hl (by simp [h.1]) (Ends.next hl' (by simp [h.2]) (Ends.pure hlt' rfl))
    · rw [if_neg h]
      exact Ends.fail hj rfl

/-! ## Numbers and points -/

/-- Arguments are read one after the other, as the argument itself is. -/
theorem arguments_follows {α : Type} {argument : Walk α}
    {read : List Token → Except Diagnostic (α × List Token)}
    {readAll : List Token → Except Diagnostic (List α × List Token)}
    (equation : ∀ ts, readAll ts = (do
      let first ← read ts
      match first.2 with
      | t :: rest =>
        match t.kind with
        | .rparen => .ok ([first.1], rest)
        | .comma => do
          let more ← readAll rest
          .ok (first.1 :: more.1, more.2)
        | _ => .error (unexpected t .commaOrParen)
      | [] => .error (unexpected x.reader.final .commaOrParen)))
    (advances : ∀ i j v, j ≤ x.body.length → read (x.left i) = .ok (v, x.left j) → i < j)
    (depth : Nat) {outer : List Pending} {i : Nat} (hi : i ≤ x.body.length)
    (reads : ∀ j outer, i ≤ j → j ≤ x.body.length →
      x.Follows outer argument j (read (x.left j)))
    (hd : x.body.length - i < depth) :
    x.Follows outer (x.arguments argument depth) i (readAll (x.left i)) := by
  induction depth generalizing outer i with
  | zero => exact absurd hd (Nat.not_lt_zero _)
  | succ depth ih =>
    rw [equation]
    refine Ends.pass (Follows.turn (reads i _ (Nat.le_refl i) hi) fun v j hj hv => ?_)
    have hij := advances i j v hj hv
    dsimp only
    rcases x.left_cases j with hl | ⟨t, hl, hlt⟩
    · rw [hl]
      refine Ends.declines (by simp [hl, x.final]) ?_
      exact Ends.mistaken hj (by simp [hl, x.final]) (by rw [hl]; rfl)
    rw [hl]
    dsimp only
    by_cases hclose : t.kind = .rparen
    · rw [hclose]
      exact Ends.accepts hl (by simp [hclose]) (by simp [hclose]) (Ends.pure hlt rfl)
    refine Ends.declines (by simp [hl, hclose]) ?_
    by_cases hcomma : t.kind = .comma
    · rw [hcomma]
      refine Ends.expects hl (by simp [hcomma]) (by simp [hcomma]) (Ends.pure hlt ⟨by omega, ?_⟩)
      refine Follows.bind (ih hlt (fun k outer hk => reads k outer (by omega)) (by omega))
        fun more k hk _ => ?_
      exact Ends.pure hk rfl
    · refine Ends.mistaken hj (by simp [hl, hcomma]) ?_
      rw [hl]
      cases hk : t.kind <;> first
        | exact absurd hk hclose
        | exact absurd hk hcomma
        | rfl

mutual

theorem expression_follows (depth : Nat) {outer : List Pending} {i : Nat}
    (hi : i ≤ x.body.length) (hd : 16 * (x.body.length - i) + 4 < depth) :
    x.Follows outer (x.expression depth) i (x.reader.readExpression (x.left i)).plain := by
  cases depth with
  | zero => exact absurd hd (Nat.not_lt_zero _)
  | succ depth =>
    rw [expression, Reader.plain_readExpression]
    refine Follows.bind (term_follows depth hi (by omega)) fun left j hj hl => ?_
    have := lt_of_plain hj hl
    exact sums_follows depth left hj (by omega)
termination_by depth

theorem sums_follows (depth : Nat) (left : Scalar) {outer : List Pending} {i : Nat}
    (hi : i ≤ x.body.length) (hd : 16 * (x.body.length - i) < depth) :
    x.Follows outer (x.sums depth left) i (x.reader.readSums left (x.left i)).plain := by
  cases depth with
  | zero => exact absurd hd (Nat.not_lt_zero _)
  | succ depth =>
    rw [sums]
    refine Ends.pass (Ends.peek ?_)
    rcases x.left_cases i with hl | ⟨t, hl, hlt⟩
    · rw [hl, Reader.peek_nil, x.final, Reader.plain_readSums_nil]
      exact Ends.pure hi (by rw [Repeats, hl])
    rw [hl, Reader.peek_cons, Reader.plain_readSums_cons]
    cases hk : t.kind <;> dsimp only [sumOperator?]
    case plus | minus =>
      refine Ends.next hl (by simp [hk]) ?_
      refine Follows.turn (term_follows depth hlt (by omega)) fun right j hj hr => ?_
      have := lt_of_plain hj hr
      exact Ends.pure hj ⟨by omega, sums_follows depth _ hj (by omega)⟩
    all_goals exact Ends.pure hi (by rw [Repeats, hl])
termination_by depth

theorem term_follows (depth : Nat) {outer : List Pending} {i : Nat}
    (hi : i ≤ x.body.length) (hd : 16 * (x.body.length - i) + 3 < depth) :
    x.Follows outer (x.term depth) i (x.reader.readTerm (x.left i)).plain := by
  cases depth with
  | zero => exact absurd hd (Nat.not_lt_zero _)
  | succ depth =>
    rw [term, Reader.plain_readTerm]
    refine Follows.bind (signed_follows depth hi (by omega)) fun left j hj hl => ?_
    have := lt_of_plain hj hl
    exact factors_follows depth left hj (by omega)
termination_by depth

theorem factors_follows (depth : Nat) (left : Scalar) {outer : List Pending} {i : Nat}
    (hi : i ≤ x.body.length) (hd : 16 * (x.body.length - i) < depth) :
    x.Follows outer (x.factors depth left) i (x.reader.readFactors left (x.left i)).plain := by
  cases depth with
  | zero => exact absurd hd (Nat.not_lt_zero _)
  | succ depth =>
    rw [factors]
    refine Ends.pass (Ends.peek ?_)
    rcases x.left_cases i with hl | ⟨t, hl, hlt⟩
    · rw [hl, Reader.peek_nil, x.final, Reader.plain_readFactors_nil]
      exact Ends.pure hi (by rw [Repeats, hl])
    rw [hl, Reader.peek_cons, Reader.plain_readFactors_cons]
    cases hk : t.kind <;> dsimp only [factorOperator?]
    case star | slash =>
      refine Ends.next hl (by simp [hk]) ?_
      refine Follows.turn (signed_follows depth hlt (by omega)) fun right j hj hr => ?_
      have := lt_of_plain hj hr
      exact Ends.pure hj ⟨by omega, factors_follows depth _ hj (by omega)⟩
    all_goals exact Ends.pure hi (by rw [Repeats, hl])
termination_by depth

theorem signed_follows (depth : Nat) {outer : List Pending} {i : Nat}
    (hi : i ≤ x.body.length) (hd : 16 * (x.body.length - i) + 2 < depth) :
    x.Follows outer (x.signed depth) i (x.reader.readSigned (x.left i)).plain := by
  cases depth with
  | zero => exact absurd hd (Nat.not_lt_zero _)
  | succ depth =>
    rw [signed]
    refine Ends.peek ?_
    have operand : x.Follows outer (x.primary depth) i _ := primary_follows depth hi (by omega)
    rcases x.left_cases i with hl | ⟨t, hl, hlt⟩
    · rw [hl, Reader.plain_readPrimary_nil] at operand
      rw [hl, Reader.peek_nil, x.final, Reader.plain_readSigned_nil]
      exact operand
    rw [hl, Reader.peek_cons, Reader.plain_readSigned_cons]
    rw [hl] at operand
    cases hk : t.kind <;> dsimp only
    case minus =>
      refine Ends.next hl (by simp [hk]) ?_
      refine Follows.bind (signed_follows depth hlt (by omega)) fun v j hj _ => ?_
      exact Ends.pure hj rfl
    case plus => exact Ends.next hl (by simp [hk]) (signed_follows depth hlt (by omega))
    all_goals exact operand
termination_by depth

theorem primary_follows (depth : Nat) {outer : List Pending} {i : Nat}
    (hi : i ≤ x.body.length) (hd : 16 * (x.body.length - i) + 1 < depth) :
    x.Follows outer (x.primary depth) i (x.reader.readPrimary (x.left i)).plain := by
  cases depth with
  | zero => exact absurd hd (Nat.not_lt_zero _)
  | succ depth =>
    rw [primary]
    refine Ends.peek (Ends.peekSecond ?_)
    have placed : x.Follows outer (x.placeScalar depth) i _ := placeScalar_follows hi (by omega)
    rcases x.left_cases i with hl | ⟨t, hl, hlt⟩
    · rw [hl, Reader.peek_nil, x.final, Reader.plain_readPrimary_nil]
      exact Ends.fail hi rfl
    rw [hl, Reader.peek_cons, Reader.peekSecond_cons, Reader.plain_readPrimary_cons]
    rw [hl] at placed
    have taken : ∀ s : Scalar, t.kind ≠ .eof → x.Follows outer (do
        let _ ← x.next
        pure s) i (.ok (s, x.left (i + 1))) :=
      fun s ht => Ends.next hl ht (Ends.pure hlt rfl)
    cases hk : t.kind <;> dsimp only
    case number | percent | sigil | color => exact taken _ (by simp [hk])
    case label =>
      exact Follows.ite (fun _ => taken _ (by simp [hk])) fun _ => placed
    case lparen =>
      refine Ends.next hl (by simp [hk]) ?_
      refine Follows.bind (expression_follows depth hlt (by omega)) fun inner j hj _ => ?_
      exact Follows.bind (Ends.expectMark (by simp) _ hj) fun close k hk _ => Ends.pure hk rfl
    case nth => exact placed
    case word =>
      refine Follows.ite (fun _ => ?_) fun _ => ?_
      · exact call_follows depth hl (by simp [hk]) hlt (by omega)
      refine Follows.ite (fun _ => taken _ (by simp [hk])) fun _ => ?_
      exact Follows.ite (fun _ => placed) fun _ => Ends.fail hi rfl
    all_goals exact Ends.fail hi rfl
termination_by depth

theorem call_follows (depth : Nat) {outer : List Pending} {i : Nat} {name : Token}
    (hl : x.left i = name :: x.left (i + 1)) (hf : name.kind ≠ .eof)
    (hlt : i + 1 ≤ x.body.length) (hd : 16 * (x.body.length - i) < depth) :
    x.Follows outer (x.call depth) i (x.reader.readCall name (x.left (i + 1))).plain := by
  cases depth with
  | zero => exact absurd hd (Nat.not_lt_zero _)
  | succ depth =>
    rw [call, Reader.plain_readCall]
    refine Ends.next hl hf (Follows.bind (Ends.expectMark (by simp) _ hlt) fun start j hj hs => ?_)
    have hij := lt_of_plain hj hs
    dsimp only
    refine Ends.accept ?_ (fun t ht hl' hlt' => ?_) fun hn => ?_
    · intro t ht
      rw [of_decide_eq_true ht]
      simp
    · have close : (x.reader.peek (x.left j)).kind = .rparen := by simpa [hl'] using ht
      dsimp only
      cases ScalarFunction.ofName? name.text with
      | some f =>
        dsimp only
        rw [if_pos close, hl']
        exact Ends.pure hlt' rfl
      | none =>
        dsimp only
        rw [if_pos close, hl']
        exact Ends.pure hlt' rfl
    · have more : (x.reader.peek (x.left j)).kind ≠ .rparen := by simpa using hn
      dsimp only
      cases ScalarFunction.ofName? name.text with
      | some f =>
        dsimp only
        rw [if_neg more]
        refine Follows.bind (arguments_follows x.reader.plain_readScalarArgs
          (fun _ _ _ hj h => lt_of_plain hj h) depth hj (fun k outer hk hk' =>
            expression_follows depth hk' (by omega)) (by omega)) fun args k hk _ => ?_
        exact Ends.pure hk rfl
      | none =>
        dsimp only
        rw [if_neg more]
        refine Follows.bind (arguments_follows x.reader.plain_readPositionArgs
          (fun _ _ _ hj h => lt_of_plain hj h) depth hj (fun k outer hk hk' =>
            position_follows depth hk' (by omega)) (by omega)) fun args k hk _ => ?_
        exact Ends.pure hk rfl
termination_by depth

theorem position_follows (depth : Nat) {outer : List Pending} {i : Nat}
    (hi : i ≤ x.body.length) (hd : 16 * (x.body.length - i) + 8 < depth) :
    x.Follows outer (x.position depth) i (x.reader.readPosition (x.left i)).plain := by
  cases depth with
  | zero => exact absurd hd (Nat.not_lt_zero _)
  | succ depth =>
    rw [position, Reader.plain_readPosition]
    refine Follows.bind (positionPrimary_follows depth hi (by omega)) fun base j hj hb => ?_
    have := lt_of_plain hj hb
    exact offsets_follows depth base hj (by omega)
termination_by depth

theorem offsets_follows (depth : Nat) (base : Position) {outer : List Pending} {i : Nat}
    (hi : i ≤ x.body.length) (hd : 16 * (x.body.length - i) < depth) :
    x.Follows outer (x.offsets depth base) i (x.reader.readOffsets base (x.left i)).plain := by
  cases depth with
  | zero => exact absurd hd (Nat.not_lt_zero _)
  | succ depth =>
    rw [offsets]
    refine Ends.pass (Ends.peek ?_)
    rcases x.left_cases i with hl | ⟨t, hl, hlt⟩
    · rw [hl, Reader.peek_nil, if_neg (by simp [x.final]), Reader.plain_readOffsets_nil]
      exact Ends.pure hi (by rw [Repeats, hl])
    rw [hl, Reader.peek_cons, Reader.plain_readOffsets_cons]
    by_cases h : t.kind = .plus ∨ t.kind = .minus
    · have ht : t.kind ≠ .eof := by rcases h with h | h <;> simp [h]
      rw [if_pos h, if_pos h]
      have offset : x.Follows (.pass .offsets i :: outer) (Walk.tried (do
          let _ ← x.next
          x.offsetPair depth)) i
          (orUnread (x.left i) (x.reader.readOffsetPair (x.left (i + 1))).plain) :=
        Ends.tried hi (Ends.next hl ht (offsetPair_follows depth hlt (by omega)))
      cases hp : (x.reader.readOffsetPair (x.left (i + 1))).plain with
      | error d =>
        rw [hp] at offset
        exact Ends.known offset hi (Ends.pure hi (by rw [Repeats, hl]))
      | ok pair =>
        obtain ⟨pair, rest⟩ := pair
        rw [hp] at offset
        refine Ends.given offset fun j hj hrest => ?_
        subst hrest
        have := lt_of_plain hj hp
        exact Ends.pure hj ⟨by omega, offsets_follows depth _ hj (by omega)⟩
    · rw [if_neg h, if_neg h]
      exact Ends.pure hi (by rw [Repeats, hl])
termination_by depth

theorem offsetPair_follows (depth : Nat) {outer : List Pending} {i : Nat}
    (hi : i ≤ x.body.length) (hd : 16 * (x.body.length - i) + 5 < depth) :
    x.Follows outer (x.offsetPair depth) i (x.reader.readOffsetPair (x.left i)).plain := by
  cases depth with
  | zero => exact absurd hd (Nat.not_lt_zero _)
  | succ depth =>
    rw [offsetPair]
    rcases x.left_cases i with hl | ⟨t, hl, hlt⟩
    · have nothing : (x.reader.readExpression (x.left i)).plain =
          .error (unexpected x.reader.final .expression) := by
        rw [hl, Reader.plain_readExpression, Reader.plain_readTerm, Reader.plain_readSigned_nil]
        rfl
      rw [hl, Reader.plain_readOffsetPair_nil]
      refine Ends.declines (by simp [hl, x.final]) ?_
      have fails : x.Follows outer (x.expression depth) i _ :=
        expression_follows depth hi (by omega)
      rw [nothing] at fails
      refine Ends.follow fails (fun v j _ hp => ?_) fun e j hp => ?_
      · cases hp
      · exact congrArg Except.error (Except.error.inj hp)
    rw [hl, Reader.plain_readOffsetPair_cons]
    by_cases h : t.kind = .lparen
    · rw [if_pos h]
      refine Ends.accepts hl (by simp [h]) (by simp [h]) ?_
      refine Follows.bind (expression_follows depth hlt (by omega)) fun dx j hj hx => ?_
      have hij := lt_of_plain hj hx
      refine Follows.bind (Ends.expectMark (by simp) _ hj) fun comma k hk hc => ?_
      have hjk := lt_of_plain hk hc
      refine Follows.bind (expression_follows depth hk (by omega)) fun dy l hl' _ => ?_
      refine Follows.bind (Ends.expectMark (by simp) _ hl') fun close m hm _ => ?_
      exact Ends.pure hm rfl
    · rw [if_neg h, ← hl]
      refine Ends.declines (by simp [hl, h]) ?_
      refine Follows.bind (expression_follows depth hi (by omega)) fun dx j hj hx => ?_
      have hij := lt_of_plain hj hx
      refine Follows.bind (Ends.expectMark (by simp) _ hj) fun comma k hk hc => ?_
      have hjk := lt_of_plain hk hc
      refine Follows.bind (expression_follows depth hk (by omega)) fun dy l hl' _ => ?_
      exact Ends.pure hl' rfl
termination_by depth

theorem positionPrimary_follows (depth : Nat) {outer : List Pending} {i : Nat}
    (hi : i ≤ x.body.length) (hd : 16 * (x.body.length - i) + 7 < depth) :
    x.Follows outer (x.positionPrimary depth) i
      (x.reader.readPositionPrimary (x.left i)).plain := by
  cases depth with
  | zero => exact absurd hd (Nat.not_lt_zero _)
  | succ depth =>
    rw [positionPrimary, Reader.plain_readPositionPrimary]
    refine Ends.peek ?_
    refine Follows.ite (fun h => ?_) fun _ => ?_
    · obtain ⟨t, hl, hlt, hword⟩ := Ends.left_of_isWord h
      refine Ends.next hl (Ends.isWord_stops hword) ?_
      rw [hl, x.reader.plain_readWord_cons hword]
      refine Follows.bind (twoPoints_follows depth hlt (by omega)) fun e j hj _ => ?_
      exact Ends.pure hj rfl
    -- Whether no number can be read or it makes no point, what stands there is read again.
    have again : ∀ j, x.Ends (.saved i :: outer) (do
        let _ ← Walk.rewind i
        x.groupOrPlace depth) j (x.Gives (x.reader.readGroupOrPlace (x.left i)).plain) :=
      fun j => Ends.rewind (groupOrPlace_follows depth hi (by omega))
    refine Ends.saving (Ends.attempt (expression_follows depth hi (by omega)) (fun v j hj hv => ?_)
      fun d j hj hv => ?_)
    · rw [hv]
      have := lt_of_plain hj hv
      exact Follows.orElse hj (afterScalar_follows depth _ v hj (by omega))
        (fun p k hk _ => Ends.pure hk rfl) fun _ => again j
    · rw [hv]
      exact Ends.after rfl (.nil _) (again j)
termination_by depth

theorem twoPoints_follows (depth : Nat) {outer : List Pending} {i : Nat}
    (hi : i ≤ x.body.length) (hd : 16 * (x.body.length - i) + 9 < depth) :
    x.Follows outer (x.twoPoints depth) i (x.reader.readEnds (x.left i)).plain := by
  cases depth with
  | zero => exact absurd hd (Nat.not_lt_zero _)
  | succ depth =>
    rw [twoPoints, Reader.plain_readEnds]
    refine Follows.bind (position_follows depth hi (by omega)) fun a j hj ha => ?_
    have hij := lt_of_plain hj ha
    refine Follows.bind (Ends.expectWord _ hj) fun conjunction k hk hc => ?_
    have hjk := lt_of_plain hk hc
    refine Follows.bind (position_follows depth hk (by omega)) fun b l hl _ => ?_
    exact Ends.pure hl rfl
termination_by depth

theorem groupOrPlace_follows (depth : Nat) {outer : List Pending} {i : Nat}
    (hi : i ≤ x.body.length) (hd : 16 * (x.body.length - i) + 6 < depth) :
    x.Follows outer (x.groupOrPlace depth) i (x.reader.readGroupOrPlace (x.left i)).plain := by
  cases depth with
  | zero => exact absurd hd (Nat.not_lt_zero _)
  | succ depth =>
    rw [groupOrPlace]
    refine Ends.peek ?_
    have placed : x.Follows outer (x.place depth) i _ := place_follows hi (by omega)
    rcases x.left_cases i with hl | ⟨t, hl, hlt⟩
    · rw [hl] at placed
      rw [hl, Reader.peek_nil, if_neg (by simp [x.final]), Reader.plain_readGroupOrPlace_nil]
      exact placed
    rw [hl] at placed
    rw [hl, Reader.peek_cons, Reader.plain_readGroupOrPlace_cons]
    refine Follows.ite (fun h => ?_) fun _ => placed
    · refine Ends.next hl (by simp [h]) ?_
      refine Follows.bind (position_follows depth hlt (by omega)) fun first j hj hf => ?_
      have hij := lt_of_plain hj hf
      dsimp only
      rcases x.left_cases j with hl' | ⟨u, hl', hj'⟩
      · rw [hl']
        refine Ends.declines (by simp [hl', x.final]) ?_
        exact Ends.mistaken hj (by simp [hl', x.final]) (by rw [hl']; rfl)
      rw [hl']
      dsimp only
      by_cases hcomma : u.kind = .comma
      · rw [hcomma]
        refine Ends.accepts hl' (by simp [hcomma]) (by simp [hcomma]) ?_
        refine Follows.bind (position_follows depth hj' (by omega)) fun second k hk _ => ?_
        exact Follows.bind (Ends.expectMark (by simp) _ hk) fun close l hl _ => Ends.pure hl rfl
      refine Ends.declines (by simp [hl', hcomma]) ?_
      by_cases hclose : u.kind = .rparen
      · rw [hclose]
        exact Ends.expects hl' (by simp [hclose]) (by simp [hclose]) (Ends.pure hj' rfl)
      · refine Ends.mistaken hj (by simp [hl', hclose]) ?_
        rw [hl']
        cases hk : u.kind <;> first
          | exact absurd hk hclose
          | exact absurd hk hcomma
          | rfl
termination_by depth

theorem afterScalar_follows (depth : Nat) (pos : SourcePos) (leading : Scalar)
    {outer : List Pending} {i : Nat} (hi : i ≤ x.body.length)
    (hd : 16 * (x.body.length - i) < depth) :
    x.Follows outer (x.afterScalar depth pos leading) i
      (orNothing (x.left i)
        (Reading.plain? (x.reader.readAfterScalar pos leading (x.left i)))) := by
  cases depth with
  | zero => exact absurd hd (Nat.not_lt_zero _)
  | succ depth =>
    rw [afterScalar]
    refine Ends.peek (Ends.peekSecond (Ends.peekThird ?_))
    rcases x.left_cases i with hl | ⟨t, hl, hlt⟩
    · rw [hl, Reader.peek_nil, x.final, Reader.plain?_readAfterScalar_nil]
      exact Ends.pure hi (by rw [Gives, hl]; rfl)
    have third : x.reader.peekThird (x.left i) = x.reader.peekSecond (x.left (i + 1)) := by
      rw [hl]
      rfl
    rw [third, hl, Reader.peek_cons, Reader.peekSecond_cons, Reader.plain?_readAfterScalar_cons]
    cases hk : t.kind <;> dsimp only
    case comma =>
      refine Ends.next hl (by simp [hk]) ?_
      refine Follows.bind? (expression_follows depth hlt (by omega)) fun y j hj _ => ?_
      exact Ends.pure hj rfl
    case less =>
      refine Ends.next hl (by simp [hk]) ?_
      refine Follows.bind? (position_follows depth hlt (by omega)) fun a j hj ha => ?_
      have hij := lt_of_plain hj ha
      refine Follows.bind? (Ends.expectMark (by simp) _ hj) fun comma k hk' hc => ?_
      have hjk := lt_of_plain hk' hc
      refine Follows.bind? (position_follows depth hk' (by omega)) fun b l hl' _ => ?_
      refine Follows.bind? (Ends.expectMark (by simp) _ hl') fun close m hm _ => ?_
      exact Ends.pure hm rfl
    case word =>
      have ht : t.kind ≠ .eof := by simp [hk]
      refine Follows.ite? (fun hway => ?_) fun _ => ?_
      · obtain ⟨u, hu, hiu, hthe⟩ := Ends.left_of_isWord hway.2.1
        have hsecond := hway.2.2
        rw [hu, Reader.peekSecond_cons] at hsecond
        obtain ⟨v, hv, hiv, hword⟩ := Ends.left_of_isWord hsecond
        refine Ends.next hl ht (Ends.next hu (Ends.isWord_stops hthe)
          (Ends.next hv (Ends.isWord_stops hword) ?_))
        rw [drop_left]
        refine Follows.bind? (Ends.expectWord _ hiv) fun between j hj hb => ?_
        have hij := lt_of_plain hj hb
        refine Follows.bind? (twoPoints_follows depth hj (by omega)) fun e k hk' _ => ?_
        exact Ends.pure hk' rfl
      cases Reader.relativeSide? t.text with
      | some side =>
        refine Ends.next hl ht (Ends.accept (fun _ => Ends.isWord_stops)
          (fun u hu hl' hlt' => ?_) fun hn => ?_)
        · rw [hl', Reader.skipWord, if_pos hu]
          refine Follows.bind? (position_follows depth hlt' (by omega)) fun base j hj _ => ?_
          exact Ends.pure hj rfl
        · have kept : Reader.skipWord "of" (x.left (i + 1)) = x.left (i + 1) := by
            revert hn
            cases x.left (i + 1) with
            | nil => exact fun _ => rfl
            | cons u rest => exact fun hn => if_neg (Bool.eq_false_iff.1 hn)
          rw [kept]
          refine Follows.bind? (position_follows depth hlt (by omega)) fun base j hj _ => ?_
          exact Ends.pure hj rfl
      | none =>
        dsimp only
        refine Follows.ite? (fun _ => ?_) fun _ => ?_
        · refine Ends.next hl ht ?_
          refine Follows.bind? (expression_follows depth hlt (by omega)) fun angle j hj ha => ?_
          have hij := lt_of_plain hj ha
          refine Follows.bind? (Ends.expectWord _ hj) fun source k hk' hs => ?_
          have hjk := lt_of_plain hk' hs
          refine Follows.bind? (position_follows depth hk' (by omega)) fun base l hl' _ => ?_
          exact Ends.pure hl' rfl
        · exact Ends.pure hi (by rw [Gives, hl]; rfl)
    all_goals exact Ends.pure hi (by rw [Gives, hl]; rfl)
termination_by depth

end

end Tape

end DiagramScript
