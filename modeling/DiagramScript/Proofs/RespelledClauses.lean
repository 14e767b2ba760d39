import Mathlib
import DiagramScript.Proofs.RespelledPositions
import DiagramScript.Proofs.StatementSteps

/-!
# Clauses under other spellings

What a declaration says of positions is read as before when the labels in one of them are spelled
anew, and so is what it says after that.  The exception is a label that becomes the name of a
colour in front of something that goes on with a number.

* `SwapsClause` — lists of clauses that differ in one place.
* `Reader.readAttributes_swaps` — what is read next does not depend on a clause that is no text.
* `Respelling.readPosition_respell` — positions, numbers and clauses with other labels.
* `Respelling.readPosition_red_right` — the exception.
-/

namespace DiagramScript

/-! ## A clause in the place of another -/

/-- Two lists of clauses that differ in one place only. -/
def SwapsClause (c d : Attribute) (cs cs' : Reader.Clauses) : Prop :=
  ∃ before after, cs = before ++ c :: after ∧ cs' = before ++ d :: after

/-- Whether an attribute is a line of text. -/
def Attribute.isText (a : Attribute) : Bool :=
  match a.clause with
  | .text _ => true
  | _ => false

theorem SwapsClause.append {c d : Attribute} {cs cs' : Reader.Clauses} (h : SwapsClause c d cs cs')
    (more : Reader.Clauses) : SwapsClause c d (cs ++ more) (cs' ++ more) := by
  obtain ⟨before, after, rfl, rfl⟩ := h
  exact ⟨before, after ++ more, by simp, by simp⟩

namespace Reader

variable (g : Reader)

/-- A clause that is no text is passed over when the last line of text is marked. -/
theorem markLastText_append (m : TextModifier) {c : Attribute} (hc : c.isText = false)
    (before after : Clauses) :
    markLastText m (before ++ c :: after) =
      match markLastText m after with
      | some marked => some (before ++ c :: marked)
      | none => (markLastText m before).map (· ++ c :: after) := by
  induction before with
  | nil =>
    rw [List.nil_append, markLastText.eq_def m (c :: after)]
    dsimp only
    cases markLastText m after with
    | some marked => rfl
    | none =>
      rw [Attribute.isText] at hc
      dsimp only
      cases hclause : c.clause <;> rw [hclause] at hc <;> cases hc <;> rfl
  | cons a before ih =>
    rw [List.cons_append, markLastText, ih, markLastText]
    cases markLastText m after with
    | some marked => rfl
    | none =>
      dsimp only
      cases markLastText m before with
      | some marked => rfl
      | none => cases a.clause <;> rfl

variable {c d : Attribute} {cs cs' : Clauses}

theorem markLastText_swaps (m : TextModifier) (hc : c.isText = false) (hd : d.isText = false)
    (h : SwapsClause c d cs cs') :
    Option.Rel (SwapsClause c d) (markLastText m cs) (markLastText m cs') := by
  obtain ⟨before, after, rfl, rfl⟩ := h
  rw [markLastText_append m hc, markLastText_append m hd]
  cases markLastText m after with
  | some marked => exact .some ⟨before, marked, rfl, rfl⟩
  | none =>
    cases markLastText m before with
    | some marked => exact .some ⟨marked, after, rfl, rfl⟩
    | none => exact .none

/-- What is read next does not depend on a clause before it that is no text. -/
theorem readAttribute_swaps (hc : c.isText = false) (hd : d.isText = false)
    (h : SwapsClause c d cs cs') (ts : List Token) :
    Together (fun p p' => SwapsClause c d p.1 p'.1 ∧ p'.2 = p.2) (g.readAttribute cs ts).plain
      (g.readAttribute cs' ts).plain := by
  have adds {r : Except Diagnostic (Clause × List Token)} (pos : SourcePos) :
      Together (fun p p' => SwapsClause c d p.1 p'.1 ∧ p'.2 = p.2)
        (r >>= fun one => .ok (cs ++ [⟨pos, one.1⟩], one.2))
        (r >>= fun one => .ok (cs' ++ [⟨pos, one.1⟩], one.2)) := by
    cases r with
    | error d => exact .error d d
    | ok one => exact .ok ⟨h.append _, rfl⟩
  cases ts with
  | nil => exact .error _ _
  | cons t ts =>
    rw [plain_readAttribute_cons, plain_readAttribute_cons]
    cases t.kind
    case str line => exact .ok ⟨h.append _, rfl⟩
    case arrow => exact .ok ⟨h.append _, rfl⟩
    case word =>
      dsimp only
      cases Reading.plain? (g.readWordClause t ts) with
      | error d => exact .error d d
      | ok clause =>
        cases clause with
        | some clause => exact .ok ⟨h.append _, rfl⟩
        | none =>
          dsimp only [ok_bind]
          by_cases go : t.text = "go"
          · rw [if_pos go, if_pos go]
            exact .ok ⟨h, rfl⟩
          rw [if_neg go, if_neg go]
          cases TextModifier.ofName? t.text with
          | some m =>
            dsimp only
            have marks := markLastText_swaps m hc hd h
            generalize markLastText m cs = marked at marks
            generalize markLastText m cs' = marked' at marks
            cases marks with
            | some hs => exact .ok ⟨hs, rfl⟩
            | none => exact .error _ _
          | none =>
            dsimp only
            by_cases keyword : isKeyword t.text = true
            · rw [if_pos keyword, if_pos keyword]
              exact .error _ _
            · rw [if_neg keyword, if_neg keyword]
              exact adds t.pos
    all_goals exact adds t.pos

theorem readAttributes_swaps (hc : c.isText = false) (hd : d.isText = false) {cs cs' : Clauses}
    (h : SwapsClause c d cs cs') (ts : List Token) :
    Together (fun p p' => SwapsClause c d p.1 p'.1 ∧ p'.2 = p.2) (g.readAttributes cs ts).plain
      (g.readAttributes cs' ts).plain := by
  rw [plain_readAttributes, plain_readAttributes]
  by_cases ht : (g.peek ts).isTerminator = true
  · rw [if_pos ht, if_pos ht]
    exact .ok ⟨h, rfl⟩
  · rw [if_neg ht, if_neg ht]
    refine (g.readAttribute_swaps hc hd h ts).bind ?_
    rintro ⟨cs, rest⟩ ⟨cs', rest'⟩ hone ⟨hs, hrest⟩
    cases hrest
    have := Reading.length_lt_of_plain hone
    exact readAttributes_swaps hc hd hs rest
termination_by ts.length

/-! ## Clauses that are positions -/

/-- The words for positions in a declaration, and the clauses that they begin. -/
def positionWords : List (String × (Position → Clause)) :=
  [("from", .start), ("to", .target), ("at", .located)]

theorem plain?_readWordClause_position {t : Token} {clause : Position → Clause}
    (ht : (t.text, clause) ∈ positionWords) (ts : List Token) :
    Reading.plain? (g.readWordClause t ts) = (do
      let p ← (g.readPosition ts).plain
      .ok (some (clause p.1, p.2))) := by
  simp only [positionWords, List.mem_cons, Prod.mk.injEq, List.not_mem_nil, or_false] at ht
  rw [plain?_readWordClause]
  rcases ht with ⟨ht, rfl⟩ | ⟨ht, rfl⟩ | ⟨ht, rfl⟩
  all_goals
    rw [ht]
    rfl

theorem isText_position {word : String} {clause : Position → Clause}
    (hw : (word, clause) ∈ positionWords) (pos : SourcePos) (q : Position) :
    (Attribute.mk pos (clause q)).isText = false := by
  simp only [positionWords, List.mem_cons, Prod.mk.injEq, List.not_mem_nil, or_false] at hw
  rcases hw with ⟨-, rfl⟩ | ⟨-, rfl⟩ | ⟨-, rfl⟩ <;> rfl

/-- A declaration goes on after a position in it. -/
theorem plain_readAttributes_position {t : Token} (hk : t.kind = .word)
    {clause : Position → Clause} (ht : (t.text, clause) ∈ positionWords) (before : Clauses)
    (ts : List Token) :
    (g.readAttributes before (t :: ts)).plain = (do
      let p ← (g.readPosition ts).plain
      (g.readAttributes (before ++ [⟨t.pos, clause p.1⟩]) p.2).plain) := by
  rw [plain_readAttributes, peek_cons, if_neg (by simp [Token.isTerminator, hk]),
    plain_readAttribute_cons, hk]
  dsimp only
  rw [g.plain?_readWordClause_position ht]
  cases (g.readPosition ts).plain <;> rfl

end Reader

/-! ## Positions -/

namespace Respelling

variable (x : Respelling)

theorem ready_append {s w : List Token}
    (named : ∀ t ∈ s, t.kind = .label → x.reader.colors.knows t.text = false)
    (kept : ∀ t ∈ w, x.token t = t) (settled : x.settled false (s ++ w) = true) :
    x.Ready false (s ++ w) := by
  refine ⟨settled, ?_⟩
  clear settled
  induction s with
  | nil =>
    induction w with
    | nil => trivial
    | cons t w ih =>
      refine ⟨fun _ _ => ?_, ih fun u hu => kept u (List.mem_cons_of_mem t hu)⟩
      exact (List.map_congr_left kept).trans (List.map_id _)
  | cons t s ih =>
    refine ⟨fun ht known => ?_, ih fun u hu => named u (List.mem_cons_of_mem t hu)⟩
    rw [named t List.mem_cons_self ht] at known
    cases known

/-- A position that is read from some tokens is read from them with other labels too, and so is a
number, such as a distance between positions; and a declaration that has the position in a clause
says the same, up to these labels, however it goes on.  None of the old labels names a colour, and
the tokens after the position stay as they are.  New labels may name colours, but not in front of
something that goes on with a number. -/
theorem readPosition_respell {s w : List Token}
    (named : ∀ t ∈ s, t.kind = .label → x.reader.colors.knows t.text = false)
    (kept : ∀ t ∈ w, x.token t = t) (settled : x.settled false (s ++ w) = true) :
    (∀ q, (x.reader.readPosition (s ++ w)).plain = .ok (q, w) →
      (x.reader.readPosition (x.tokens s ++ w)).plain = .ok (q.respell x.spell, w)) ∧
    (∀ e, (x.reader.readExpression (s ++ w)).plain = .ok (e, w) →
      (x.reader.readExpression (x.tokens s ++ w)).plain = .ok (e.respell x.spell, w)) ∧
    ∀ q before all left t clause, t.kind = .word → (t.text, clause) ∈ Reader.positionWords →
      (x.reader.readPosition (s ++ w)).plain = .ok (q, w) →
      (x.reader.readAttributes before (t :: (s ++ w))).plain = .ok (all, left) →
      ∃ earlier later, all = earlier ++ ⟨t.pos, clause q⟩ :: later ∧
        (x.reader.readAttributes before (t :: (x.tokens s ++ w))).plain =
          .ok (earlier ++ ⟨t.pos, clause (q.respell x.spell)⟩ :: later, left) := by
  have ready := x.ready_append named kept settled
  have unchanged : x.tokens w = w := (List.map_congr_left kept).trans (List.map_id w)
  have whole : x.tokens (s ++ w) = x.tokens s ++ w := by
    rw [tokens, List.map_append]
    exact congrArg (x.tokens s ++ ·) unchanged
  have position q (h : (x.reader.readPosition (s ++ w)).plain = .ok (q, w)) :
      (x.reader.readPosition (x.tokens s ++ w)).plain = .ok (q.respell x.spell, w) := by
    obtain ⟨_, h', rfl, -⟩ := x.readPosition_carries (s ++ w) ready (q, w) h fun _ => unchanged
    rw [← whole, h', carry, unchanged]
  refine ⟨position, fun e h => ?_, fun q before all left t clause hk hword hq hall => ?_⟩
  · obtain ⟨_, h', rfl, -⟩ := x.readExpression_carries (s ++ w) ready (e, w) h trivial
    rw [← whole, h', carry, unchanged]
  · rw [x.reader.plain_readAttributes_position hk hword, hq, ok_bind] at hall
    rw [x.reader.plain_readAttributes_position hk hword, position q hq, ok_bind]
    have others := x.reader.readAttributes_swaps
      (Reader.isText_position hword t.pos (q.respell x.spell))
      (Reader.isText_position hword t.pos q) ⟨before, [], rfl, rfl⟩ w
    obtain ⟨_, hothers, ⟨earlier, later, h', h⟩, hleft⟩ := others.exists_eq_ok hall
    exact ⟨earlier, later, h, hothers.trans (congrArg Except.ok (Prod.ext h' hleft.symm))⟩

/-- Between `A` and a point near `B` is between `Red` and a point near `Gold`, in front of another
clause; and the distance of `A.n` from `B` is that of `Red.n` from `Gold`. -/
theorem readPosition_respell_between :
    let x : Respelling := ⟨⟨.ofEntries [("red", none), ("gold", none)], ⟨.eof, "", .first⟩⟩,
      fun _ name => if name = "A" then "Red" else "Gold"⟩
    let a : Token := ⟨.label, "A", .first⟩
    let b : Token := ⟨.label, "B", .first⟩
    let s : List Token := [⟨.word, "between", .first⟩, a, ⟨.word, "and", .first⟩, b,
      ⟨.plus, "+", .first⟩, ⟨.lparen, "(", .first⟩, ⟨.number ⟨1, 0⟩ none, "1", .first⟩,
      ⟨.comma, ",", .first⟩, ⟨.number ⟨2, 0⟩ none, "2", .first⟩, ⟨.rparen, ")", .first⟩]
    let w : List Token := [⟨.word, "chop", .first⟩]
    let q : Position := .between .first none (.object .first (.select .first (.label "A")) none)
      (.offset .first (.object .first (.select .first (.label "B")) none)
        (.number .first ⟨1, 0⟩ none) (.number .first ⟨2, 0⟩ none) false)
    let u : List Token := [⟨.word, "dist", .first⟩, ⟨.lparen, "(", .first⟩, a,
      ⟨.edge (.compass .n), ".n", .first⟩, ⟨.comma, ",", .first⟩, b, ⟨.rparen, ")", .first⟩]
    let e : Scalar := .dist .first [
      .object .first (.select .first (.label "A")) (some (.compass .n)),
      .object .first (.select .first (.label "B")) none]
    (x.reader.readPosition (x.tokens s ++ w)).plain = .ok (q.respell x.spell, w) ∧
      (x.reader.readExpression (x.tokens u ++ [])).plain = .ok (e.respell x.spell, []) ∧
      ∃ earlier later,
        (x.reader.readAttributes [] (⟨.word, "from", .first⟩ :: (x.tokens s ++ w))).plain =
          .ok (earlier ++ ⟨.first, .start (q.respell x.spell)⟩ :: later, []) := by
  intro x a b s w q u e
  have named : ∀ t ∈ s, t.kind = .label → x.reader.colors.knows t.text = false := by decide
  have named' : ∀ t ∈ u, t.kind = .label → x.reader.colors.knows t.text = false := by decide
  have kept : ∀ t ∈ w, x.token t = t := by decide
  have settled : x.settled false (s ++ w) = true := by
    cbv
  have settled' : x.settled false (u ++ []) = true := by
    cbv
  have position : (x.reader.readPosition (s ++ w)).plain = .ok (q, w) := by
    cbv
  have distance : (x.reader.readExpression (u ++ [])).plain = .ok (e, []) := by
    cbv
  have clauses : (x.reader.readAttributes [] (⟨.word, "from", .first⟩ :: (s ++ w))).plain =
      .ok ([⟨.first, .start q⟩, ⟨.first, .flag .chop⟩], []) := by
    rw [x.reader.plain_readAttributes_position rfl (List.mem_cons_self ..), position]
    cbv
  obtain ⟨respelled, -, declared⟩ := x.readPosition_respell named kept settled
  obtain ⟨-, measured, -⟩ := x.readPosition_respell named' (w := []) (by simp) settled'
  obtain ⟨earlier, later, -, h⟩ :=
    declared q _ _ _ _ _ rfl (List.mem_cons_self ..) position clauses
  exact ⟨respelled q position, measured e distance, earlier, later, h⟩

/-- At the place of `A`, `Red` is no position where a direction follows that a number may have:
`Red right 1` is the start of a point to the right of 1. -/
theorem readPosition_red_right :
    let x : Respelling := ⟨⟨.standard, ⟨.eof, "", ⟨1, 21⟩⟩⟩, fun _ _ => "Red"⟩
    let s : List Token := [⟨.label, "A", ⟨1, 12⟩⟩]
    let w : List Token := [⟨.word, "right", ⟨1, 14⟩⟩, ⟨.number ⟨1, 0⟩ none, "1", ⟨1, 20⟩⟩]
    let q : Position := .object ⟨1, 12⟩ (.select ⟨1, 12⟩ (.label "A")) none
    (x.reader.readPosition (s ++ w)).plain = .ok (q, w) ∧
      (x.reader.readPosition (x.tokens s ++ w)).plain ≠ .ok (q.respell x.spell, w) := by
  intro x s w q
  have noColor : ColorTable.standard.knows "A" = false := by decide
  have color : ColorTable.standard.knows "Red" = true := by decide
  have respelled : x.tokens s = [⟨.label, "Red", ⟨1, 12⟩⟩] := rfl
  have names : x.reader.namesColor ⟨.label, "Red", ⟨1, 12⟩⟩ (x.reader.peek w) = true := color
  have goesOn : x.reader.makesPosition w = true := rfl
  have notDot : (x.reader.peek w).kind ≠ .dot := by decide
  have before := x.reader.plain_readPosition_label (t := ⟨.label, "A", ⟨1, 12⟩⟩) rfl noColor
    notDot (by simp [w]) (by decide) (by decide)
  have after := x.reader.readPosition_ne_label rfl names goesOn (q.respell x.spell)
  refine ⟨before, ?_⟩
  rw [respelled]
  exact after

end Respelling

end DiagramScript
