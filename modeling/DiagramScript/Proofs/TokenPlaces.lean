import DiagramScript.Proofs.ExpandedText

/-!
# Where tokens and mistakes stand

Tokens stand at places of the text they are read from, and expansion puts the tokens of a
definition at the place of its use.  Mistakes that are found on the way stand at such places, too.

* `SourcePos.IsIn` — the places of a text, its end included.
* `tokenize_settles`, `expandTokens_settles` — reading tokens and expanding them.
-/

namespace DiagramScript

/-! ## Places -/

/-- Whether a place is one of a text: before one of its characters, or at its end. -/
def SourcePos.IsIn (cs : List Char) (p : SourcePos) : Prop :=
  ∃ seen, seen <+: cs ∧ p = first.after seen

/-- Whether a mistake has a place of some kind. -/
def Diagnostic.PointsTo (P : SourcePos → Prop) (d : Diagnostic) : Prop :=
  ∃ p, d.place = some p ∧ P p

/-- Whether a failure, if it is a mistake, has a place of some kind. -/
def Failure.PointsTo (P : SourcePos → Prop) (f : Failure) : Prop :=
  ∀ d, f = .mistake d → d.PointsTo P

/-- Whether some tokens have places of some kind. -/
def Within (P : SourcePos → Prop) (ts : List Token) : Prop := ∀ t ∈ ts, P t.pos

variable {α β ε : Type} {P : SourcePos → Prop}

theorem Failure.PointsTo.mistake {d : Diagnostic} (h : d.PointsTo P) :
    (Failure.mistake d).PointsTo P := fun e he => by
  cases he
  exact h

theorem grammarError_pointsTo {t : Token} (h : P t.pos) (e : ParseError) :
    (grammarError t e).PointsTo P :=
  ⟨t.pos, rfl, h⟩

namespace Within

variable {t : Token} {ts us : List Token}

theorem head (h : Within P (t :: ts)) : P t.pos := h t List.mem_cons_self

theorem tail (h : Within P (t :: ts)) : Within P ts := fun u hu => h u (List.mem_cons_of_mem t hu)

theorem cons (ht : P t.pos) (h : Within P ts) : Within P (t :: ts) :=
  List.forall_mem_cons.2 ⟨ht, h⟩

theorem append (h : Within P ts) (h' : Within P us) : Within P (ts ++ us) :=
  List.forall_mem_append.2 ⟨h, h'⟩

theorem drop (h : Within P ts) (n : Nat) : Within P (ts.drop n) :=
  fun u hu => h u (List.mem_of_mem_drop hu)

end Within

/-! ## Computations -/

theorem Settles.liftMistake {Q : α → Prop} {r : Except Diagnostic α}
    (h : Settles (Diagnostic.PointsTo P) Q r) :
    Settles (Failure.PointsTo P) Q (liftMistake r) := by
  cases r with
  | ok x => exact of_ok (h.ok x rfl)
  | error d => exact of_error (.mistake (h.error d rfl))

/-! ## Tokens -/

/-- The tokens of a text, and the mistakes in it, stand at its places. -/
theorem scanFrom_within (colors : ColorTable) (p : SourcePos) (cs : List Char)
    (h : ∀ seen, seen <+: cs → P (p.after seen)) :
    Within P (scanFrom colors p cs).1 ∧
      ∀ d ∈ (scanFrom colors p cs).2, (∃ e, d.cause = .lex e) ∧ d.PointsTo P := by
  match cs with
  | [] =>
    rw [scanFrom]
    refine ⟨?_, by simp⟩
    exact .cons (h [] List.nil_prefix) fun t ht => absurd ht List.not_mem_nil
  | c :: cs =>
    rw [scanFrom]
    dsimp only
    generalize piece colors c cs = here
    let taken := c :: cs.take here.more
    have whole : taken ++ cs.drop here.more = c :: cs := by
      rw [List.cons_append, List.take_append_drop]
    -- what is left starts after what is taken, so its places are places of the whole text
    have rest := scanFrom_within colors (p.after taken) (cs.drop here.more) fun seen hseen => by
      rw [← SourcePos.after_append]
      refine h _ ?_
      rw [← whole]
      exact (List.prefix_append_right_inj taken).2 hseen
    constructor
    · refine .append ?_ rest.1
      intro t ht
      obtain ⟨k, -, rfl⟩ := List.mem_map.1 ht
      exact h [] List.nil_prefix
    · intro d hd
      rcases List.mem_append.1 hd with hd | hd
      · obtain ⟨e, -, rfl⟩ := List.mem_map.1 hd
        refine ⟨⟨e.2, rfl⟩, _, rfl, h _ ?_⟩
        have inside : taken <+: c :: cs := ⟨_, whole⟩
        exact (List.take_prefix e.1 taken).trans inside
      · exact rest.2 d hd
termination_by cs.length
decreasing_by
  simp only [List.length_cons, List.length_drop]
  omega

/-- The tokens of a script stand at its places, and so does the first mistake in it. -/
theorem tokenize_settles (colors : ColorTable) (source : String) :
    Settles (Failure.PointsTo (SourcePos.IsIn source.toList))
      (Within (SourcePos.IsIn source.toList)) (tokenize colors source) := by
  have placed := scanFrom_within (P := SourcePos.IsIn source.toList) colors .first source.toList
    fun seen hseen => ⟨seen, hseen, rfl⟩
  unfold tokenize scan
  cases faultFrom colors source.toList with
  | some f => exact .of_error fun d hd => (nomatch hd)
  | none =>
    dsimp only
    generalize scanFrom colors .first source.toList = r at placed
    obtain ⟨ts, - | ⟨d, ds⟩⟩ := r
    · exact .of_ok placed.1
    · exact .of_error (.mistake (placed.2 d List.mem_cons_self).2)

/-- Whatever is wrong with the tokens of a text is a lexical mistake. -/
theorem cause_of_tokenize_eq_error {colors : ColorTable} {source : String} {d : Diagnostic}
    (h : tokenize colors source = .error (.mistake d)) : ∃ e, d.cause = .lex e := by
  have lexical := scanFrom_within (P := fun _ => True) colors .first source.toList
    fun _ _ => trivial
  unfold tokenize scan at h
  cases hf : faultFrom colors source.toList with
  | some f =>
    rw [hf] at h
    cases h
  | none =>
    rw [hf] at h
    dsimp only at h
    generalize scanFrom colors .first source.toList = r at h lexical
    obtain ⟨ts, - | ⟨e, es⟩⟩ := r
    · cases h
    · cases h
      exact (lexical.2 d List.mem_cons_self).1

/-! ## Definitions -/

theorem useArguments_settles {ts : List Token} (h : Within P ts) :
    Settles (Diagnostic.PointsTo P) (fun _ => True) (useArguments ts) := by
  cases ts with
  | nil => exact .of_ok trivial
  | cons t ts =>
    rw [useArguments]
    refine .ite ?_ (.of_ok trivial)
    cases collectArguments 1 [] ts with
    | some r => exact .of_ok trivial
    | none => exact .of_error ⟨_, rfl, h.head⟩

theorem readDefinition_settles {keyword : Token} {ts : List Token} (hk : P keyword.pos)
    (h : Within P ts) :
    Settles (Diagnostic.PointsTo P) (fun _ => True) (readDefinition keyword ts) := by
  match ts with
  | [] => exact .of_error ⟨_, rfl, hk⟩
  | [name] => exact .of_error ⟨_, rfl, hk⟩
  | name :: body :: ts =>
    rw [readDefinition]
    refine .ite ?_ (.of_error ⟨_, rfl, h.head⟩)
    split
    · exact .of_ok trivial
    · exact .of_error ⟨_, rfl, h.tail.head⟩

/-- What a use of a definition stands for is put where the use stands. -/
theorem bodyTokens_settles (colors : ColorTable) {use : Token} (h : P use.pos) (body : String)
    (args : List String) :
    Settles (Failure.PointsTo P) (Within P) (bodyTokens colors use body args) := by
  unfold bodyTokens
  split
  · refine .of_ok fun t ht => ?_
    obtain ⟨u, -, rfl⟩ := List.mem_map.1 ht
    exact h
  · exact .of_error (.mistake ⟨_, rfl, h⟩)
  · next f hf ht =>
    -- mistakes in the body are lexical, and these have been dealt with
    refine .of_error fun d hd => ?_
    subst hd
    obtain ⟨e, he⟩ := cause_of_tokenize_eq_error ht
    obtain ⟨cause, place⟩ := d
    subst he
    exact absurd rfl (hf e place)

/-- Expansion leaves tokens at places of the text, and so it does with mistakes. -/
theorem expandWith_settles (colors : ColorTable) (room : Nat) (defs : Definitions)
    {ts : List Token} (h : Within P ts) :
    Settles (Failure.PointsTo P) (fun r => Within P r.1) (expandWith colors room defs ts) := by
  match ts with
  | [] =>
    rw [expandWith]
    exact .of_ok h
  | t :: ts =>
    rw [expandWith]
    refine .ite ?_ ?_
    · refine .bind (readDefinition_settles h.head h.tail).liftMistake fun d _ => ?_
      exact expandWith_settles colors room (d :: defs) (h.tail.drop 2)
    · cases (if t.isUsable then defs.lookup t.text else none) with
      | none =>
        refine .bind (expandWith_settles colors room defs h.tail) fun r hr => ?_
        exact .of_ok (.cons h.head hr)
      | some body =>
        refine .bind (useArguments_settles h.tail).liftMistake fun args _ => ?_
        cases hroom : room with
        | zero => exact .of_error (.mistake ⟨_, rfl, h.head⟩)
        | succ less =>
          refine .bind (bodyTokens_settles colors h.head body args.1) fun inside hi => ?_
          refine .bind (expandWith_settles colors less defs hi) fun r hr => ?_
          refine .bind (expandWith_settles colors (less + 1) r.2 (h.tail.drop args.2))
            fun s hs => ?_
          exact .of_ok (hr.append hs)
termination_by (room, ts.length)
decreasing_by
  · exact Prod.Lex.right _ (by simp only [List.length_cons, List.length_drop]; omega)
  · exact Prod.Lex.right _ (by simp only [List.length_cons]; omega)
  · exact Prod.Lex.left _ _ (by omega)
  · subst hroom
    exact Prod.Lex.right _ (by simp only [List.length_cons, List.length_drop]; omega)

/-- The tokens of a script without definitions stand at places of the script. -/
theorem expandTokens_settles (colors : ColorTable) {ts : List Token} (h : Within P ts) :
    Settles (Failure.PointsTo P) (Within P) (expandTokens colors ts) :=
  (expandWith_settles colors maxExpansionDepth [] h).map fun _ hr => hr

end DiagramScript
