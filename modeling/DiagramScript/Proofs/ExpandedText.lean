import DiagramScript.Proofs.Continuation
import DiagramScript.Token.Expansion

/-!
# Definitions in a longer text

Definitions are replaced in the same way wherever a text stands, and whatever follows it, as long as
that only ends statements, groups or the script.

* `expandWith_alike` — the expansion of a text on its own, and at other places with more after it.
* `expandWith_noEnd` — expansion ends no script.
-/

namespace DiagramScript

variable {f : SourcePos → SourcePos} {tail : List Token}

/-! ## Arguments -/

/-- What only ends statements, groups or the script is no argument. -/
theorem collectArguments_terminators (ht : ∀ t ∈ tail, t.isTerminator = true) (depth : Nat)
    (current : List String) : collectArguments depth current tail = none := by
  induction tail generalizing depth current with
  | nil => rfl
  | cons t tail ih =>
    rw [List.forall_mem_cons] at ht
    rcases Token.kind_of_isTerminator ht.1 with h | h | h <;> simp [collectArguments, h, ih ht.2]

theorem collectArguments_extend (ht : ∀ t ∈ tail, t.isTerminator = true) (depth : Nat)
    (current : List String) (ts : List Token) :
    collectArguments depth current (ts.map (Token.mapPos f) ++ tail) =
      collectArguments depth current ts := by
  induction ts generalizing depth current with
  | nil => exact collectArguments_terminators ht depth current
  | cons t ts ih =>
    have text : argumentText (t.mapPos f) = argumentText t := rfl
    simp only [List.map_cons, List.cons_append, collectArguments, Token.mapPos_kind, text, ih]

theorem collectArguments_le {depth : Nat} {current : List String} {ts : List Token}
    {r : List String × Nat} (h : collectArguments depth current ts = some r) : r.2 ≤ ts.length := by
  induction ts generalizing depth current r with
  | nil => cases h
  | cons t ts ih =>
    rw [List.length_cons]
    unfold collectArguments at h
    dsimp only at h
    split at h
    · cases h
    · obtain ⟨q, hq, rfl⟩ := Option.map_eq_some_iff.1 h
      exact Nat.succ_le_succ (ih hq)
    · split_ifs at h
      · cases h
        exact Nat.succ_le_succ (Nat.zero_le _)
      · obtain ⟨q, hq, rfl⟩ := Option.map_eq_some_iff.1 h
        exact Nat.succ_le_succ (ih hq)
    · split_ifs at h
      all_goals
        obtain ⟨q, hq, rfl⟩ := Option.map_eq_some_iff.1 h
        exact Nat.succ_le_succ (ih hq)
    · obtain ⟨q, hq, rfl⟩ := Option.map_eq_some_iff.1 h
      exact Nat.succ_le_succ (ih hq)

theorem useArguments_alike (ht : ∀ t ∈ tail, t.isTerminator = true) (ts : List Token) :
    Alike id (useArguments ts) (useArguments (ts.map (Token.mapPos f) ++ tail)) := by
  cases ts with
  | nil =>
    cases tail with
    | nil => exact .ok _
    | cons t tail =>
      have : t.kind ≠ .lparen := by
        rcases Token.kind_of_isTerminator (ht t (List.mem_cons_self ..)) with h | h | h <;> simp [h]
      rw [List.map_nil, List.nil_append, useArguments, useArguments, if_neg this]
      exact .ok _
  | cons t ts =>
    rw [List.map_cons, List.cons_append, useArguments, useArguments, Token.mapPos_kind,
      collectArguments_extend ht]
    refine .ite Iff.rfl (fun _ => ?_) fun _ => .ok _
    cases collectArguments 1 [] ts with
    | none => exact .error _ _
    | some r => exact .ok _

theorem useArguments_le {ts : List Token} {r : List String × Nat} (h : useArguments ts = .ok r) :
    r.2 ≤ ts.length := by
  cases ts with
  | nil =>
    cases h
    exact Nat.zero_le _
  | cons t ts =>
    rw [useArguments] at h
    split_ifs at h
    · cases hc : collectArguments 1 [] ts with
      | none =>
        rw [hc] at h
        cases h
      | some q =>
        rw [hc] at h
        cases h
        exact Nat.succ_le_succ (collectArguments_le hc)
    · cases h
      exact Nat.zero_le _

/-! ## Definitions -/

theorem readDefinition_alike (ht : ∀ t ∈ tail, t.isTerminator = true) (keyword : Token)
    (ts : List Token) : Alike id (readDefinition keyword ts)
      (readDefinition (keyword.mapPos f) (ts.map (Token.mapPos f) ++ tail)) := by
  match ts with
  | [] =>
    match tail with
    | [] => exact .error _ _
    | [t] => exact .error _ _
    | t :: u :: tail =>
      have : t.isDefinable = false := by
        rcases Token.kind_of_isTerminator (ht t (List.mem_cons_self ..)) with h | h | h <;>
          simp [Token.isDefinable, h]
      simp only [List.map_nil, List.nil_append, readDefinition, this]
      exact .error _ _
  | [name] =>
    match tail with
    | [] => exact .error _ _
    | t :: tail =>
      have := Token.kind_of_isTerminator (ht t (List.mem_cons_self ..))
      simp only [List.map_cons, List.map_nil, List.cons_append, List.nil_append, readDefinition]
      split_ifs
      · rcases this with h | h | h <;>
        · rw [h]
          exact .error _ _
      · exact .error _ _
  | name :: body :: ts =>
    rw [List.map_cons, List.map_cons, List.cons_append, List.cons_append, readDefinition,
      readDefinition]
    refine .ite Iff.rfl (fun _ => ?_) fun _ => .error _ _
    rw [Token.mapPos_kind]
    cases body.kind
    case block text => exact .ok _
    all_goals exact .error _ _

theorem two_le_of_readDefinition {keyword : Token} {ts : List Token} {d : String × String}
    (h : readDefinition keyword ts = .ok d) : 2 ≤ ts.length := by
  match ts with
  | [] => cases h
  | [name] => cases h
  | name :: body :: ts => exact Nat.le_add_left 2 ts.length

theorem extend_drop {ts : List Token} {n : Nat} (h : n ≤ ts.length) :
    (ts.map (Token.mapPos f) ++ tail).drop n = (ts.drop n).map (Token.mapPos f) ++ tail := by
  rw [List.drop_append_of_le_length (by rwa [List.length_map]), List.map_drop]

theorem bodyTokens_alike (colors : ColorTable) (use : Token) (body : String) (args : List String) :
    Alike (List.map (Token.mapPos f)) (bodyTokens colors use body args)
      (bodyTokens colors (use.mapPos f) body args) := by
  unfold bodyTokens
  split
  · refine .of_eq_ok ?_
    rw [List.map_map]
    rfl
  · exact .error _ _
  · exact .error _ _

/-- Whether no token ends a script. -/
def NoEnd (ts : List Token) : Prop := ∀ t ∈ ts, t.kind ≠ .eof

theorem bodyTokens_noEnd (colors : ColorTable) (use : Token) (body : String) (args : List String) :
    Ensures NoEnd (bodyTokens colors use body args) := by
  unfold bodyTokens
  split
  · refine .ok fun t ht => ?_
    obtain ⟨u, hu, rfl⟩ := List.mem_map.1 ht
    exact of_decide_eq_true (List.mem_filter.1 hu).2
  · exact .error _
  · exact .error _

/-! ## Expansion -/

theorem Alike.liftMistake {α β : Type} {φ : α → β} {r : Except Diagnostic α}
    {r' : Except Diagnostic β} (h : Alike φ r r') :
    Alike φ (DiagramScript.liftMistake r) (DiagramScript.liftMistake r') := by
  cases h with
  | ok x => exact .ok x
  | error d e => exact .error _ _

theorem ok_of_liftMistake {α : Type} {r : Except Diagnostic α} {x : α}
    (h : liftMistake r = .ok x) : r = .ok x := by
  cases r with
  | ok y => exact congrArg Except.ok (Except.ok.inj h)
  | error d => cases h

theorem expandWith_terminators (ht : ∀ t ∈ tail, t.isTerminator = true) (colors : ColorTable)
    (room : Nat) (defs : Definitions) :
    expandWith colors room defs tail = .ok (tail, defs) := by
  induction tail with
  | nil => rw [expandWith]
  | cons t tail ih =>
    rw [List.forall_mem_cons] at ht
    have usable : t.isUsable = false ∧ t.isWord "define" = false := by
      rcases Token.kind_of_isTerminator ht.1 with h | h | h <;>
        simp [Token.isUsable, Token.isWord, h]
    rw [expandWith, usable.1, usable.2, ih ht.2]
    rfl

/-- Expanding a text on its own, and expanding it at other places with ends of statements and groups
after it: either both fail, or the results are alike too. -/
theorem expandWith_alike (colors : ColorTable) (room : Nat) (defs : Definitions) (ts : List Token)
    {tail : List Token} (ht : ∀ t ∈ tail, t.isTerminator = true) :
    Alike (fun r => (r.1.map (Token.mapPos f) ++ tail, r.2)) (expandWith colors room defs ts)
      (expandWith colors room defs (ts.map (Token.mapPos f) ++ tail)) := by
  match ts with
  | [] =>
    rw [List.map_nil, List.nil_append, expandWith_terminators ht, expandWith]
    exact .of_eq_ok rfl
  | t :: ts =>
    rw [List.map_cons, List.cons_append, expandWith, expandWith, Token.isWord_mapPos]
    refine .ite Iff.rfl (fun _ => ?_) fun _ => ?_
    · refine (readDefinition_alike ht t ts).liftMistake.bind fun d hd => ?_
      rw [extend_drop (two_le_of_readDefinition (ok_of_liftMistake hd))]
      exact expandWith_alike colors room (d :: defs) (ts.drop 2) ht
    · rw [show (t.mapPos f).isUsable = t.isUsable from rfl, Token.mapPos_text]
      cases (if t.isUsable then defs.lookup t.text else none) with
      | none =>
        refine (expandWith_alike colors room defs ts ht).bind fun r _ => .of_eq_ok ?_
        rfl
      | some body =>
        refine (useArguments_alike ht ts).liftMistake.bind fun args hargs => ?_
        cases hroom : room with
        | zero => exact .error _ _
        | succ less =>
          refine (bodyTokens_alike colors t body args.1).bind fun inside _ => ?_
          have within := expandWith_alike colors less defs inside
            (show ∀ t ∈ [], Token.isTerminator t = true by simp)
          rw [List.append_nil] at within
          refine within.bind fun r _ => ?_
          dsimp only [id]
          rw [extend_drop (useArguments_le (ok_of_liftMistake hargs))]
          refine (expandWith_alike colors (less + 1) r.2 (ts.drop args.2) ht).bind fun s _ => ?_
          exact .of_eq_ok (by simp)
termination_by (room, ts.length)
decreasing_by
  · exact Prod.Lex.right _ (by simp only [List.length_cons, List.length_drop]; omega)
  · exact Prod.Lex.right _ (by simp only [List.length_cons]; omega)
  · exact Prod.Lex.left _ _ (by omega)
  · subst hroom
    exact Prod.Lex.right _ (by simp only [List.length_cons, List.length_drop]; omega)

/-- Expansion does not add ends of scripts. -/
theorem expandWith_noEnd (colors : ColorTable) (room : Nat) (defs : Definitions) {ts : List Token}
    (h : NoEnd ts) : Ensures (fun r => NoEnd r.1) (expandWith colors room defs ts) := by
  match ts with
  | [] =>
    rw [expandWith]
    exact .ok h
  | t :: ts =>
    have rest : ∀ n, NoEnd (ts.drop n) := fun n u hu =>
      h u (List.mem_cons_of_mem _ (List.mem_of_mem_drop hu))
    rw [expandWith]
    refine .ite (.andThen fun d => expandWith_noEnd colors room (d :: defs) (rest 2)) ?_
    cases (if t.isUsable then defs.lookup t.text else none) with
    | none =>
      refine .bind (expandWith_noEnd colors room defs (rest 0)) fun r hr => .ok ?_
      exact List.forall_mem_cons.2 ⟨h t (List.mem_cons_self ..), hr⟩
    | some body =>
      refine .andThen fun args => ?_
      cases hroom : room with
      | zero => exact .error _
      | succ less =>
        refine .bind (bodyTokens_noEnd colors t body args.1) fun inside hi => ?_
        refine .bind (expandWith_noEnd colors less defs hi) fun r hr => ?_
        refine .bind (expandWith_noEnd colors (less + 1) r.2 (rest args.2)) fun s hs => .ok ?_
        exact List.forall_mem_append.2 ⟨hr, hs⟩
termination_by (room, ts.length)
decreasing_by
  · exact Prod.Lex.right _ (by simp only [List.length_cons, List.length_drop]; omega)
  · exact Prod.Lex.right _ (by simp only [List.length_cons]; omega)
  · exact Prod.Lex.left _ _ (by omega)
  · subst hroom
    exact Prod.Lex.right _ (by simp only [List.length_cons, List.length_drop]; omega)

/-- The tokens of a script are those of its text and its end, and after expansion they are so too.
The text is expanded in the same way when it stands at other places and more follows. -/
theorem expandTokens_append {colors : ColorTable} {body : List Token} {last : Token}
    (hl : last.kind = .eof) (hb : NoEnd body) {expanded : List Token}
    (h : expandTokens colors (body ++ [last]) = .ok expanded) :
    ∃ out, expanded = out ++ [last] ∧ NoEnd out ∧
      ∀ (f : SourcePos → SourcePos) {tail : List Token}, (∀ t ∈ tail, t.isTerminator = true) →
        expandTokens colors (body.map (Token.mapPos f) ++ tail) =
          .ok (out.map (Token.mapPos f) ++ tail) := by
  have ends : ∀ t ∈ [last], t.isTerminator = true := by simp [Token.isTerminator, hl]
  have alone := expandWith_alike (f := id) colors maxExpansionDepth [] body ends
  rw [List.map_id'' Token.mapPos_id] at alone
  unfold expandTokens at h ⊢
  cases hw : expandWith colors maxExpansionDepth [] (body ++ [last]) with
  | error e =>
    rw [hw] at h
    cases h
  | ok r =>
    rw [hw] at h
    cases h
    obtain ⟨⟨out, defs⟩, hout, hr⟩ := alone.exists_eq_ok hw
    rw [List.map_id'' Token.mapPos_id] at hr
    refine ⟨out, congrArg Prod.fst hr, expandWith_noEnd colors _ [] hb _ hout, fun f tail ht => ?_⟩
    rw [(expandWith_alike (f := f) colors maxExpansionDepth [] body ht).eq_ok hout]
    rfl

/-- A token that neither defines nor uses anything is left alone. -/
theorem expandTokens_cons {colors : ColorTable} {t : Token} (hd : t.isWord "define" = false)
    (hu : t.isUsable = false) {ts out : List Token} (h : expandTokens colors ts = .ok out) :
    expandTokens colors (t :: ts) = .ok (t :: out) := by
  unfold expandTokens at h ⊢
  rw [expandWith, hd, hu, if_neg Bool.false_ne_true]
  cases hw : expandWith colors maxExpansionDepth [] ts with
  | error e =>
    rw [hw] at h
    cases h
  | ok r =>
    rw [hw] at h
    cases h
    rfl

end DiagramScript
