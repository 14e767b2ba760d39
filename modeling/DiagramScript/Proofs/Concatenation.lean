import Mathlib
import DiagramScript.Proofs.LineByLine
import DiagramScript.Proofs.RelocatedRuns
import DiagramScript.Proofs.StatementContinuation

/-!
# Scripts one after the other

Two scripts on separate lines are one script: it has the statements of both, and running it is
running the first and then the second.

* `tokenize_append` — the tokens of the two scripts, with the end of a statement between them.
* `Program.ofTokens_append` — the statements of such tokens.
* `ofSource_append` — the statements of two scripts, and their run.
-/

namespace DiagramScript

/-! ## Tokens -/

theorem tokenize_eq_ok {colors : ColorTable} {source : String} {ts : List Token} :
    tokenize colors source = .ok ts ↔ faultFrom colors source.toList = none ∧
      scanFrom colors .first source.toList = (ts, []) := by
  unfold tokenize scan
  cases faultFrom colors source.toList with
  | some f => simp
  | none =>
    dsimp only
    generalize scanFrom colors .first source.toList = r
    obtain ⟨us, es⟩ := r
    cases es with
    | nil => simp
    | cons e es => simp

/-- The tokens of a script are some tokens of statements, and one for its end. -/
theorem tokenize_append {colors : ColorTable} {source : String} {ts : List Token}
    (h : tokenize colors source = .ok ts) :
    ∃ body last, ts = body ++ [last] ∧ last.kind = .eof ∧ (∀ t ∈ body, t.kind ≠ .eof) ∧
      ∀ {more us}, tokenize colors more = .ok us →
        tokenize colors (source ++ "\n" ++ more) = .ok (body ++ ⟨.eol, "\n", last.pos⟩ ::
          us.map (Token.mapPos (.down (source.toList.count '\n' + 1)))) := by
  obtain ⟨hf, hs⟩ := tokenize_eq_ok.1 h
  have noErrors : (scanFrom colors .first source.toList).2 = [] := by rw [hs]
  obtain ⟨body, hbody, hkind, happ⟩ := scanFrom_append colors .first noErrors
  rw [hs] at hbody
  refine ⟨body, _, hbody, rfl, hkind, fun {more us} hm => tokenize_eq_ok.2 ?_⟩
  obtain ⟨hf', hs'⟩ := tokenize_eq_ok.1 hm
  have joined : (source ++ "\n" ++ more).toList = source.toList ++ '\n' :: more.toList := by
    rw [String.toList_append, String.toList_append, List.append_assoc]
    rfl
  rw [joined, faultFrom_append colors .first noErrors hf, happ, SourcePos.after_newline,
    scanFrom_down, hs']
  exact ⟨hf', rfl⟩

/-! ## Statements -/

namespace Reader

variable (g : Reader)

/-- Outside of groups, statements are read up to the end of the script. -/
theorem peek_readStatements {ts rest : List Token} {ss : List Statement}
    (h : (g.readStatements none ts).plain = .ok (ss, rest)) : (g.peek rest).kind = .eof := by
  by_cases hf : (g.peek (skipEnds ts)).kind = .eof
  · rw [plain_readStatements, hf] at h
    cases h
    exact hf
  · by_cases hb : (g.peek (skipEnds ts)).kind = .rbracket
    · rw [plain_readStatements, hb] at h
      cases h
    · rw [plain_readStatements_step _ hf hb] at h
      obtain ⟨⟨s, left⟩, hs, h⟩ := exists_of_bind_eq_ok h
      have := Reading.length_lt_of_plain hs
      have := length_skipEnds_le ts
      split_ifs at h
      obtain ⟨⟨more, rest'⟩, hm, h⟩ := exists_of_bind_eq_ok h
      cases h
      exact peek_readStatements hm
termination_by ts.length

/-- The end of a statement before the first statement is skipped. -/
theorem plain_readStatements_eol {t : Token} (ht : t.kind = .eol) (opener : Option Token)
    (ts : List Token) :
    (g.readStatements opener (t :: ts)).plain = (g.readStatements opener ts).plain := by
  rw [plain_readStatements, plain_readStatements, Continuation.skipEnds_cons_of_eol ht]

end Reader

namespace Program

theorem splitFinal_append {last : Token} (h : last.kind = .eof) (body : List Token) :
    splitFinal (body ++ [last]) = (body, last) := by
  simp [splitFinal, h]

/-- The tokens of a script make up the statements that are read from them up to their end. -/
theorem ofTokens_eq_ok {colors : ColorTable} {body : List Token} {last : Token}
    (hl : last.kind = .eof) (hb : ∀ t ∈ body, t.kind ≠ .eof) {ss : List Statement} :
    ofTokens colors (body ++ [last]) = .ok ss ↔
      (Reader.readStatements ⟨colors, last⟩ none body).plain = .ok (ss, []) := by
  let g : Reader := ⟨colors, last⟩
  have leaves : ∀ {p}, (g.readStatements none body).plain = .ok p → p.2 <:+ body :=
    Reader.readStatements_suffix
  have ends : ∀ {ss rest}, (g.readStatements none body).plain = .ok (ss, rest) →
      (g.peek rest).kind = .eof := g.peek_readStatements
  unfold ofTokens
  rw [splitFinal_append hl]
  dsimp only
  generalize hr : g.readStatements none body = r at leaves ends
  cases r with
  | error e => exact iff_of_false (fun h => nomatch h) fun h => nomatch h
  | ok r =>
    obtain ⟨read, rest, hlt⟩ := r
    have last_kind := ends rfl
    obtain rfl : rest = [] := by
      cases rest with
      | nil => rfl
      | cons t rest =>
        exact absurd last_kind (hb t ((leaves rfl).subset (List.mem_cons_self ..)))
    rw [ok_bind, if_pos last_kind, Reading.plain_ok]
    simp [Parsed.plain]

/-- Tokens that end one script and then another are the statements of both. -/
theorem ofTokens_append {colors : ColorTable} {body body' : List Token} {last last' : Token}
    (hl : last.kind = .eof) (hb : ∀ t ∈ body, t.kind ≠ .eof) (hl' : last'.kind = .eof)
    (hb' : ∀ t ∈ body', t.kind ≠ .eof) {ss ss' : List Statement}
    (h : ofTokens colors (body ++ [last]) = .ok ss)
    (h' : ofTokens colors (body' ++ [last']) = .ok ss') (f : SourcePos → SourcePos) {stop : Token}
    (hs : stop.kind = .eol) :
    ofTokens colors (body ++ stop :: (body' ++ [last']).map (Token.mapPos f)) =
      .ok (ss ++ ss'.map (Statement.mapPos f)) := by
  rw [ofTokens_eq_ok hl hb] at h
  rw [ofTokens_eq_ok hl' hb'] at h'
  let g : Reader := ⟨colors, last'.mapPos f⟩
  have none_left : (g.readStatements none []).plain = .ok ([], []) := by
    rw [Reader.plain_readStatements, show Reader.skipEnds [] = [] from rfl, Reader.peek_nil,
      show g.final.kind = .eof from hl']
  have second := Continuation.readStatements_extend
    ⟨⟨colors, last'⟩, g, f, [], rfl, hl', hl', by simp⟩ none hb' h'
  rw [Continuation.extend, List.append_nil, none_left, ok_bind, List.append_nil] at second
  have first := Continuation.readStatements_extend
    ⟨⟨colors, last⟩, g, id, stop :: body'.map (Token.mapPos f), rfl, hl, hl', by simp [hs]⟩
    none hb h
  rw [Continuation.extend, g.plain_readStatements_eol hs, second, ok_bind, List.map_id''
    Token.mapPos_id, List.map_id'' Statement.mapPos_id] at first
  rw [List.map_append, List.map_singleton, ← List.cons_append, ← List.append_assoc]
  refine (ofTokens_eq_ok (show (last'.mapPos f).kind = .eof from hl') fun t ht => ?_).2 first
  rcases List.mem_append.1 ht with ht | ht
  · exact hb t ht
  · rcases List.mem_cons.1 ht with rfl | ht
    · simp [hs]
    · obtain ⟨u, hu, rfl⟩ := List.mem_map.1 ht
      exact hb' u hu

/-- Without definitions, the statements of a script are those of its tokens. -/
theorem ofSource_eq_ok {colors : ColorTable} {source : String} {ts : List Token}
    (h : tokenize colors source = .ok ts) (hd : ∀ t ∈ ts, t.isWord "define" = false)
    {ss : List Statement} : ofSource colors source = .ok ss ↔ ofTokens colors ts = .ok ss := by
  unfold ofSource expandTokens
  rw [h, ok_bind, expandWith_of_no_define colors _ hd]
  change liftMistake (ofTokens colors ts) = .ok ss ↔ _
  cases ofTokens colors ts <;> simp [liftMistake, Except.mapError]

end Program

/-! ## Scripts -/

/-- Two scripts without definitions, one after the other, are one script.  Its statements are those
of the first and those of the second, as many lines down as the first has; running it is running the
first and, unless that fails, the second, on the drawing that is there then. -/
theorem ofSource_append {colors : ColorTable} {source more : String} {ss ss' : List Statement}
    (h : Program.ofSource colors source = .ok ss) (h' : Program.ofSource colors more = .ok ss')
    (hd : ∀ ts, tokenize colors source = .ok ts → ∀ t ∈ ts, t.isWord "define" = false)
    (hd' : ∀ ts, tokenize colors more = .ok ts → ∀ t ∈ ts, t.isWord "define" = false) :
    let down := SourcePos.down (source.toList.count '\n' + 1)
    let all := ss ++ ss'.map (Statement.mapPos down)
    Program.ofSource colors (source ++ "\n" ++ more) = .ok all ∧
      ∀ {K : Type} [Arith K] (t : Resources K) (d : Drawing K),
        (run t d all = Outcome.andThen (run t d ss) fun d => Outcome.mapPos down (run t d ss')) ∧
        (run t d all).2 = (Outcome.andThen (run t d ss) fun d => run t d ss').2 := by
  intro down all
  constructor
  · obtain ⟨ts, ht⟩ : ∃ ts, tokenize colors source = .ok ts := by
      obtain ⟨ts, ht, -⟩ := exists_of_bind_eq_ok h
      exact ⟨ts, ht⟩
    obtain ⟨us, hu⟩ : ∃ us, tokenize colors more = .ok us := by
      obtain ⟨us, hu, -⟩ := exists_of_bind_eq_ok h'
      exact ⟨us, hu⟩
    have statements := (Program.ofSource_eq_ok ht (hd ts ht)).1 h
    have statements' := (Program.ofSource_eq_ok hu (hd' us hu)).1 h'
    obtain ⟨body, last, rfl, hl, hb, joined⟩ := tokenize_append ht
    obtain ⟨body', last', rfl, hl', hb', -⟩ := tokenize_append hu
    refine (Program.ofSource_eq_ok (joined hu) fun t hm => ?_).2
      (Program.ofTokens_append hl hb hl' hb' statements statements' down rfl)
    rcases List.mem_append.1 hm with hm | hm
    · exact hd _ ht t (List.mem_append_left _ hm)
    · rcases List.mem_cons.1 hm with rfl | hm
      · rfl
      · obtain ⟨u, hu', rfl⟩ := List.mem_map.1 hm
        exact hd' _ hu u hu'
  · intro K _ t d
    have whole : run t d all
        = Outcome.andThen (run t d ss) fun d => Outcome.mapPos down (run t d ss') := by
      rw [run_append]
      simp only [run_mapPos]
    refine ⟨whole, ?_⟩
    rw [whole, Outcome.andThen, Outcome.andThen]
    cases (run t d ss).1 <;> rfl

/-- A box on one line and a circle on the next. -/
theorem ofSource_box_circle :
    Program.ofSource .standard ("box wid 2" ++ "\n" ++ "circle") = .ok
      [.object ⟨1, 1⟩ .box none [⟨⟨1, 5⟩, .size .width (.number ⟨1, 9⟩ ⟨2, 0⟩ none)⟩],
        .object ⟨2, 1⟩ .circle none []] := by
  have box : tokenize .standard "box wid 2" = .ok [⟨.word, "box", ⟨1, 1⟩⟩, ⟨.word, "wid", ⟨1, 5⟩⟩,
      ⟨.number ⟨2, 0⟩ none, "2", ⟨1, 9⟩⟩, ⟨.eof, "", ⟨1, 10⟩⟩] := by
    cbv
  have circle : tokenize .standard "circle" = .ok [⟨.word, "circle", ⟨1, 1⟩⟩,
      ⟨.eof, "", ⟨1, 7⟩⟩] := by
    cbv
  have statements : Program.ofSource .standard "box wid 2" = .ok [.object ⟨1, 1⟩ .box none
      [⟨⟨1, 5⟩, .size .width (.number ⟨1, 9⟩ ⟨2, 0⟩ none)⟩]] := by
    cbv
  have statements' : Program.ofSource .standard "circle" =
      .ok [.object ⟨1, 1⟩ .circle none []] := by
    cbv
  refine (ofSource_append statements statements' (fun ts ht => ?_) fun ts ht => ?_).1
  · rw [box] at ht
    cases ht
    decide
  · rw [circle] at ht
    cases ht
    decide

end DiagramScript
