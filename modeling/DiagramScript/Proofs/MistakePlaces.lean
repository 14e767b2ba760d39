import DiagramScript.Diagram
import DiagramScript.Number.Marked
import DiagramScript.Proofs.Concatenation
import DiagramScript.Proofs.Remainder
import DiagramScript.Proofs.ScanSteps

/-!
# Where mistakes are reported

Whatever is wrong with a script, the report points into it.  Mistakes in tokens and in statements
stand at tokens.  Mistakes of a run are placed on their way out, by the innermost expression or
statement they come from, and the places in statements are those of tokens.

* `Statement.Mentions` — statements that mention no other places than those of some kind.
* `Program.ofTokens_settles` — the statements of some tokens mention only the places of these.
* `run_settles` — a run reports its mistakes at places that its statements mention.
* `Diagram.compile_mistake` — every mistake of a script is reported at a place of the script.
-/

namespace DiagramScript

variable {P : SourcePos → Prop}

/-! ## Statements -/

/-- Whether some statements mention only places of some kind: they stay the same wherever all other
places are moved. -/
def Statement.Mentions (P : SourcePos → Prop) (ss : List Statement) : Prop :=
  ∀ f : SourcePos → SourcePos, (∀ p, P p → f p = p) → ss.map (Statement.mapPos f) = ss

theorem Within.map_mapPos {ts : List Token} (h : Within P ts) {f : SourcePos → SourcePos}
    (hf : ∀ p, P p → f p = p) : ts.map (Token.mapPos f) = ts := by
  refine (List.map_congr_left fun t ht => ?_).trans (List.map_id ts)
  obtain ⟨kind, text, pos⟩ := t
  exact congrArg (Token.mk kind text) (hf pos (h _ ht))

namespace Program

/-- The statements of some tokens mention only the places of these, and a mistake is reported at one
of them. -/
theorem ofTokens_settles (colors : ColorTable) {body : List Token} {last : Token}
    (hl : last.kind = .eof) (hb : NoEnd body) (h : Within P (body ++ [last])) :
    Settles (Diagnostic.PointsTo P) (Statement.Mentions P) (ofTokens colors (body ++ [last])) := by
  let g : Reader := ⟨colors, last⟩
  have stands : g.Stands P body body :=
    ⟨h last (by simp), fun t ht => h t (List.mem_append_left _ ht), List.suffix_rfl⟩
  constructor
  · intro ss hss f hf
    have read := (ofTokens_eq_ok hl hb).1 hss
    -- the same tokens, moved to where they are already, are read as the moved statements
    have moved := Continuation.readStatements_extend
      ⟨g, g, f, [], rfl, hl, hl, by simp⟩ none hb read
    have nothing : (g.readStatements none []).plain = .ok ([], []) := by
      rw [Reader.plain_readStatements, show Reader.skipEnds [] = [] from rfl, Reader.peek_nil,
        show g.final.kind = .eof from hl]
    rw [Continuation.extend, stands.tokens.map_mapPos hf, List.append_nil, nothing, ok_bind,
      List.append_nil, read] at moved
    exact (congrArg Prod.fst (Except.ok.inj moved)).symm
  · intro d hd
    have reads := Reader.readStatements_reads none body (by simp) stands
    rw [ofTokens, splitFinal_append hl] at hd
    dsimp only at hd
    cases hr : g.readStatements none body with
    | error e =>
      rw [hr] at hd reads
      cases hd
      exact Settles.error reads _ rfl
    | ok r =>
      rw [hr, ok_bind] at hd
      rw [hr] at reads
      split_ifs at hd
      cases hd
      exact grammarError_pointsTo (reads.stands rfl : g.Stands P body r.rest).peek _

end Program

/-! ## Runs -/

/-- Placing a mistake gives it a place. -/
theorem Outcome.locate_settles {K : Type} (o : Outcome K) (p : SourcePos) :
    Settles (Failure.PointsTo fun _ => True) (fun _ => True) (o.locate p).1 := by
  refine ⟨fun _ _ => trivial, fun f hf d hd => ?_⟩
  subst hd
  cases ho : o.1 with
  | ok u =>
    rw [locate, ho] at hf
    cases hf
  | error e =>
    rw [locate, ho] at hf
    cases e with
    | mistake e =>
      cases hf
      obtain ⟨q, hq⟩ := Option.isSome_iff_exists.1 (e.locate_place_isSome p)
      exact ⟨q, hq, trivial⟩
    | fault e => cases hf
    | missing key => cases hf
    | outOfRange => cases hf
    | noPath => cases hf

variable {K : Type} [Arith K] (t : Resources K)

/-- Every mistake of a statement has a place. -/
theorem execute_settles (d : Drawing K) (s : Statement) :
    Settles (Failure.PointsTo fun _ => True) (fun _ => True) (execute t d s).1 := by
  cases s with
  | object p cls label attributes =>
    rw [execute]
    exact Outcome.locate_settles _ p
  | group p body label attributes =>
    rw [execute]
    split
    · exact Outcome.locate_settles _ p
    · exact Outcome.locate_settles _ p
  | assign p name op value =>
    rw [execute]
    exact Outcome.locate_settles _ p
  | direction p dir =>
    rw [execute]
    exact .of_ok trivial
  | print p items =>
    rw [execute]
    exact Outcome.locate_settles _ p
  | assertScalars p left right =>
    rw [execute]
    exact Outcome.locate_settles _ p
  | assertPositions p left right =>
    rw [execute]
    exact Outcome.locate_settles _ p
  | place p label q =>
    rw [execute]
    exact Outcome.locate_settles _ p

/-- So has every mistake of a run. -/
theorem run_placed (d : Drawing K) (ss : List Statement) :
    Settles (Failure.PointsTo fun _ => True) (fun _ => True) (run t d ss).1 := by
  induction ss generalizing d with
  | nil =>
    rw [run]
    exact .of_ok trivial
  | cons s ss ih =>
    have first := execute_settles t d s
    rw [run]
    cases hs : (execute t d s).1 with
    | ok u => exact ih _
    | error e =>
      rw [hs] at first
      exact .of_error (first.error e rfl)

/-- A run reports its mistakes at places that its statements mention: nothing else would move with
the statements. -/
theorem run_settles (d : Drawing K) {ss : List Statement} (h : Statement.Mentions P ss) :
    Settles (Failure.PointsTo P) (fun _ => True) (run t d ss).1 := by
  classical
  refine ⟨fun _ _ => trivial, fun e he m hm => ?_⟩
  subst hm
  obtain ⟨q, hq, -⟩ := (run_placed t d ss).error _ he m rfl
  refine ⟨q, hq, ?_⟩
  by_contra hP
  let f : SourcePos → SourcePos := fun p => if P p then p else p.down 1
  have same : Outcome.mapPos f (run t d ss) = run t d ss := by
    rw [← run_mapPos, h f fun p hp => if_pos hp]
  have moved := congrArg Prod.fst same
  rw [Outcome.mapPos, he] at moved
  have place : m.mapPos f = m := Failure.mistake.inj (Except.error.inj moved)
  have there := congrArg Diagnostic.place place
  rw [Diagnostic.mapPos, hq] at there
  have here : f q = q := Option.some.inj there
  rw [show f q = q.down 1 from if_neg hP] at here
  exact absurd (congrArg SourcePos.line here) (Nat.succ_ne_self q.line)

/-! ## Diagrams -/

namespace Diagram

variable {t}

/-- The mistakes of a script, in its tokens, definitions, statements or run, are placed in it. -/
theorem compile_settles (source : String) :
    Settles (Failure.PointsTo (SourcePos.IsIn source.toList)) (fun _ => True)
      (compile t source) := by
  let P := SourcePos.IsIn source.toList
  have tokens := tokenize_settles t.colors source
  unfold compile Program.ofSource
  cases ht : tokenize t.colors source with
  | error e => exact .of_error (tokens.error e ht)
  | ok ts =>
    obtain ⟨body, last, rfl, hl, hb, -⟩ := tokenize_append ht
    have expands := expandTokens_settles t.colors (tokens.ok _ ht)
    rw [ok_bind]
    cases he : expandTokens t.colors (body ++ [last]) with
    | error e => exact .of_error (expands.error e he)
    | ok expanded =>
      obtain ⟨out, rfl, hout, -⟩ := expandTokens_append hl hb he
      have reads := Program.ofTokens_settles t.colors hl hout (expands.ok _ he)
      rw [ok_bind]
      refine .bind reads.liftMistake fun ss hss => ?_
      have drawn := run_settles t Drawing.initial hss
      unfold ofStatements
      rcases hr : run t Drawing.initial ss with ⟨e | u, d⟩
      · rw [hr] at drawn
        exact .of_error (drawn.error e rfl)
      · exact .of_ok trivial

/-- Every mistake of a script is reported at a place of the script: at the place of one of its
characters, or at its end. -/
theorem compile_mistake {source : String} {d : Diagnostic}
    (h : compile t source = .error (.mistake d)) :
    ∃ k ≤ source.length, d.place = some (SourcePos.first.after (source.toList.take k)) := by
  obtain ⟨p, hp, seen, inside, rfl⟩ := (compile_settles source).error _ h d rfl
  refine ⟨seen.length, ?_, ?_⟩
  · rw [← String.length_toList]
    exact inside.length_le
  · rw [hp, ← List.prefix_iff_eq_take.1 inside]

/-- A division by zero in a definition, which is used in a group in a group: the mistake is reported
where the use stands. -/
theorem compile_mistake_in_group :
    let source := "define M \x7b1/0\x7d\n[[box wid M]]"
    let d : Diagnostic := ⟨.eval .divisionByZero, some ⟨2, 11⟩⟩
    compile (Resources.standard : Resources MachineNumber) source = .error (.mistake d) ∧
      ∃ k ≤ source.length, d.place = some (SourcePos.first.after (source.toList.take k)) := by
  intro source d
  let use : List Token := [⟨.eol, "\n", ⟨1, 15⟩⟩, ⟨.lbracket, "[", ⟨2, 1⟩⟩,
    ⟨.lbracket, "[", ⟨2, 2⟩⟩, ⟨.word, "box", ⟨2, 3⟩⟩, ⟨.word, "wid", ⟨2, 7⟩⟩]
  let close : List Token :=
    [⟨.rbracket, "]", ⟨2, 12⟩⟩, ⟨.rbracket, "]", ⟨2, 13⟩⟩, ⟨.eof, "", ⟨2, 14⟩⟩]
  let definition : List Token := [⟨.word, "define", ⟨1, 1⟩⟩, ⟨.label, "M", ⟨1, 8⟩⟩,
    ⟨.block "1/0", "\x7b1/0\x7d", ⟨1, 10⟩⟩]
  let fraction : List Token := [⟨.number ⟨1, 0⟩ none, "1", ⟨2, 11⟩⟩, ⟨.slash, "/", ⟨2, 11⟩⟩,
    ⟨.number ⟨0, 0⟩ none, "0", ⟨2, 11⟩⟩]
  let ss : List Statement :=
    [.group ⟨2, 1⟩ [.group ⟨2, 2⟩ [.object ⟨2, 3⟩ .box none [⟨⟨2, 7⟩, .size .width
      (.binary ⟨2, 11⟩ .div (.number ⟨2, 11⟩ ⟨1, 0⟩ none) (.number ⟨2, 11⟩ ⟨0, 0⟩ none))⟩]]
        none []] none []]
  have tokens : tokenize .standard source =
      .ok (definition ++ use ++ ⟨.label, "M", ⟨2, 11⟩⟩ :: close) := by
    rw [tokenize_eq_steps]
    decide +kernel
  have expanded : expandTokens .standard (definition ++ use ++ ⟨.label, "M", ⟨2, 11⟩⟩ :: close) =
      .ok (use ++ fraction ++ close) := by
    cbv
  have statements : Program.ofTokens .standard (use ++ fraction ++ close) = .ok ss := by
    cbv
  have fails : (ofStatements (Resources.standard : Resources MachineNumber) ss).map (fun _ => ()) =
      .error (.mistake d) := by
    decide +kernel
  have compiled : compile (Resources.standard : Resources MachineNumber) source =
      .error (.mistake d) := by
    rw [compile, Program.ofSource, show (Resources.standard : Resources MachineNumber).colors =
      .standard from rfl, tokens, ok_bind, expanded, ok_bind, statements, liftMistake_ok, ok_bind]
    cases drawn : ofStatements (Resources.standard : Resources MachineNumber) ss with
    | ok drawing =>
      rw [drawn] at fails
      cases fails
    | error e =>
      rw [drawn] at fails
      cases fails
      rfl
  exact ⟨compiled, compile_mistake compiled⟩

end Diagram

end DiagramScript
