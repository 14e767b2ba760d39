import DiagramScript.Proofs.Concatenation
import DiagramScript.Proofs.ExpandedText

/-!
# Scripts in brackets

A script between two lines with brackets is one group, with the statements of the script in it.

* `tokenize_brackets` — the tokens of such a script.
* `Program.ofSource_brackets` — its statement.
-/

namespace DiagramScript

/-! ## Tokens -/

/-- The tokens of a script in brackets: one bracket on a line before it, one on a line after it. -/
theorem tokenize_brackets {colors : ColorTable} {source : String} {ts : List Token}
    (h : tokenize colors source = .ok ts) :
    ∃ body last stop close final, ts = body ++ [last] ∧ last.kind = .eof ∧ NoEnd body ∧
      stop.kind = .eol ∧ close.kind = .rbracket ∧ final.kind = .eof ∧
      tokenize colors ("[\n" ++ source ++ "\n]") = .ok (⟨.lbracket, "[", .first⟩ ::
        ⟨.eol, "\n", ⟨1, 2⟩⟩ :: (body.map (Token.mapPos (.down 1)) ++ [stop, close, final])) := by
  have opening : tokenize colors "[" = .ok [⟨.lbracket, "[", ⟨1, 1⟩⟩, ⟨.eof, "", ⟨1, 2⟩⟩] := by
    cbv
  have closing : tokenize colors "]" = .ok [⟨.rbracket, "]", ⟨1, 1⟩⟩, ⟨.eof, "", ⟨1, 2⟩⟩] := by
    cbv
  obtain ⟨body, last, rfl, hl, hb, joined⟩ := tokenize_append h
  obtain ⟨front, final, hfront, -, -, opened⟩ := tokenize_append opening
  have pieces : [⟨.lbracket, "[", .first⟩] ++ [(⟨.eof, "", ⟨1, 2⟩⟩ : Token)] = front ++ [final] :=
    hfront
  obtain ⟨rfl, ends⟩ := List.append_inj' pieces rfl
  obtain rfl := List.singleton_inj.1 ends
  have text : "[\n" ++ source ++ "\n]" = "[" ++ "\n" ++ (source ++ "\n" ++ "]") := by
    rw [← String.toList_inj]
    simp
  have whole := opened (joined closing)
  rw [← text, List.map_append] at whole
  exact ⟨body, last, _, _, _, rfl, hl, hb, rfl, rfl, rfl, whole⟩

/-! ## Statements -/

namespace Program

/-- The statements of a script, in brackets, are one group. -/
theorem ofTokens_brackets {colors : ColorTable} {body : List Token}
    {last start stop close final : Token} {ss : List Statement} (hl : last.kind = .eof)
    (hb : NoEnd body) (h : ofTokens colors (body ++ [last]) = .ok ss) (f : SourcePos → SourcePos)
    (hstart : start.kind = .eol) (hstop : stop.kind = .eol) (hclose : close.kind = .rbracket)
    (hfinal : final.kind = .eof) :
    ofTokens colors (⟨.lbracket, "[", .first⟩ :: start ::
      (body.map (Token.mapPos f) ++ [stop, close, final])) =
        .ok [.group .first (ss.map (Statement.mapPos f)) none []] := by
  rw [ofTokens_eq_ok hl hb] at h
  let opener : Token := ⟨.lbracket, "[", .first⟩
  let g : Reader := ⟨colors, final⟩
  let inside : List Token := body.map (Token.mapPos f) ++ [stop, close]
  have closing : (g.readStatements (some opener) [stop, close]).plain = .ok ([], [close]) := by
    rw [g.plain_readStatements_eol hstop, Reader.plain_readStatements]
    simp [Reader.skipEnds, hclose]
  have statements : (g.readStatements (some opener) inside).plain =
      .ok (ss.map (Statement.mapPos f), [close]) := by
    have longer := Continuation.readStatements_extend
      ⟨⟨colors, last⟩, g, f, [stop, close], rfl, hl, hfinal, by simp [hstop]⟩ (some opener) hb h
    rw [closing, ok_bind, List.append_nil] at longer
    exact longer
  have group : (g.readDeclaration .first none (opener :: start :: inside)).plain =
      .ok (.group .first (ss.map (Statement.mapPos f)) none [], []) := by
    have none_left : (g.readAttributes [] []).plain = .ok ([], []) := by
      rw [Reader.plain_readAttributes, Reader.peek_nil,
        if_pos (by simp [Token.isTerminator, g, hfinal])]
    rw [Reader.plain_readDeclaration_cons]
    dsimp only [opener]
    rw [g.plain_readStatements_eol hstart, statements, ok_bind,
      g.plain_readMark_cons .rbracket hclose, ok_bind, none_left]
    rfl
  have statement : (g.readStatement (opener :: start :: inside)).plain =
      .ok (.group .first (ss.map (Statement.mapPos f)) none [], []) := by
    rw [Reader.plain_readStatement_cons, ← group]
    simp [Reader.peek_cons, hstart, opener, Token.isWord, Reader.beginsObject]
  have all : (g.readStatements none (opener :: start :: inside)).plain =
      .ok ([.group .first (ss.map (Statement.mapPos f)) none []], []) := by
    have skipped : Reader.skipEnds (opener :: start :: inside) = opener :: start :: inside := rfl
    have end_of_script : (g.readStatements none []).plain = .ok ([], []) := by
      rw [Reader.plain_readStatements, show Reader.skipEnds [] = [] from rfl, Reader.peek_nil,
        hfinal]
    rw [Reader.plain_readStatements_step _ (by rw [skipped]; simp [opener, Reader.peek_cons])
      (by rw [skipped]; simp [opener, Reader.peek_cons]), skipped, statement, ok_bind,
      if_pos (by simp [Reader.peek_nil, Token.isTerminator, g, hfinal]), end_of_script]
    rfl
  have noEnd : NoEnd (opener :: start :: inside) := by
    have moved : NoEnd (body.map (Token.mapPos f)) := fun t ht => by
      obtain ⟨u, hu, rfl⟩ := List.mem_map.1 ht
      exact hb u hu
    simp only [NoEnd, inside, List.forall_mem_cons, List.forall_mem_append]
    exact ⟨by simp [opener], by simp [hstart], moved, by simp [hstop], by simp [hclose], by simp⟩
  have whole := (ofTokens_eq_ok hfinal noEnd).2 all
  rwa [List.cons_append, List.cons_append, List.append_assoc] at whole

/-- A script in brackets is one group with the statements of the script, a line further down. -/
theorem ofSource_brackets {colors : ColorTable} {source : String} {ss : List Statement}
    (h : ofSource colors source = .ok ss) :
    ofSource colors ("[\n" ++ source ++ "\n]") =
      .ok [.group .first (ss.map (Statement.mapPos (.down 1))) none []] := by
  obtain ⟨ts, ht, h⟩ := exists_of_bind_eq_ok h
  obtain ⟨expanded, he, h⟩ := exists_of_bind_eq_ok h
  obtain ⟨body, last, stop, close, final, rfl, hl, hb, hstop, hclose, hfinal, whole⟩ :=
    tokenize_brackets ht
  obtain ⟨out, rfl, hout, longer⟩ := expandTokens_append hl hb he
  have ends : ∀ t ∈ [stop, close, final], t.isTerminator = true := by
    simp [Token.isTerminator, hstop, hclose, hfinal]
  have statements := ofTokens_brackets hl hout (ok_of_liftMistake h) (.down 1)
    (show (⟨.eol, "\n", ⟨1, 2⟩⟩ : Token).kind = .eol from rfl) hstop hclose hfinal
  have expanded := expandTokens_cons (t := ⟨.lbracket, "[", .first⟩) rfl rfl
    (expandTokens_cons (t := ⟨.eol, "\n", ⟨1, 2⟩⟩) rfl rfl (longer (.down 1) ends))
  unfold ofSource
  rw [whole, ok_bind, expanded, ok_bind, statements]
  rfl

end Program

end DiagramScript
