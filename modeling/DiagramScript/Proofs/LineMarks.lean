import DiagramScript.Proofs.DeclaredTexts
import DiagramScript.Proofs.StatementSteps

/-!
# Marks of lines of text

A word that marks a line of text takes back the mark that it contradicts.  The reader marks lines as
it reads, always the last one of the declaration that it is in.  So whatever words follow a string,
no line that a script declares bears two contrary marks.

* `Declaration.IsConsistent` — no line of a declaration bears two contrary marks.
* `markLastText_consistent`, `readAttributes_consistent` — the clauses of one declaration.
* `readStatements_consistent`, `Program.ofSource_consistent` — all declarations of a script.
-/

namespace DiagramScript

/-! ## Clauses -/

/-- Whether no line of text among some clauses bears two contrary marks. -/
def LinesConsistent (as : List Attribute) : Prop := ∀ line ∈ linesOf as, line.Consistent

/-- Whether no line of a declaration bears two contrary marks. -/
def Declaration.IsConsistent (decl : Declaration) : Prop := LinesConsistent decl.attributes

namespace LinesConsistent

variable {as : List Attribute} {a : Attribute}

theorem nil : LinesConsistent [] := fun _ h => nomatch h

theorem cons_iff : LinesConsistent (a :: as) ↔
    (∀ line ∈ a.clause.line?, line.Consistent) ∧ LinesConsistent as := by
  unfold LinesConsistent linesOf
  cases h : a.clause.line? with
  | none => simp [h]
  | some line => simp [h]

theorem concat (h : LinesConsistent as) (ha : ∀ line ∈ a.clause.line?, line.Consistent) :
    LinesConsistent (as ++ [a]) := by
  intro line hm
  rw [linesOf_concat] at hm
  rcases List.mem_append.1 hm with hm | hm
  · exact h line hm
  · exact ha line (Option.mem_toList.1 hm)

/-- A clause that is no text adds no line. -/
theorem concat_other (h : LinesConsistent as) (none : a.clause.line? = none) :
    LinesConsistent (as ++ [a]) :=
  h.concat fun line hm => by
    rw [none] at hm
    cases hm

end LinesConsistent

namespace Reader

variable {g : Reader} {before : Clauses}

/-- Marking the last line leaves all lines consistent. -/
theorem markLastText_consistent {m : TextModifier} {marked : Clauses}
    (h : LinesConsistent before) (hm : markLastText m before = some marked) :
    LinesConsistent marked := by
  induction before generalizing marked with
  | nil => cases hm
  | cons a rest ih =>
    obtain ⟨first, others⟩ := LinesConsistent.cons_iff.1 h
    rw [markLastText] at hm
    cases later : markLastText m rest with
    | some marked' =>
      rw [later] at hm
      cases hm
      exact LinesConsistent.cons_iff.2 ⟨first, ih others later⟩
    | none =>
      rw [later] at hm
      obtain ⟨pos, clause⟩ := a
      cases clause with
      | text line =>
        cases hm
        refine LinesConsistent.cons_iff.2 ⟨fun line' h' => ?_, others⟩
        cases h'
        exact TextLine.modify_consistent (first line rfl) m
      | _ => cases hm

/-- A clause that starts with a word is no text. -/
theorem readWordClause_lineless (t : Token) (ts : List Token) :
    Ensures (fun c : Option (Clause × List Token) => ∀ p ∈ c, p.1.line? = none)
      (Reading.plain? (g.readWordClause t ts)) := by
  have clause : ∀ {c : Clause} {rest : List Token}, c.line? = none →
      Ensures (fun c : Option (Clause × List Token) => ∀ p ∈ c, p.1.line? = none)
        (.ok (some (c, rest)) : Except Diagnostic _) := fun lineless =>
    .ok fun p hp => by
      cases hp
      exact lineless
  rw [plain?_readWordClause]
  cases Dimension.ofWord? t.text with
  | some d => exact .andThen fun v => clause rfl
  | none =>
    cases Flag.ofWord? t.text with
    | some f => exact clause rfl
    | none =>
      cases Direction.ofName? t.text with
      | some d => exact .ite (.andThen fun p => clause rfl) (clause rfl)
      | none =>
        dsimp only
        split
        case h_2 | h_3 => exact clause rfl
        case h_7 => exact .ite (.andThen fun ref => clause rfl) (clause rfl)
        case h_9 => exact .andThen fun a => .andThen fun word => .andThen fun p => clause rfl
        case h_12 => exact .ite (.error _) (clause rfl)
        case h_15 => exact .ok nofun
        all_goals exact .andThen fun v => clause rfl

theorem readDistance_lineless (t : Token) (ts : List Token) :
    Ensures (fun p => p.1.line? = none) (g.readDistance t ts).plain := by
  rw [plain_readDistance]
  exact .ite (.andThen fun v => .ok rfl) (.ite (.error _) (.error _))

/-- Reading one more clause, or one more mark, leaves all lines consistent. -/
theorem readAttribute_consistent (h : LinesConsistent before) (ts : List Token) :
    Ensures (fun p => LinesConsistent p.1) (g.readAttribute before ts).plain := by
  cases ts with
  | nil => exact .error _
  | cons t ts =>
    have distance : Ensures (fun p : Clauses × List Token => LinesConsistent p.1) (do
        let c ← (g.readDistance t ts).plain
        .ok (before ++ [(⟨t.pos, c.1⟩ : Attribute)], c.2)) :=
      .bind (readDistance_lineless t ts) fun c lineless => .ok (h.concat_other lineless)
    rw [plain_readAttribute_cons]
    cases t.kind
    case str text =>
      refine .ok (h.concat fun line hl => ?_)
      cases hl
      exact TextLine.consistent_plain text
    case arrow => exact .ok (h.concat_other rfl)
    case word =>
      refine .bind (readWordClause_lineless t ts) fun c lineless => ?_
      cases c with
      | some c => exact .ok (h.concat_other (lineless c rfl))
      | none =>
        refine .ite (.ok h) ?_
        cases TextModifier.ofName? t.text with
        | none => exact .ite (.error _) distance
        | some m =>
          dsimp only
          cases hm : markLastText m before with
          | none => exact .error _
          | some marked => exact .ok (markLastText_consistent h hm)
    all_goals exact distance

/-- Whatever words follow its strings, the lines of a declaration are consistent. -/
theorem readAttributes_consistent (before : Clauses) (ts : List Token) :
    LinesConsistent before →
      Ensures (fun p => LinesConsistent p.1) (g.readAttributes before ts).plain := by
  intro h
  rw [plain_readAttributes]
  refine .ite (.ok h) fun p hp => ?_
  obtain ⟨⟨one, rest⟩, first, hp⟩ := exists_of_bind_eq_ok hp
  have := Reading.length_lt_of_plain first
  exact readAttributes_consistent one rest (readAttribute_consistent h ts _ first) p hp
termination_by ts.length

/-! ## Statements -/

/-- Whether the lines of all declarations in a statement are consistent. -/
def StatementConsistent (s : Statement) : Prop := ∀ decl ∈ s.declarations, decl.IsConsistent

theorem StatementConsistent.object {pos : SourcePos} {cls : ObjectClass} {label : Option String}
    {attributes : List Attribute} (h : LinesConsistent attributes) :
    StatementConsistent (.object pos cls label attributes) := by
  intro decl hd
  rw [Statement.declarations] at hd
  cases List.mem_singleton.1 hd
  exact h

theorem StatementConsistent.aside {s : Statement} (h : s.draws = false) :
    StatementConsistent s := by
  intro decl hd
  rw [Statement.declarations_aside h] at hd
  cases hd

theorem readObject_consistent (pos : SourcePos) (label : Option String) (cls : ObjectClass)
    (ts : List Token) :
    Ensures (fun p => StatementConsistent p.1) (g.readObject pos label cls ts).plain := by
  rw [plain_readObject]
  exact .bind (readAttributes_consistent [] ts .nil) fun attributes h => .ok (.object h)

theorem readAssertion_consistent (pos : SourcePos) (ts : List Token) :
    Ensures (fun p => StatementConsistent p.1) (g.readAssertion pos ts).plain := by
  rw [plain_readAssertion]
  have scalars : Ensures (fun p => StatementConsistent p.1) (g.plainComparedScalars pos ts) :=
    .andThen fun left => .andThen fun eq => .andThen fun right => .andThen fun close =>
      .ok (.aside rfl)
  cases hp : g.plainComparedScalars pos ts with
  | ok p => exact .ok (scalars p hp)
  | error d =>
    exact .andThen fun left => .andThen fun eq => .andThen fun right => .andThen fun close =>
      .ok (.aside rfl)

variable (g)

mutual

theorem readDeclaration_consistent (pos : SourcePos) (label : Option String) (ts : List Token) :
    Ensures (fun p => StatementConsistent p.1) (g.readDeclaration pos label ts).plain := by
  cases ts with
  | nil =>
    rw [plain_readDeclaration_nil]
    exact .error _
  | cons t ts =>
    have object : Ensures (fun p => StatementConsistent p.1)
        (match ObjectClass.ofKeyword? t.text with
          | some cls => (g.readObject pos label cls ts).plain
          | none => .error (unexpected t .statement)) := by
      cases ObjectClass.ofKeyword? t.text with
      | none => exact .error _
      | some cls => exact readObject_consistent pos label cls ts
    rw [plain_readDeclaration_cons]
    cases t.kind
    case lbracket =>
      refine .bind (readStatements_consistent (some t) ts) fun body inside => ?_
      refine .andThen fun close => ?_
      refine .bind (readAttributes_consistent [] _ .nil) fun attributes own => .ok fun decl hd => ?_
      rw [Statement.declarations] at hd
      rcases List.mem_append.1 hd with hd | hd
      · exact inside decl hd
      · cases List.mem_singleton.1 hd
        exact own
    case str text =>
      refine .bind (readAttribute_consistent .nil (t :: ts)) fun first h => ?_
      exact .bind (readAttributes_consistent first.1 _ h) fun attributes h => .ok (.object h)
    all_goals exact object
termination_by 4 * ts.length

theorem readStatement_consistent (ts : List Token) :
    Ensures (fun p => StatementConsistent p.1) (g.readStatement ts).plain := by
  cases ts with
  | nil =>
    rw [plain_readStatement_nil]
    exact .error _
  | cons t ts =>
    have := (List.drop_suffix 1 ts).length_le
    rw [plain_readStatement_cons]
    refine .ite (.ite (readDeclaration_consistent _ _ _) ?_) ?_
    · exact .andThen fun p => .ok (.aside rfl)
    · generalize (if t.kind = .word ∧ (g.peek ts).isTerminator = true
        then Direction.ofName? t.text else none) = direction
      cases direction with
      | some d => exact .ok (.aside rfl)
      | none =>
        refine .ite ?_ (.ite ?_ (.ite ?_ (.ite (readDeclaration_consistent _ _ _) (.error _))))
        · exact .andThen fun e => .ok (.aside rfl)
        · exact .andThen fun items => .ok (.aside rfl)
        · exact .andThen fun start => readAssertion_consistent t.pos _
termination_by 4 * ts.length + 1

/-- The lines of all declarations in some statements are consistent. -/
theorem readStatements_consistent (opener : Option Token) (ts : List Token) :
    Ensures (fun p => ∀ decl ∈ declarationsOf p.1, decl.IsConsistent)
      (g.readStatements opener ts).plain := by
  have := length_skipEnds_le ts
  have nothing : Ensures (fun p => ∀ decl ∈ declarationsOf p.1, decl.IsConsistent)
      (.ok ([], skipEnds ts) : Except Diagnostic (List Statement × List Token)) :=
    .ok fun decl hd => by
      rw [declarationsOf] at hd
      cases hd
  have step : Ensures (fun p => ∀ decl ∈ declarationsOf p.1, decl.IsConsistent) (do
      let s ← (g.readStatement (skipEnds ts)).plain
      if (g.peek s.2).isTerminator then do
        let more ← (g.readStatements opener s.2).plain
        .ok (s.1 :: more.1, more.2)
      else .error (unexpected (g.peek s.2) .endOfStatement)) := by
    intro p hp
    obtain ⟨⟨s, rest⟩, first, hp⟩ := exists_of_bind_eq_ok hp
    have shorter := Reading.length_lt_of_plain first
    have own := readStatement_consistent (skipEnds ts) _ first
    split_ifs at hp
    obtain ⟨⟨more, end'⟩, others, hp⟩ := exists_of_bind_eq_ok hp
    cases hp
    intro decl hd
    rw [declarationsOf] at hd
    rcases List.mem_append.1 hd with hd | hd
    · exact own decl hd
    · exact readStatements_consistent opener rest _ others decl hd
  rw [plain_readStatements]
  cases (g.peek (skipEnds ts)).kind <;> cases opener <;> first
    | exact step
    | exact nothing
    | exact .error _
termination_by 4 * ts.length + 2

end

end Reader

/-! ## Scripts -/

/-- No line that a script declares bears two contrary marks. -/
theorem Program.ofSource_consistent (colors : ColorTable) (source : String) :
    Ensures (fun ss => ∀ decl ∈ declarationsOf ss, decl.IsConsistent)
      (ofSource colors source) := by
  refine .andThen fun ts => .andThen fun expanded => .mapError ?_ _
  intro ss h
  obtain ⟨r, read, h⟩ := exists_of_bind_eq_ok h
  dsimp only at h
  split_ifs at h
  cases h
  exact Reader.readStatements_consistent _ none _ (r.value, r.rest) (congrArg Reading.plain read)

end DiagramScript
