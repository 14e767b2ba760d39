import DiagramScript.Proofs.ScanSteps
import DiagramScript.Proofs.TokenLayout
import DiagramScript.Proofs.TokenPlaces

/-!
# What is left after expansion

The expansion of a list of tokens is described a second time, as a relation: definitions are taken
out one by one, and uses are replaced by what they stand for, at most so many levels deep.  The
relation tells for every token that is left which definitions are known where it is reached, and
none of them is a definition of it.

* `Expands` — how tokens are expanded, and what is known at each token that comes out.
* `expandWith_eq_ok` — expansion succeeds just where the relation holds.
* `Failure.StopsExpansion` — the reasons for which expansion fails:
  `expandWith_settles_expands`.
* `expandTokens_complete` — expansion ends, and leaves neither definitions nor uses, except that the
  name of a colour may be defined and is never replaced: `expandTokens_color_stays`.
-/

namespace DiagramScript

variable {colors : ColorTable} {room : Nat} {defs after : Definitions}

/-! ## Expansion as a relation -/

/-- How some tokens are expanded with `room` levels of nesting left: what comes out, each token with
the definitions that are known where it is reached, and the definitions that are known at the
end. -/
inductive Expands (colors : ColorTable) :
    Nat → Definitions → List Token → List (Token × Definitions) → Definitions → Prop where
  /-- There is nothing left to expand. -/
  | nil (room : Nat) (defs : Definitions) : Expands colors room defs [] [] defs
  /-- A definition is taken out, and known from there on. -/
  | define {room : Nat} {defs after : Definitions} {t : Token} {ts : List Token}
    {d : String × String} {out : List (Token × Definitions)} (keyword : t.isWord "define" = true)
    (read : readDefinition t ts = .ok d)
    (rest : Expands colors room (d :: defs) (ts.drop 2) out after) :
    Expands colors room defs (t :: ts) out after
  /-- A token stays that uses none of the definitions that are known. -/
  | keep {room : Nat} {defs after : Definitions} {t : Token} {ts : List Token}
    {out : List (Token × Definitions)} (plain : t.isWord "define" = false)
    (unused : t.isUsable = true → defs.lookup t.text = none)
    (rest : Expands colors room defs ts out after) :
    Expands colors room defs (t :: ts) ((t, defs) :: out) after
  /-- A use is replaced by what it stands for, expanded one level deeper.  What is defined there is
  known from there on. -/
  | use {room : Nat} {defs between after : Definitions} {t : Token} {ts inside : List Token}
    {body : String} {args : List String × Nat} {out out' : List (Token × Definitions)}
    (plain : t.isWord "define" = false) (usable : t.isUsable = true)
    (known : defs.lookup t.text = some body) (arguments : useArguments ts = .ok args)
    (tokens : bodyTokens colors t body args.1 = .ok inside)
    (within : Expands colors room defs inside out between)
    (rest : Expands colors (room + 1) between (ts.drop args.2) out' after) :
    Expands colors (room + 1) defs (t :: ts) (out ++ out') after

namespace Expands

/-- No definition is left. -/
theorem isWord_define {ts : List Token} {out : List (Token × Definitions)}
    (h : Expands colors room defs ts out after) : ∀ s ∈ out, s.1.isWord "define" = false := by
  induction h with
  | nil => simp
  | define _ _ _ ih => exact ih
  | keep plain _ _ ih => exact List.forall_mem_cons.2 ⟨plain, ih⟩
  | use _ _ _ _ _ _ _ ih ih' => exact List.forall_mem_append.2 ⟨ih, ih'⟩

/-- No use is left of a definition that is known where it is reached. -/
theorem lookup_eq_none {ts : List Token} {out : List (Token × Definitions)}
    (h : Expands colors room defs ts out after) :
    ∀ s ∈ out, s.1.isUsable = true → s.2.lookup s.1.text = none := by
  induction h with
  | nil => simp
  | define _ _ _ ih => exact ih
  | keep _ unused _ ih => exact List.forall_mem_cons.2 ⟨unused, ih⟩
  | use _ _ _ _ _ _ _ ih ih' => exact List.forall_mem_append.2 ⟨ih, ih'⟩

/-- What the relation describes is what expansion does. -/
theorem expandWith_eq {ts : List Token} {out : List (Token × Definitions)}
    (h : Expands colors room defs ts out after) :
    expandWith colors room defs ts = .ok (out.map Prod.fst, after) := by
  induction h with
  | nil => rw [expandWith, List.map_nil]
  | define keyword read _ ih => rw [expandWith, if_pos keyword, read, liftMistake_ok, ok_bind, ih]
  | @keep room defs after t ts out plain unused _ ih =>
    have none : (if t.isUsable = true then defs.lookup t.text else none) = none :=
      ite_eq_right_iff.2 unused
    rw [expandWith, if_neg (by simp [plain]), none]
    dsimp only
    rw [ih, ok_bind, List.map_cons]
  | use plain usable known arguments tokens _ _ ih ih' =>
    rw [expandWith, if_neg (by simp [plain]), if_pos usable, known]
    dsimp only
    rw [arguments, liftMistake_ok, ok_bind, tokens, ok_bind, ih, ok_bind, ih', ok_bind,
      List.map_append]

end Expands

/-! ## Reasons to stop -/

/-- The reasons for which expansion fails. -/
inductive Failure.StopsExpansion : Failure → Prop where
  /-- What should be a definition is none. -/
  | definition {e : ParseError} (p : SourcePos)
    (h : e = .incompleteDefinition ∨ e = .definitionName ∨ e = .definitionBody) :
    StopsExpansion (.mistake ⟨.parse e, some p⟩)
  /-- Arguments do not end. -/
  | arguments (p : SourcePos) : StopsExpansion (.mistake ⟨.parse .unterminatedArguments, some p⟩)
  /-- Uses are nested too deeply. -/
  | depth (name : String) (p : SourcePos) :
    StopsExpansion (.mistake ⟨.parse (.expansionTooDeep name), some p⟩)
  /-- What a use stands for has a mistake in it. -/
  | body (name : String) (e : LexError) (p : SourcePos) :
    StopsExpansion (.mistake ⟨.lex (.inExpansion name e), some p⟩)
  /-- What a use stands for has an ordinal number of too many digits in it. -/
  | digits (n : Nat) : StopsExpansion (.fault (.tooManyDigits n))

theorem readDefinition_settles_stops (keyword : Token) (ts : List Token) :
    Settles Failure.StopsExpansion (fun d => readDefinition keyword ts = .ok d)
      (liftMistake (readDefinition keyword ts)) := by
  unfold readDefinition
  split
  · split_ifs
    · split
      · exact .of_ok rfl
      · exact .of_error (.definition _ (.inr (.inr rfl)))
    · exact .of_error (.definition _ (.inr (.inl rfl)))
  · exact .of_error (.definition _ (.inl rfl))

theorem useArguments_settles_stops (ts : List Token) :
    Settles Failure.StopsExpansion (fun args => useArguments ts = .ok args)
      (liftMistake (useArguments ts)) := by
  unfold useArguments
  split
  · exact .of_ok rfl
  · split_ifs
    · split
      · exact .of_ok rfl
      · exact .of_error (.arguments _)
    · exact .of_ok rfl

/-- Reading the tokens of a text fails for a mistake in it, or for an ordinal number of too many
digits. -/
theorem tokenize_error {colors : ColorTable} {source : String} {f : Failure}
    (h : tokenize colors source = .error f) :
    (∃ e p, f = .mistake ⟨.lex e, p⟩) ∨ ∃ n, f = .fault (.tooManyDigits n) := by
  have failed := h
  unfold tokenize scan at h
  cases hf : faultFrom colors source.toList with
  | some fault =>
    rw [hf] at h
    cases h
    obtain ⟨n, rfl⟩ := faultFrom_eq_tooManyDigits hf
    exact .inr ⟨n, rfl⟩
  | none =>
    rw [hf] at h
    dsimp only at h
    generalize scanFrom colors .first source.toList = r at h
    obtain ⟨ts, - | ⟨d, ds⟩⟩ := r
    · cases h
    · cases h
      obtain ⟨e, he⟩ := cause_of_tokenize_eq_error failed
      exact .inl ⟨e, d.place, by rw [← he]⟩

theorem bodyTokens_settles_stops (colors : ColorTable) (use : Token) (body : String)
    (args : List String) :
    Settles Failure.StopsExpansion (fun inside => bodyTokens colors use body args = .ok inside)
      (bodyTokens colors use body args) := by
  unfold bodyTokens
  split
  · exact .of_ok rfl
  · exact .of_error (.body _ _ _)
  · next f hf ht =>
    rcases tokenize_error ht with ⟨e, p, rfl⟩ | ⟨n, rfl⟩
    · exact absurd rfl (hf e p)
    · exact .of_error (.digits n)

/-! ## Expansion ends -/

/-- Expansion stops for one of the reasons, or goes the way that the relation describes. -/
theorem expandWith_settles_expands (colors : ColorTable) (room : Nat) (defs : Definitions)
    (ts : List Token) :
    Settles Failure.StopsExpansion
      (fun r => ∃ out, Expands colors room defs ts out r.2 ∧ out.map Prod.fst = r.1)
      (expandWith colors room defs ts) := by
  match ts with
  | [] =>
    rw [expandWith]
    exact .of_ok ⟨[], .nil room defs, rfl⟩
  | t :: ts =>
    rw [expandWith]
    by_cases keyword : t.isWord "define" = true
    · rw [if_pos keyword]
      refine (readDefinition_settles_stops t ts).bind fun d read => ?_
      refine (expandWith_settles_expands colors room (d :: defs) (ts.drop 2)).imp fun r hr => ?_
      obtain ⟨out, rest, hout⟩ := hr
      exact ⟨out, .define keyword read rest, hout⟩
    · rw [if_neg keyword]
      have plain : t.isWord "define" = false := Bool.eq_false_iff.2 keyword
      cases known : (if t.isUsable then defs.lookup t.text else none) with
      | none =>
        refine (expandWith_settles_expands colors room defs ts).bind fun r hr => .of_ok ?_
        obtain ⟨out, rest, hout⟩ := hr
        refine ⟨(t, defs) :: out, .keep plain (ite_eq_right_iff.1 known) rest, ?_⟩
        rw [List.map_cons, hout]
      | some body =>
        obtain ⟨usable, known⟩ : t.isUsable = true ∧ defs.lookup t.text = some body := by
          split_ifs at known with usable
          exact ⟨usable, known⟩
        refine (useArguments_settles_stops ts).bind fun args arguments => ?_
        cases hroom : room with
        | zero => exact .of_error (.depth _ _)
        | succ less =>
          refine (bodyTokens_settles_stops colors t body args.1).bind fun inside tokens => ?_
          refine (expandWith_settles_expands colors less defs inside).bind fun r hr => ?_
          refine (expandWith_settles_expands colors (less + 1) r.2 (ts.drop args.2)).bind
            fun s hs => .of_ok ?_
          obtain ⟨out, within, hout⟩ := hr
          obtain ⟨out', rest, hout'⟩ := hs
          refine ⟨out ++ out', .use plain usable known arguments tokens within rest, ?_⟩
          rw [List.map_append, hout, hout']
termination_by (room, ts.length)
decreasing_by
  · exact Prod.Lex.right _ (by simp only [List.length_cons, List.length_drop]; omega)
  · exact Prod.Lex.right _ (by simp only [List.length_cons]; omega)
  · exact Prod.Lex.left _ _ (by omega)
  · subst hroom
    exact Prod.Lex.right _ (by simp only [List.length_cons, List.length_drop]; omega)

/-- Expansion succeeds just where the relation says how. -/
theorem expandWith_eq_ok {ts ts' : List Token} :
    expandWith colors room defs ts = .ok (ts', after) ↔
      ∃ out, Expands colors room defs ts out after ∧ out.map Prod.fst = ts' := by
  constructor
  · exact (expandWith_settles_expands colors room defs ts).ok _
  · rintro ⟨out, h, rfl⟩
    exact h.expandWith_eq

theorem expandTokens_eq_ok {colors : ColorTable} {ts expanded : List Token} :
    expandTokens colors ts = .ok expanded ↔
      ∃ after, expandWith colors maxExpansionDepth [] ts = .ok (expanded, after) := by
  unfold expandTokens
  cases expandWith colors maxExpansionDepth [] ts with
  | error f => exact ⟨nofun, nofun⟩
  | ok r => exact ⟨fun h => ⟨r.2, by rw [← Except.ok.inj h]⟩, fun ⟨_, h⟩ => by rw [h]; rfl⟩

theorem Token.isUsable_or_color {t : Token} (h : t.isDefinable = true) :
    t.isUsable = true ∨ ∃ name, t.kind = .color name := by
  unfold isDefinable at h
  split at h <;> simp_all [isUsable]

/-- Expanding the tokens of a script ends, whatever its definitions say of each other and of
themselves.  It fails for one of the listed reasons, or what is left has no definition in it, is
left alone when it is expanded once more, and has no name in it of a definition that is known
there, unless that is the name of a colour. -/
theorem expandTokens_complete (colors : ColorTable) (ts : List Token) :
    (∃ f, expandTokens colors ts = .error f ∧ f.StopsExpansion) ∨
      ∃ steps after, expandTokens colors ts = .ok (steps.map Prod.fst) ∧
        Expands colors maxExpansionDepth [] ts steps after ∧
        (∀ s ∈ steps, s.1.isWord "define" = false) ∧
        (∀ s ∈ steps, s.1.isDefinable = true →
          s.2.lookup s.1.text = none ∨ ∃ name, s.1.kind = .color name) ∧
        expandTokens colors (steps.map Prod.fst) = .ok (steps.map Prod.fst) := by
  have settles := expandWith_settles_expands colors maxExpansionDepth [] ts
  cases h : expandWith colors maxExpansionDepth [] ts with
  | error f => exact .inl ⟨f, by rw [expandTokens, h]; rfl, settles.error f h⟩
  | ok r =>
    obtain ⟨steps, expands, hsteps⟩ := settles.ok r h
    have plain := expands.isWord_define
    refine .inr ⟨steps, r.2, by rw [expandTokens, h, hsteps]; rfl, expands, plain,
      fun s hs hd => (Token.isUsable_or_color hd).imp_left (expands.lookup_eq_none s hs),
      expandTokens_of_no_define colors ?_⟩
    exact List.forall_mem_map.2 plain

/-- The name of a colour may be defined, but is not replaced where it is used: `red` is left after
`define red` with the body `box`. -/
theorem expandTokens_color_stays :
    ∃ ts steps after, tokenize .standard "define red \x7bbox\x7d\nred" = .ok ts ∧
      expandTokens .standard ts = .ok (steps.map Prod.fst) ∧
      Expands .standard maxExpansionDepth [] ts steps after ∧
      ¬ ∀ s ∈ steps, s.1.isDefinable = true → s.2.lookup s.1.text = none := by
  let keyword : Token := ⟨.word, "define", ⟨1, 1⟩⟩
  let name : Token := ⟨.color "red", "red", ⟨1, 8⟩⟩
  let body : Token := ⟨.block "box", "\x7bbox\x7d", ⟨1, 12⟩⟩
  let use : Token := ⟨.color "red", "red", ⟨2, 1⟩⟩
  let line : Token := ⟨.eol, "\n", ⟨1, 17⟩⟩
  let last : Token := ⟨.eof, "", ⟨2, 4⟩⟩
  let known : Definitions := [("red", "box")]
  have rest : Expands .standard maxExpansionDepth known [line, use, last]
      [(line, known), (use, known), (last, known)] known := by
    refine .keep rfl (by decide) (.keep rfl (by decide) (.keep rfl (by decide) (.nil _ _)))
  have whole : Expands .standard maxExpansionDepth [] [keyword, name, body, line, use, last]
      [(line, known), (use, known), (last, known)] known := .define rfl rfl rest
  refine ⟨_, _, _, ?_, ?_, whole, fun h => ?_⟩
  · rw [tokenize_eq_steps]
    decide +kernel
  · rw [expandTokens, whole.expandWith_eq]
    rfl
  · exact absurd (h (use, known) (by simp) rfl) (by decide)

end DiagramScript
