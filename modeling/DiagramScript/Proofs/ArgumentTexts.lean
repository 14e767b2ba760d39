import DiagramScript.Proofs.ExpandedText
import DiagramScript.Proofs.LineByLine
import DiagramScript.Proofs.ScanSteps

/-!
# Arguments as texts

The arguments of a use are tokens that are turned back into text, with spaces between them, and the
text is read again as part of what the use stands for.

* `PieceOf` — the tokens of a text, with what makes them tokens.
* `Survives` — how a token may come back: as it was, but for ends of statements, and for words that
  a dot or a colon kept from being colours.
* `PieceOf.scanFrom_append` — a token that is written before a space or an end is read again.
* `useArguments_runs` — arguments are texts of consecutive tokens.
* `scan_argumentText` — consecutive tokens of a text survive.
-/

namespace DiagramScript

variable {colors : ColorTable} {source : List Char}

/-! ## Tokens of a text -/

/-- A token, other than the end, that a piece without mistakes of a text is. -/
inductive PieceOf (colors : ColorTable) (source : List Char) : Token → Prop where
  /-- The piece stands after some text, and before some more. -/
  | intro {before u v : List Char} {c : Char} {kind : TokenKind}
    (whole : source = before ++ c :: (u ++ v))
    (isToken : (piece colors c (u ++ v)).kind = some kind)
    (errors : (piece colors c (u ++ v)).errors = [])
    (length : (piece colors c (u ++ v)).more = u.length)
    (digits : (piece colors c (u ++ v)).digits ≤ maxDigits) :
    PieceOf colors source ⟨kind, String.ofList (c :: u), SourcePos.first.after before⟩

/-- The tokens of a text without mistakes are pieces of it. -/
theorem pieceOf_of_mem_scanFrom (colors : ColorTable) (before rest : List Char)
    (h : (scanFrom colors (SourcePos.first.after before) rest).2 = [])
    (hf : faultFrom colors rest = none) {t : Token}
    (ht : t ∈ (scanFrom colors (SourcePos.first.after before) rest).1) (hend : t.kind ≠ .eof) :
    PieceOf colors (before ++ rest) t := by
  induction hn : rest.length using Nat.strongRecOn generalizing before rest with
  | _ n ih =>
    cases rest with
    | nil =>
      rw [scanFrom, List.mem_singleton] at ht
      subst ht
      exact absurd rfl hend
    | cons c cs =>
      rw [scanFrom_cons] at h ht
      obtain ⟨herrors, hrest⟩ := List.append_eq_nil_iff.1 h
      rw [List.map_eq_nil_iff] at herrors
      rw [faultFrom] at hf
      split_ifs at hf with hd
      have within := (piece_stays colors c cs [] herrors).2
      have whole : cs = cs.take (piece colors c cs).more ++ cs.drop (piece colors c cs).more :=
        (List.take_append_drop _ cs).symm
      rcases List.mem_append.1 ht with ht | ht
      · obtain ⟨kind, hk, rfl⟩ := List.mem_map.1 ht
        refine .intro (v := cs.drop (piece colors c cs).more) (by rw [← whole]) ?_ ?_ ?_ ?_
        all_goals rw [← whole]
        · exact Option.mem_toList.1 hk
        · exact herrors
        · exact (List.length_take_of_le within).symm
        · exact Nat.not_lt.1 hd
      · rw [← SourcePos.after_append] at hrest ht
        have later := ih (cs.drop (piece colors c cs).more).length (by
          rw [List.length_cons] at hn
          rw [List.length_drop]
          omega) _ _ hrest hf ht rfl
        rwa [List.append_assoc, List.cons_append, ← whole] at later

/-! ## Tokens that are read again -/

/-- How a token of a text may come back when it is written as part of an argument. -/
inductive Survives (colors : ColorTable) (source : List Char) (t t' : Token) : Prop where
  /-- It is what it was. -/
  | same (kind : t'.kind = t.kind) (text : t'.text = t.text)
  /-- It is the end of a statement, as it was, however that is written. -/
  | eol (kind : t.kind = .eol) (kind' : t'.kind = .eol)
  /-- It was a word in small letters immediately before a dot or a colon, and is the colour of that
  name. -/
  | color {before after : List Char} (kind : t.kind = .word)
    (kind' : t'.kind = .color (lowercase t.text)) (text : t'.text = t.text)
    (known : colors.knows t.text = true)
    (small : (t.text.toList.head?.map Char.isUpper).getD false = false)
    (stood : source = before ++ t.text.toList ++ after) (place : t.pos = .after .first before)
    (follows : after.head? = some '.' ∨ after.head? = some ':')

theorem scanFrom_space (colors : ColorTable) (p : SourcePos) (cs : List Char) :
    scanFrom colors p (' ' :: cs) = scanFrom colors (p.next ' ') cs := by
  rw [scanFrom_cons]
  rfl

theorem faultFrom_space (colors : ColorTable) (cs : List Char) :
    faultFrom colors (' ' :: cs) = faultFrom colors cs := by
  rw [faultFrom]
  rfl

/-- A piece that is a token and nothing else is the first token of a text. -/
theorem scanFrom_of_piece (colors : ColorTable) (p : SourcePos) {c : Char} {u w : List Char}
    {k : TokenKind} (isToken : (piece colors c (u ++ w)).kind = some k)
    (errors : (piece colors c (u ++ w)).errors = [])
    (length : (piece colors c (u ++ w)).more = u.length)
    (digits : (piece colors c (u ++ w)).digits ≤ maxDigits) :
    scanFrom colors p (c :: (u ++ w)) =
        (⟨k, String.ofList (c :: u), p⟩ :: (scanFrom colors (p.after (c :: u)) w).1,
          (scanFrom colors (p.after (c :: u)) w).2) ∧
      faultFrom colors (c :: (u ++ w)) = faultFrom colors w := by
  constructor
  · rw [scanFrom_cons]
    dsimp only
    rw [isToken, errors, length, List.take_left, List.drop_left]
    rfl
  · rw [faultFrom, if_neg (Nat.not_lt.2 digits), length, List.drop_left]

/-- A token that is written as part of an argument, before a space or an end, is read again. -/
theorem PieceOf.scanFrom_append {t : Token} (h : PieceOf colors source t) (p : SourcePos)
    {w : List Char} (hd : Breaks w) :
    ∃ t', Survives colors source t t' ∧
      scanFrom colors p ((argumentText t).toList ++ w) =
        (t' :: (scanFrom colors (p.after (argumentText t).toList) w).1,
          (scanFrom colors (p.after (argumentText t).toList) w).2) ∧
      faultFrom colors ((argumentText t).toList ++ w) = faultFrom colors w := by
  obtain ⟨whole, isToken, errors, length, digits⟩ := h
  rename_i before u v c kind
  by_cases eol : kind = .eol
  · have text : (argumentText ⟨kind, String.ofList (c :: u), .after .first before⟩).toList =
        [';'] := by rw [argumentText, if_pos eol]; rfl
    rw [text]
    have read := scanFrom_of_piece colors p (c := ';') (u := []) (w := w) rfl rfl rfl
      (Nat.zero_le _)
    exact ⟨_, .eol eol rfl, read⟩
  · have text : (argumentText ⟨kind, String.ofList (c :: u), .after .first before⟩).toList =
        c :: u := by rw [argumentText, if_neg eol]; exact String.toList_ofList
    rw [text]
    obtain ⟨kind', again, back⟩ := piece_cut colors c hd kind isToken errors length
    have read := scanFrom_of_piece colors p (c := c) (u := u) (w := w) (k := kind') (by rw [again])
      (by rw [again]; exact errors) (by rw [again]; exact length) (by rw [again]; exact digits)
    refine ⟨_, ?_, read⟩
    rcases back with rfl | recolored
    · exact .same rfl rfl
    · have stood : source = before ++ (String.ofList (c :: u)).toList ++ v := by
        rw [String.toList_ofList, whole, List.append_assoc]
        rfl
      exact .color recolored.word recolored.color rfl recolored.known recolored.small stood rfl
        recolored.follows

/-! ## Arguments -/

/-- The characters of some tokens as an argument. -/
def argumentChars (ts : List Token) : List Char :=
  [' '].intercalate (ts.map fun t => (argumentText t).toList)

theorem toList_argument (ts : List Token) :
    (" ".intercalate (ts.map argumentText)).toList = argumentChars ts := by
  rw [String.toList_intercalate, List.map_map]
  rfl

/-- The tokens after the first are read after a space, if there are any. -/
theorem argumentChars_cons (colors : ColorTable) (t : Token) (ts : List Token) :
    ∃ w, argumentChars (t :: ts) = (argumentText t).toList ++ w ∧ Breaks w ∧
      faultFrom colors w = faultFrom colors (argumentChars ts) ∧
      ∀ p, ∃ q, scanFrom colors p w = scanFrom colors q (argumentChars ts) := by
  cases ts with
  | nil =>
    refine ⟨[], ?_, .nil, rfl, fun p => ⟨p, rfl⟩⟩
    rw [List.append_nil]
    exact List.intercalate_singleton
  | cons u ts =>
    refine ⟨' ' :: argumentChars (u :: ts), ?_, .space _, faultFrom_space colors _,
      fun p => ⟨_, scanFrom_space colors p _⟩⟩
    rw [argumentChars, List.map_cons, List.map_cons, List.intercalate_cons_cons, List.append_assoc]
    rfl

/-- Tokens of a text that are written as an argument are read again. -/
theorem scanFrom_argumentChars {ts : List Token} (h : ∀ t ∈ ts, PieceOf colors source t)
    (p : SourcePos) :
    ∃ back last, scanFrom colors p (argumentChars ts) = (back ++ [last], []) ∧
      last.kind = .eof ∧ List.Forall₂ (Survives colors source) ts back ∧
      faultFrom colors (argumentChars ts) = none := by
  induction ts generalizing p with
  | nil =>
    refine ⟨[], ⟨.eof, "", p⟩, ?_, rfl, .nil, ?_⟩
    · rw [argumentChars, List.map_nil, List.intercalate_nil, scanFrom]
      rfl
    · rw [argumentChars, List.map_nil, List.intercalate_nil, faultFrom]
  | cons t ts ih =>
    rw [List.forall_mem_cons] at h
    obtain ⟨w, chars, breaks, fault, rest⟩ := argumentChars_cons colors t ts
    obtain ⟨t', survives, read, noFault⟩ := h.1.scanFrom_append p breaks
    obtain ⟨q, hq⟩ := rest (p.after (argumentText t).toList)
    obtain ⟨back, last, hback, hlast, hall, hfault⟩ := ih h.2 q
    refine ⟨t' :: back, last, ?_, hlast, .cons survives hall, ?_⟩
    · rw [chars, read, hq, hback]
      rfl
    · rw [chars, noFault, fault, hfault]

/-- A text is one of consecutive tokens, none of which ends the script. -/
def IsRunText (ts : List Token) (text : String) : Prop :=
  ∃ run, run <:+: ts ∧ NoEnd run ∧ text = " ".intercalate (run.map argumentText)

/-- The arguments that are collected, with some tokens of the first one already known, are texts of
consecutive tokens. -/
theorem collectArguments_runs {whole ts : List Token} (current : List Token)
    (hw : current ++ ts <:+: whole) (hend : NoEnd current) {depth : Nat} {r : List String × Nat}
    (h : collectArguments depth (current.map argumentText) ts = some r) :
    ∀ text ∈ r.1, IsRunText whole text := by
  induction ts generalizing current depth r with
  | nil => cases h
  | cons t ts ih =>
    have start : current <:+: whole := (List.prefix_append _ _).isInfix.trans hw
    have further : ∀ {n q}, t.kind ≠ .eof →
        (collectArguments n (current.map argumentText ++ [argumentText t]) ts).map
          (fun r => (r.1, r.2 + 1)) = some q → ∀ text ∈ q.1, IsRunText whole text := by
      intro n q ht hq
      obtain ⟨q', hq', rfl⟩ := Option.map_eq_some_iff.1 hq
      refine ih (current ++ [t]) ?_ ?_ (r := q') (by rw [List.map_append]; exact hq')
      · rwa [List.append_assoc]
      · exact List.forall_mem_append.2 ⟨hend, by simpa using ht⟩
    unfold collectArguments at h
    dsimp only at h
    split at h
    · cases h
    · next hk => exact further (by simp [hk]) h
    · next hk =>
      split_ifs at h
      · cases h
        exact List.forall_mem_singleton.2 ⟨current, start, hend, rfl⟩
      · exact further (by simp [hk]) h
    · next hk =>
      split_ifs at h
      · obtain ⟨q, hq, rfl⟩ := Option.map_eq_some_iff.1 h
        have later : ts <:+: whole := by
          refine List.IsInfix.trans ?_ hw
          exact ⟨current ++ [t], [], by simp⟩
        refine List.forall_mem_cons.2 ⟨⟨current, start, hend, rfl⟩, ?_⟩
        exact ih [] later (by simp [NoEnd]) hq
      · exact further (by simp [hk]) h
    · next hk _ _ _ => exact further hk h

/-- The arguments of a use are texts of consecutive tokens. -/
theorem useArguments_runs {ts : List Token} {r : List String × Nat} (h : useArguments ts = .ok r) :
    ∀ text ∈ r.1, IsRunText ts text := by
  cases ts with
  | nil =>
    cases h
    simp
  | cons t ts =>
    rw [useArguments] at h
    split_ifs at h
    · cases hc : collectArguments 1 [] ts with
      | none =>
        rw [hc] at h
        cases h
      | some q =>
        rw [hc] at h
        cases h
        exact collectArguments_runs [] (List.suffix_cons t ts).isInfix (by simp [NoEnd])
          (r := q) hc
    · cases h
      simp

/-- Consecutive tokens of a text without mistakes, with their texts written one after the other with
single spaces between them, and a semicolon for every end of a statement, are read again without
mistakes: each is what it was, but for the text of the end of a statement, and for words in small
letters that stood immediately before a dot or a colon, and are colours of that name now. -/
theorem scan_argumentText {colors : ColorTable} {source : String} {tokens run : List Token}
    (h : scan colors source = .ok (tokens, [])) (hrun : run <:+: tokens)
    (hend : ∀ t ∈ run, t.kind ≠ .eof) :
    ∃ back last, scan colors (" ".intercalate (run.map argumentText)) = .ok (back ++ [last], []) ∧
      last.kind = .eof ∧ List.Forall₂ (Survives colors source.toList) run back := by
  unfold scan at h ⊢
  cases hf : faultFrom colors source.toList with
  | some f =>
    rw [hf] at h
    cases h
  | none =>
    rw [hf] at h
    have scanned : scanFrom colors .first source.toList = (tokens, []) := Except.ok.inj h
    have pieces : ∀ t ∈ run, PieceOf colors source.toList t := fun t ht =>
      pieceOf_of_mem_scanFrom colors [] source.toList (congrArg Prod.snd scanned) hf
        (by rw [SourcePos.after_nil, scanned]; exact hrun.subset ht) (hend t ht)
    obtain ⟨back, last, hback, hlast, hall, hfault⟩ := scanFrom_argumentChars pieces .first
    rw [toList_argument, hfault]
    exact ⟨back, last, congrArg Except.ok hback, hlast, hall⟩

/-- In `red.n` and the end of a statement, the word is kept from being a colour by the dot. -/
theorem scan_argumentText_red :
    let run : List Token :=
      [⟨.word, "red", ⟨1, 1⟩⟩, ⟨.edge (.spot (.compass .n)), ".n", ⟨1, 4⟩⟩, ⟨.eol, "\n", ⟨1, 6⟩⟩]
    let tokens : List Token := run ++ [⟨.eof, "", ⟨2, 1⟩⟩]
    scan .standard "red.n\n" = .ok (tokens, []) ∧ run <:+: tokens ∧ (∀ t ∈ run, t.kind ≠ .eof) ∧
      ∃ back last, scan .standard (" ".intercalate (run.map argumentText)) =
          .ok (back ++ [last], []) ∧ last.kind = .eof ∧
        List.Forall₂ (Survives .standard "red.n\n".toList) run back := by
  intro run tokens
  have scanned : scan .standard "red.n\n" = .ok (tokens, []) := by
    rw [scan_eq_steps]
    decide +kernel
  have inside : run <:+: tokens := (List.prefix_append run _).isInfix
  have noEnd : ∀ t ∈ run, t.kind ≠ .eof := by decide
  exact ⟨scanned, inside, noEnd, scan_argumentText scanned inside noEnd⟩

end DiagramScript
