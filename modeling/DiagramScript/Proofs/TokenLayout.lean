import DiagramScript.Token.Scan
import Mathlib.Data.List.Induction
import Mathlib.Data.List.TakeWhile

/-!
# Where tokens lie

The tokens of a script lie in it one after the other, each at an offset that its place tells, and
what lies between them is skipped for a reason.

* `Token.LiesAt` — a token has the text that stands at an offset, and its place is that of the
  offset.
* `TokenLayout` — tokens and their offsets, from the first to the end of the script.
* `Filler` — what may stand between tokens: a separator, a comment, or the end of a line that goes
  on in the next.
* `HasOverlongOrdinal` — the only reason why a script has no tokens at all: an ordinal number with
  too many digits.
* `scan_layout` — every other script has tokens, they are laid out in it, and if it has no mistakes
  all else is filler.
-/

namespace DiagramScript

/-! ## Kinds of pieces -/

/-- A piece is of one of twelve kinds, and its first characters say of which. -/
@[elab_as_elim]
theorem piece_cases {motive : Piece → Prop} (colors : ColorTable) (c : Char) (cs : List Char)
    (separator : isSeparator c = true → motive (.skip 0))
    (eol : c = '\n' ∨ c = ';' → motive (.token 0 .eol))
    (continued : c = '\\' → motive (continuation cs))
    (line : c = '#' ∨ (c = '/' ∧ cs.head? = some '/') → motive (lineComment cs))
    (comment : c = '/' ∧ cs.head? = some '*' → motive (blockComment cs))
    (str : c = '"' → motive (stringPiece cs))
    (block : c = '\x7b' → motive (blockPiece cs))
    (number : c.isDigit = true ∨ c = '.' → motive (numberPiece (c :: cs)))
    (dot : c = '.' → motive (dotPiece cs))
    (sigil : motive (.token (leadingWord cs).length .sigil))
    (word : startsWord c = true → motive (wordPiece colors (c :: cs)))
    (operator : motive (operatorPiece c cs)) : motive (piece colors c cs) := by
  refine iteInduction separator fun _ => iteInduction eol fun _ => ?_
  refine iteInduction continued fun _ => iteInduction line fun _ => ?_
  refine iteInduction comment fun _ => iteInduction str fun _ => ?_
  refine iteInduction block fun _ => iteInduction (fun h => number (h.imp id And.left)) fun _ => ?_
  exact iteInduction dot fun _ => iteInduction (fun _ => sigil) fun _ => iteInduction word fun _ =>
    operator

/-- A piece that leaves something behind: a token other than the end of the script, or a mistake. -/
def Piece.Leaves (p : Piece) : Prop := p.kind ≠ some .eof ∧ (p.kind = none → p.errors ≠ [])

theorem Piece.leaves_token {kind : TokenKind} (more : Nat) (h : kind ≠ .eof) :
    (Piece.token more kind).Leaves :=
  ⟨fun hk => h (Option.some.inj hk), fun hk => by simp [Piece.token] at hk⟩

theorem Piece.leaves_mistake (more : Nat) (e : LexError) : (Piece.mistake more e).Leaves :=
  ⟨by simp [Piece.mistake], fun _ => by simp [Piece.mistake]⟩

theorem leaves_numberToken (length : Nat) (text : List Char) (value : Decimal) {kind : TokenKind}
    (h : kind ≠ .eof) : (numberToken length text value kind).Leaves :=
  iteInduction (fun _ => Piece.leaves_token _ h) fun _ => Piece.leaves_mistake _ _

theorem leaves_ordinalPiece (numeral text : List Char) : (ordinalPiece numeral text).Leaves := by
  unfold ordinalPiece
  dsimp only
  split
  · exact ⟨by simp [Piece.mistake], fun _ => by simp [Piece.mistake]⟩
  · exact ⟨by simp [Piece.token], fun h => by simp [Piece.token] at h⟩

theorem leaves_numberPiece (cs : List Char) : (numberPiece cs).Leaves := by
  unfold numberPiece
  generalize literalLength cs = n
  dsimp only
  split
  · exact leaves_numberToken _ _ _ (by simp)
  · refine iteInduction (fun _ => leaves_numberToken _ _ _ (by simp)) fun _ => ?_
    refine iteInduction (fun _ => leaves_ordinalPiece _ _) fun _ => ?_
    split
    · exact leaves_numberToken _ _ _ (by simp)
    · exact Piece.leaves_mistake _ _

theorem leaves_stringPiece (cs : List Char) : (stringPiece cs).Leaves := by
  unfold stringPiece
  constructor
  · dsimp only
    split <;> simp
  · intro h
    dsimp only at h ⊢
    split at h
    · simp at h
    · rename_i open'
      simp [open']

theorem leaves_blockPiece (cs : List Char) : (blockPiece cs).Leaves := by
  unfold blockPiece
  split
  · exact Piece.leaves_token _ (by simp)
  · exact Piece.leaves_mistake _ _

theorem leaves_dotPiece (cs : List Char) : (dotPiece cs).Leaves := by
  unfold dotPiece
  dsimp only
  split <;> exact Piece.leaves_token _ (by simp)

theorem leaves_wordPiece (colors : ColorTable) (cs : List Char) : (wordPiece colors cs).Leaves := by
  refine Piece.leaves_token _ ?_
  split_ifs <;> simp

/-- No mark of punctuation stands for the end of the script. -/
theorem leaves_operatorPiece (c : Char) (cs : List Char) : (operatorPiece c cs).Leaves := by
  have marks : ∀ o ∈ operators, o.2 ≠ TokenKind.eof := by decide
  unfold operatorPiece
  split
  · rename_i o ho
    exact Piece.leaves_token _ (marks o (List.mem_of_find?_eq_some ho))
  · exact Piece.leaves_mistake _ _

/-! ## What is skipped -/

/-- What may stand between two tokens, with the text that follows it. -/
inductive Filler : List Char → List Char → Prop where
  /-- A space, a tab, a carriage return or a form feed. -/
  | separator {c : Char} {rest : List Char} (h : c = ' ' ∨ c = '\t' ∨ c = '\r' ∨ c = '\x0c') :
    Filler [c] rest
  /-- A comment to the end of the line. -/
  | lineComment {mark body rest : List Char} (starts : mark = ['#'] ∨ mark = ['/', '/'])
    (inside : '\n' ∉ body) (stops : ∀ c ∈ rest.head?, c = '\n') : Filler (mark ++ body) rest
  /-- A comment to the first end mark. -/
  | blockComment {body rest : List Char} (inside : ¬ ['*', '/'] <:+: body ++ ['*']) :
    Filler (['/', '*'] ++ body ++ ['*', '/']) rest
  /-- A backslash and the end of the line, with nothing but blanks between them. -/
  | continuation {blanks rest : List Char} (inside : ∀ c ∈ blanks, c = ' ' ∨ c = '\t' ∨ c = '\r') :
    Filler (['\\'] ++ blanks ++ ['\n']) rest

theorem take_length_takeWhile {α : Type} (p : α → Bool) (l : List α) :
    l.take (l.takeWhile p).length = l.takeWhile p :=
  List.prefix_iff_eq_take.1 (List.takeWhile_prefix p) |>.symm

theorem drop_length_takeWhile {α : Type} (p : α → Bool) (l : List α) :
    l.drop (l.takeWhile p).length = l.dropWhile p := by
  induction l with
  | nil => rfl
  | cons a l ih =>
    by_cases ha : p a = true
    · rw [List.takeWhile_cons_of_pos ha, List.dropWhile_cons_of_pos ha, List.length_cons,
        List.drop_succ_cons, ih]
    · rw [List.takeWhile_cons_of_neg ha, List.dropWhile_cons_of_neg ha, List.length_nil,
        List.drop_zero]

/-- What follows the longest part of a text that satisfies a test does not satisfy it. -/
theorem head?_dropWhile {α : Type} (p : α → Bool) (l : List α) :
    ∀ c ∈ (l.dropWhile p).head?, p c = false := by
  intro c hc
  have key := List.head?_dropWhile_not p l
  rw [Option.mem_def.1 hc] at key
  exact key

/-- A comment runs up to its first end mark. -/
theorem commentLength_eq_some {cs : List Char} {n : Nat} (h : commentLength cs = some n) :
    ∃ body, cs.take n = body ++ ['*', '/'] ∧ ¬ ['*', '/'] <:+: body ++ ['*'] := by
  induction cs using commentLength.induct generalizing n with
  | case1 rest =>
    obtain rfl : 2 = n := by simpa [commentLength] using h
    exact ⟨[], rfl, fun hi => by simpa using hi.length_le⟩
  | case2 c cs hc ih =>
    rw [commentLength] at h
    · obtain ⟨m, hm, rfl⟩ := Option.map_eq_some_iff.1 h
      obtain ⟨body, hbody, hno⟩ := ih hm
      refine ⟨c :: body, by rw [List.take_succ_cons, hbody]; rfl, ?_⟩
      rw [List.cons_append, List.infix_cons_iff]
      rintro (hp | hi)
      · -- an end mark at the very start would have been found at once
        obtain ⟨tail, htail⟩ := hp
        cases body with
        | nil => simp at htail
        | cons d body =>
          simp only [List.cons_append, List.cons.injEq] at htail
          obtain ⟨rfl, rfl, -⟩ := htail
          cases cs with
          | nil => simp at hbody
          | cons e cs =>
            cases m with
            | zero => simp at hbody
            | succ m =>
              simp only [List.take_succ_cons, List.cons_append, List.cons.injEq] at hbody
              exact hc cs rfl (by rw [hbody.1])
      · exact hno hi
    · exact hc
  | case3 => simp [commentLength] at h

theorem filler_continuation {cs : List Char} (he : (continuation cs).errors = []) :
    Filler ('\\' :: cs.take (continuation cs).more) (cs.drop (continuation cs).more) := by
  unfold continuation at he ⊢
  dsimp only at he ⊢
  split at he
  · rename_i rest hrest
    have whole : cs = (cs.takeWhile fun c => c = ' ' || c = '\t' || c = '\r') ++ '\n' :: rest := by
      rw [← hrest, drop_length_takeWhile, List.takeWhile_append_dropWhile]
    set blanks := cs.takeWhile fun c => c = ' ' || c = '\t' || c = '\r' with hblanks
    have inside : ∀ c ∈ blanks, c = ' ' ∨ c = '\t' ∨ c = '\r' := by
      intro c hc
      have := List.mem_takeWhile_imp (hblanks ▸ hc)
      simpa only [Bool.or_eq_true, decide_eq_true_eq, or_assoc] using this
    dsimp only [Piece.skip]
    have taken : cs.take (blanks.length + 1) = blanks ++ ['\n'] := by
      rw [whole, List.take_length_add_append]
      rfl
    have left : cs.drop (blanks.length + 1) = rest := by
      rw [whole, List.drop_length_add_append]
      rfl
    rw [taken, left]
    exact Filler.continuation inside
  · simp [Piece.mistake] at he

theorem filler_lineComment {c : Char} {cs : List Char}
    (h : c = '#' ∨ (c = '/' ∧ cs.head? = some '/')) :
    Filler (c :: cs.take (lineComment cs).more) (cs.drop (lineComment cs).more) := by
  dsimp only [lineComment, Piece.skip]
  rw [take_length_takeWhile, drop_length_takeWhile]
  have inside : ∀ {ds : List Char}, '\n' ∉ ds.takeWhile (· ≠ '\n') := fun hc => by
    simpa using List.mem_takeWhile_imp hc
  have stops : ∀ d ∈ (cs.dropWhile (· ≠ '\n')).head?, d = '\n' := fun d hd => by
    simpa using head?_dropWhile _ cs d hd
  rcases h with rfl | ⟨rfl, hcs⟩
  · exact @Filler.lineComment ['#'] _ _ (.inl rfl) inside stops
  · obtain ⟨tail, rfl⟩ := List.head?_eq_some_iff.1 hcs
    rw [List.takeWhile_cons_of_pos (by decide)]
    exact @Filler.lineComment ['/', '/'] _ _ (.inr rfl) inside stops

theorem filler_blockComment {cs : List Char} (hcs : cs.head? = some '*')
    (he : (blockComment cs).errors = []) :
    Filler ('/' :: cs.take (blockComment cs).more) (cs.drop (blockComment cs).more) := by
  obtain ⟨tail, rfl⟩ := List.head?_eq_some_iff.1 hcs
  unfold blockComment at he ⊢
  split at he
  · rename_i n hn
    obtain ⟨body, hbody, hno⟩ := commentLength_eq_some hn
    dsimp only [Piece.skip]
    rw [List.drop_succ_cons, List.drop_zero] at hbody
    rw [List.take_succ_cons, hbody]
    exact Filler.blockComment hno
  · simp [Piece.mistake] at he

/-- A piece that leaves neither a token nor a mistake is filler. -/
theorem filler_of_skipped (colors : ColorTable) (c : Char) (cs : List Char) :
    (piece colors c cs).kind = none → (piece colors c cs).errors = [] →
      Filler (c :: cs.take (piece colors c cs).more) (cs.drop (piece colors c cs).more) := by
  have reported : ∀ {p : Piece}, p.Leaves → p.kind = none → p.errors = [] →
      Filler (c :: cs.take p.more) (cs.drop p.more) := fun h hk he => absurd he (h.2 hk)
  refine piece_cases colors c cs ?_ ?_ ?_ ?_ ?_ ?_ ?_ ?_ ?_ ?_ ?_ ?_
  · intro h _ _
    exact Filler.separator (by simpa [isSeparator, or_assoc] using h)
  · exact fun _ => reported (Piece.leaves_token _ (by simp))
  · rintro rfl _ he
    exact filler_continuation he
  · exact fun h _ _ => filler_lineComment h
  · rintro ⟨rfl, hcs⟩ _ he
    exact filler_blockComment hcs he
  · exact fun _ => reported (leaves_stringPiece cs)
  · exact fun _ => reported (leaves_blockPiece cs)
  · exact fun _ => reported (leaves_numberPiece _)
  · exact fun _ => reported (leaves_dotPiece cs)
  · exact reported (Piece.leaves_token _ (by simp))
  · exact fun _ => reported (leaves_wordPiece colors _)
  · exact reported (leaves_operatorPiece c cs)

/-- Only the end of a script is a token that stands for it. -/
theorem piece_kind_ne_eof (colors : ColorTable) (c : Char) (cs : List Char) :
    (piece colors c cs).kind ≠ some .eof := by
  refine piece_cases colors c cs ?_ ?_ ?_ ?_ ?_ ?_ ?_ ?_ ?_ ?_ ?_ ?_
  · exact fun _ => by simp [Piece.skip]
  · exact fun _ => (Piece.leaves_token _ (by simp)).1
  · intro _
    unfold continuation
    dsimp only
    split <;> simp [Piece.skip, Piece.mistake]
  · exact fun _ => by simp [lineComment, Piece.skip]
  · intro _
    unfold blockComment
    split <;> simp [Piece.skip, Piece.mistake]
  · exact fun _ => (leaves_stringPiece cs).1
  · exact fun _ => (leaves_blockPiece cs).1
  · exact fun _ => (leaves_numberPiece _).1
  · exact fun _ => (leaves_dotPiece cs).1
  · exact (Piece.leaves_token _ (by simp)).1
  · exact fun _ => (leaves_wordPiece colors _).1
  · exact (leaves_operatorPiece c cs).1

/-! ## Places -/

namespace SourcePos

/-- The column of a place is the distance from the last end of a line before it, or from the start
of the script, counted from one. -/
theorem column_first_after (cs : List Char) :
    (first.after cs).column = 1 + (cs.reverse.takeWhile (· ≠ '\n')).length := by
  induction cs using List.reverseRecOn with
  | nil => rfl
  | append_singleton cs c ih =>
    rw [after_append, after_cons, after_nil, next, List.reverse_append, List.reverse_singleton,
      List.singleton_append]
    by_cases h : c = '\n'
    · rw [if_pos h, List.takeWhile_cons_of_neg (by simp [h])]
      rfl
    · rw [if_neg h, List.takeWhile_cons_of_pos (by simp [h]), List.length_cons, ih]
      exact Nat.add_assoc ..

end SourcePos

/-! ## Tokens at their offsets -/

/-- A token has the text that stands at an offset of a script, and the place of that offset. -/
structure Token.LiesAt (source : List Char) (t : Token) (offset : Nat) : Prop where
  /-- Its text stands there. -/
  text : t.text.toList = (source.drop offset).take t.text.length
  /-- Its line is one more than the number of line ends before it. -/
  line : t.pos.line = 1 + (source.take offset).count '\n'
  /-- Its column is one more than the distance from the last line end, or else from the start. -/
  column : t.pos.column = 1 + ((source.take offset).reverse.takeWhile (· ≠ '\n')).length

/-- Tokens with their offsets, as they lie in a script. -/
structure TokenLayout (source : List Char) (ts : List (Token × Nat)) : Prop where
  /-- Every token lies at its offset. -/
  lies : ∀ t ∈ ts, t.1.LiesAt source t.2
  /-- Later tokens have larger offsets and start after the end of the earlier ones. -/
  ordered : ts.Pairwise fun t u => t.2 < u.2 ∧ t.2 + t.1.text.length ≤ u.2
  /-- The last token, and no other, is the end of the script, and lies there. -/
  final : ∃ before last, ts = before ++ [(last, source.length)] ∧ last.kind = .eof
    ∧ ∀ t ∈ before, t.1.kind ≠ .eof

/-- From an offset on, whatever is not part of a token is part of some filler, which shares no
character with a token. -/
def Covered (source : List Char) (start : Nat) (ts : List (Token × Nat)) : Prop :=
  ∀ k, start ≤ k → k < source.length →
    (∃ t ∈ ts, t.2 ≤ k ∧ k < t.2 + t.1.text.length) ∨
    ∃ before text rest, source = before ++ text ++ rest ∧ Filler text rest ∧
      start ≤ before.length ∧ before.length ≤ k ∧ k < before.length + text.length ∧
      ∀ t ∈ ts, before.length + text.length ≤ t.2 ∨ t.2 + t.1.text.length ≤ before.length

theorem liesAt_of_text (before text rest : List Char) (kind : TokenKind) :
    Token.LiesAt (before ++ text ++ rest)
      ⟨kind, String.ofList text, SourcePos.first.after before⟩ before.length where
  text := by
    rw [String.toList_ofList, String.length_ofList, List.append_assoc, List.drop_left,
      List.take_left]
  line := by
    rw [List.append_assoc, List.take_left, SourcePos.after_line]
    rfl
  column := by rw [List.append_assoc, List.take_left, SourcePos.column_first_after]

/-- A token in front of the tokens of the rest. -/
theorem TokenLayout.cons {before text rest : List Char} {kind : TokenKind}
    {ts : List (Token × Nat)} (htext : text ≠ []) (hkind : kind ≠ .eof)
    (h : TokenLayout (before ++ text ++ rest) ts)
    (hts : ∀ t ∈ ts, (before ++ text).length ≤ t.2) :
    TokenLayout (before ++ text ++ rest)
      ((⟨kind, String.ofList text, SourcePos.first.after before⟩, before.length) :: ts) where
  lies := by
    intro t ht
    rcases List.mem_cons.1 ht with rfl | ht
    · exact liesAt_of_text before text rest kind
    · exact h.lies t ht
  ordered := by
    refine List.pairwise_cons.2 ⟨fun u hu => ?_, h.ordered⟩
    have hu := hts u hu
    have := List.length_pos_iff.2 htext
    rw [List.length_append] at hu
    rw [String.length_ofList]
    omega
  final := by
    obtain ⟨init, last, rfl, hlast, hinit⟩ := h.final
    refine ⟨_ :: init, last, rfl, hlast, fun t ht => ?_⟩
    rcases List.mem_cons.1 ht with rfl | ht
    · exact hkind
    · exact hinit t ht

/-- From the offset of a piece on everything is covered if the piece is a token or filler, and from
its end on everything is covered. -/
theorem Covered.extend {before text rest : List Char} {new ts : List (Token × Nat)}
    (hnew : (∃ t, new = [t] ∧ t.2 = before.length ∧ t.1.text.length = text.length)
      ∨ new = [] ∧ Filler text rest)
    (h : Covered (before ++ text ++ rest) (before ++ text).length ts)
    (hts : ∀ t ∈ ts, (before ++ text).length ≤ t.2) :
    Covered (before ++ text ++ rest) before.length (new ++ ts) := by
  intro k hk hlen
  by_cases hin : k < (before ++ text).length
  · rcases hnew with ⟨t, rfl, ho, hl⟩ | ⟨rfl, hf⟩
    · refine .inl ⟨t, List.mem_cons_self, by omega, ?_⟩
      rw [List.length_append] at hin
      omega
    · rw [List.length_append] at hin
      refine .inr ⟨before, text, rest, rfl, hf, le_rfl, hk, hin, fun t ht => .inl ?_⟩
      simpa using hts t ht
  · rcases h k (by omega) hlen with ⟨t, ht, hc⟩ | ⟨b, x, r, heq, hf, hb, hx, hxk, hdis⟩
    · exact .inl ⟨t, List.mem_append_right _ ht, hc⟩
    · rw [List.length_append] at hb
      refine .inr ⟨b, x, r, heq, hf, by omega, hx, hxk, fun t ht => ?_⟩
      rcases List.mem_append.1 ht with ht | ht
      · rcases hnew with ⟨u, rfl, ho, hl⟩ | ⟨rfl, -⟩
        · obtain rfl : t = u := by simpa using ht
          omega
        · simp at ht
      · exact hdis t ht

/-- The tokens of the rest of a script are laid out after what stands before it, and without
mistakes everything from there on is covered. -/
theorem scanFrom_layout (colors : ColorTable) (before rest : List Char) :
    ∃ ts, ts.map Prod.fst = (scanFrom colors (SourcePos.first.after before) rest).1 ∧
      TokenLayout (before ++ rest) ts ∧ (∀ t ∈ ts, before.length ≤ t.2) ∧
      ((scanFrom colors (SourcePos.first.after before) rest).2 = [] →
        Covered (before ++ rest) before.length ts) := by
  induction hn : rest.length using Nat.strongRecOn generalizing before rest with
  | _ n ih =>
    cases rest with
    | nil =>
      rw [scanFrom, List.append_nil]
      refine ⟨[(⟨.eof, "", SourcePos.first.after before⟩, before.length)], rfl, ?_, by simp, ?_⟩
      · refine ⟨fun t ht => ?_, by simp, ⟨[], _, rfl, rfl, by simp⟩⟩
        obtain rfl := List.mem_singleton.1 ht
        simpa using liesAt_of_text before [] [] .eof
      · intro _ k hk hlen
        omega
    | cons c cs =>
      rw [scanFrom]
      set here := piece colors c cs with hhere
      set taken := c :: cs.take here.more with htaken
      have whole : before ++ c :: cs = before ++ taken ++ cs.drop here.more := by
        rw [htaken, List.append_assoc, List.cons_append, List.take_append_drop]
      have hne : taken ≠ [] := List.cons_ne_nil _ _
      obtain ⟨ts, hmap, hlay, hoff, hcov⟩ := ih (cs.drop here.more).length (by
        rw [List.length_cons] at hn
        rw [List.length_drop]
        omega) (before ++ taken) (cs.drop here.more) rfl
      rw [SourcePos.after_append] at hmap hcov
      have weaker : ∀ t ∈ ts, before.length ≤ t.2 := fun t ht => by
        have := hoff t ht
        rw [List.length_append] at this
        omega
      rw [whole]
      dsimp only
      cases hk : here.kind with
      | none =>
        refine ⟨ts, by simpa using hmap, hlay, weaker, fun he => ?_⟩
        rw [List.append_eq_nil_iff, List.map_eq_nil_iff] at he
        exact Covered.extend (.inr ⟨rfl, filler_of_skipped colors c cs hk he.1⟩) (hcov he.2) hoff
      | some kind =>
        have hkind : kind ≠ .eof := fun h => piece_kind_ne_eof colors c cs (h ▸ hk)
        refine ⟨(⟨kind, String.ofList taken, SourcePos.first.after before⟩, before.length) :: ts,
          by simpa using hmap, hlay.cons hne hkind hoff, ?_, fun he => ?_⟩
        · intro t ht
          rcases List.mem_cons.1 ht with rfl | ht
          · exact le_rfl
          · exact weaker t ht
        · rw [List.append_eq_nil_iff] at he
          exact Covered.extend (.inl ⟨_, rfl, rfl, String.length_ofList⟩) (hcov he.2) hoff

/-! ## Ordinal numbers with too many digits -/

/-- The texts that are left where the pieces of a text begin. -/
inductive PieceStart (colors : ColorTable) : List Char → List Char → Prop where
  /-- The first piece begins at the start. -/
  | first (cs : List Char) : PieceStart colors cs cs
  /-- The next piece begins where a piece ends. -/
  | next {c : Char} {cs rest : List Char}
    (h : PieceStart colors (cs.drop (piece colors c cs).more) rest) :
    PieceStart colors (c :: cs) rest

/-- A text that starts with an ordinal number of more than `maxDigits` digits. -/
def StartsOverlong (cs : List Char) : Prop :=
  ∃ numeral ending rest, cs = numeral ++ ending ++ rest ∧ maxDigits < numeral.length ∧
    (∀ d ∈ numeral, d.isDigit = true) ∧ String.ofList ending ∈ ordinalEndings ∧
    ∀ c ∈ rest.head?, continuesWord c = false

/-- Whether a piece of the text is an ordinal number of more than `maxDigits` digits. -/
def HasOverlongOrdinal (colors : ColorTable) (cs : List Char) : Prop :=
  ∃ rest, PieceStart colors cs rest ∧ StartsOverlong rest

/-- A word ends where no character follows that could go on with it. -/
theorem leadingWord_append_drop (cs : List Char) :
    leadingWord cs ++ cs.drop (leadingWord cs).length = cs ∧
      (leadingWord cs ≠ [] →
        ∀ c ∈ (cs.drop (leadingWord cs).length).head?, continuesWord c = false) := by
  cases cs with
  | nil => exact ⟨rfl, fun h => absurd rfl h⟩
  | cons c cs =>
    rw [leadingWord]
    split
    · rw [List.length_cons, List.drop_succ_cons, drop_length_takeWhile, List.cons_append,
        List.takeWhile_append_dropWhile]
      exact ⟨rfl, fun _ => head?_dropWhile _ _⟩
    · exact ⟨rfl, fun h => absurd rfl h⟩

/-- Only an ordinal number has digits that are counted. -/
theorem startsOverlong_of_numberPiece {cs : List Char} (h : maxDigits < (numberPiece cs).digits) :
    StartsOverlong cs := by
  have none_numberToken : ∀ (length : Nat) (text : List Char) (value : Decimal) (kind : TokenKind),
      ¬ maxDigits < (numberToken length text value kind).digits := fun l t v k hd =>
    absurd (digits_numberToken_le l t v k 0) (by omega)
  unfold numberPiece at h
  generalize literalLength cs = n at h
  dsimp only at h
  split at h
  · exact (none_numberToken _ _ _ _ h).elim
  · split_ifs at h with h₁ h₂
    · exact (none_numberToken _ _ _ _ h).elim
    · obtain ⟨hsplit, hstop⟩ := leadingWord_append_drop (cs.drop n)
      simp only [Bool.and_eq_true, List.contains_eq_mem, decide_eq_true_eq, List.all_eq_true] at h₂
      refine ⟨cs.take n, leadingWord (cs.drop n), (cs.drop n).drop (leadingWord (cs.drop n)).length,
        ?_, h, h₂.2, h₂.1, hstop (by simpa using h₁)⟩
      rw [List.append_assoc, hsplit, List.take_append_drop]
    · split at h
      · exact (none_numberToken _ _ _ _ h).elim
      · simp [Piece.mistake] at h

theorem startsOverlong_of_digits {colors : ColorTable} {c : Char} {cs : List Char}
    (h : maxDigits < (piece colors c cs).digits) : StartsOverlong (c :: cs) := by
  revert h
  have zero : ∀ {p : Piece}, p.digits = 0 → maxDigits < p.digits → StartsOverlong (c :: cs) :=
    fun hp hd => by omega
  refine piece_cases colors c cs ?_ ?_ ?_ ?_ ?_ ?_ ?_ ?_ ?_ ?_ ?_ ?_
  · exact fun _ => zero rfl
  · exact fun _ => zero rfl
  · intro _
    unfold continuation
    dsimp only
    split <;> exact zero rfl
  · exact fun _ => zero rfl
  · intro _
    unfold blockComment
    split <;> exact zero rfl
  · exact fun _ => zero rfl
  · intro _
    unfold blockPiece
    split <;> exact zero rfl
  · exact fun _ => startsOverlong_of_numberPiece
  · intro _
    unfold dotPiece
    dsimp only
    split <;> exact zero rfl
  · exact zero rfl
  · exact fun _ => zero rfl
  · unfold operatorPiece
    split <;> exact zero rfl

/-- The ending of an ordinal number is a word of two letters, the first of which neither goes on
with a number nor begins an exponent. -/
theorem ordinalEnding_letters {ending : List Char} (h : String.ofList ending ∈ ordinalEndings) :
    ∃ a b, ending = [a, b] ∧ startsWord a = true ∧ continuesWord b = true ∧ a.isDigit = false ∧
      a ≠ '.' ∧ a ≠ 'e' ∧ a ≠ 'E' ∧ a ≠ 'x' ∧ a ≠ 'X' ∧ a ≠ '%' := by
  have letters : ∀ s ∈ ordinalEndings, ∃ a b, s.toList = [a, b] ∧ startsWord a = true ∧
      continuesWord b = true ∧ a.isDigit = false ∧
      a ≠ '.' ∧ a ≠ 'e' ∧ a ≠ 'E' ∧ a ≠ 'x' ∧ a ≠ 'X' ∧ a ≠ '%' := by
    intro s hs
    simp only [ordinalEndings, List.mem_cons, List.not_mem_nil, or_false] at hs
    rcases hs with rfl | rfl | rfl | rfl
    · exact ⟨'s', 't', rfl, by decide⟩
    · exact ⟨'n', 'd', rfl, by decide⟩
    · exact ⟨'r', 'd', rfl, by decide⟩
    · exact ⟨'t', 'h', rfl, by decide⟩
  simpa only [String.toList_ofList] using letters _ h

theorem takeWhile_append_stop {α : Type} {p : α → Bool} {xs : List α} {y : α} {ys : List α}
    (hxs : ∀ x ∈ xs, p x = true) (hy : p y = false) : (xs ++ y :: ys).takeWhile p = xs := by
  rw [List.takeWhile_append_of_pos hxs, List.takeWhile_cons_of_neg (by simp [hy]), List.append_nil]

/-- Digits before a letter that cannot go on with them are a literal. -/
theorem literalLength_digits {numeral : List Char} {a : Char} {rest : List Char}
    (hn : ∀ d ∈ numeral, d.isDigit = true) (ha : a.isDigit = false) (hdot : a ≠ '.')
    (he : a ≠ 'e') (hE : a ≠ 'E') (hx : a ≠ 'x') (hX : a ≠ 'X') :
    literalLength (numeral ++ a :: rest) = numeral.length := by
  have decimal : decimalLength (numeral ++ a :: rest) = numeral.length := by
    have exponent : exponentLength (a :: rest) = 0 := by
      unfold exponentLength
      exact if_neg (by simp [he, hE])
    unfold decimalLength
    rw [takeWhile_append_stop hn ha]
    dsimp only
    rw [List.drop_left]
    split
    · rename_i heq
      exact absurd (List.cons.inj heq).1 hdot
    · rw [List.drop_zero, exponent]
      rfl
  unfold literalLength
  split
  · rename_i x more heq
    refine (if_neg ?_).trans decimal
    rintro ⟨hx', -⟩
    -- the second character is a digit of the numeral, or the letter after it
    rcases numeral with - | ⟨d, - | ⟨e, numeral⟩⟩
    · obtain ⟨rfl, -⟩ := List.cons.inj heq
      simp at ha
    · obtain ⟨-, rfl, -⟩ := (List.cons.inj heq).imp id List.cons.inj
      exact hx'.elim hx hX
    · obtain ⟨-, rfl, -⟩ := (List.cons.inj heq).imp id List.cons.inj
      have hd := hn e (by simp)
      rcases hx' with rfl | rfl <;> simp at hd
  · exact decimal

/-- Digits and the ending of an ordinal number are one piece, and all digits are counted. -/
theorem digits_piece_of_overlong {colors : ColorTable} {c : Char} {cs : List Char}
    (h : StartsOverlong (c :: cs)) : maxDigits < (piece colors c cs).digits := by
  obtain ⟨numeral, ending, rest, heq, hlong, hn, hending, hstop⟩ := h
  obtain ⟨a, b, rfl, ha, hb, hdigit, hdot, he, hE, hx, hX, hp⟩ := ordinalEnding_letters hending
  have hc : c.isDigit = true := by
    cases numeral with
    | nil => simp at hlong
    | cons d numeral =>
      obtain ⟨rfl, -⟩ := List.cons.inj heq
      exact hn c (by simp)
  have isNumber : piece colors c cs = numberPiece (c :: cs) := by
    have other : ∀ d : Char, d.isDigit = false → c ≠ d := fun d hd h => by simp [← h, hc] at hd
    unfold piece
    rw [if_neg (by simp [isSeparator, other]), if_neg (by simp [other]), if_neg (other _ rfl),
      if_neg (by simp [other]), if_neg (by simp [other]), if_neg (other _ rfl),
      if_neg (other _ rfl), if_pos (.inl hc)]
  have split' : numeral ++ [a, b] ++ rest = numeral ++ a :: b :: rest := by simp
  have hlength : literalLength (numeral ++ a :: b :: rest) = numeral.length :=
    literalLength_digits hn hdigit hdot he hE hx hX
  have word : leadingWord (a :: b :: rest) = [a, b] := by
    have only : (b :: rest).takeWhile continuesWord = [b] := by
      rw [List.takeWhile_cons_of_pos hb]
      cases rest with
      | nil => rfl
      | cons r rest => rw [List.takeWhile_cons_of_neg (by simp [hstop r rfl])]
    rw [leadingWord, if_pos ha, only]
  rw [isNumber, heq, split', numberPiece, hlength, List.take_left, List.drop_left]
  dsimp only
  split
  · rename_i hh
    exact absurd (List.cons.inj hh).1 hp
  · rw [word, if_neg (by simp), if_pos (by
      simp only [Bool.and_eq_true, List.contains_eq_mem, decide_eq_true_eq, List.all_eq_true]
      exact ⟨hending, hn⟩)]
    exact hlong

/-- A text is refused if one of its pieces is an ordinal number with too many digits. -/
theorem faultFrom_eq_none_iff (colors : ColorTable) (cs : List Char) :
    faultFrom colors cs = none ↔ ¬ HasOverlongOrdinal colors cs := by
  induction hn : cs.length using Nat.strongRecOn generalizing cs with
  | _ n ih =>
    cases cs with
    | nil =>
      rw [faultFrom]
      refine iff_of_true rfl ?_
      rintro ⟨rest, hstart, numeral, ending, more, heq, hlong, -⟩
      cases hstart
      simp [List.append_eq_nil_iff.1 (List.append_eq_nil_iff.1 heq.symm).1] at hlong
    | cons c cs =>
      rw [faultFrom]
      split_ifs with h
      · refine iff_of_false (by simp) fun hno => hno ?_
        exact ⟨_, .first _, startsOverlong_of_digits h⟩
      · rw [ih (cs.drop (piece colors c cs).more).length (by
          rw [List.length_cons] at hn
          rw [List.length_drop]
          omega) _ rfl, not_iff_not]
        constructor
        · rintro ⟨rest, hstart, hlong⟩
          exact ⟨rest, .next hstart, hlong⟩
        · rintro ⟨rest, hstart, hlong⟩
          cases hstart with
          | first => exact absurd (digits_piece_of_overlong hlong) h
          | next hstart => exact ⟨rest, hstart, hlong⟩

theorem faultFrom_eq_tooManyDigits {colors : ColorTable} {cs : List Char} {f : Fault}
    (h : faultFrom colors cs = some f) : ∃ n, f = .tooManyDigits n := by
  induction cs using faultFrom.induct colors with
  | case1 => simp [faultFrom] at h
  | case2 c cs here hd =>
    rw [faultFrom, if_pos hd] at h
    exact ⟨_, (Option.some.inj h).symm⟩
  | case3 c cs here hd ih =>
    rw [faultFrom, if_neg hd] at h
    exact ih h

/-! ## The layout of a script -/

/-- Scanning fails only on a script with an ordinal number of too many digits.  Every other script
has tokens; each lies in the script at an offset that its line and column tell, later ones after
earlier ones, the last and no other is the end of the script, and if no mistake is reported all
characters outside the tokens belong to separators, comments and ends of lines that go on. -/
theorem scan_layout (colors : ColorTable) (source : String) :
    ((∃ n, scan colors source = .error (.tooManyDigits n)) ↔
      HasOverlongOrdinal colors source.toList) ∧
    (¬ HasOverlongOrdinal colors source.toList →
      ∃ ts es, scan colors source = .ok (ts.map Prod.fst, es) ∧ TokenLayout source.toList ts ∧
        (es = [] → Covered source.toList 0 ts)) := by
  unfold scan
  cases hf : faultFrom colors source.toList with
  | none =>
    have hno := (faultFrom_eq_none_iff colors source.toList).1 hf
    refine ⟨iff_of_false (by simp) hno, fun _ => ?_⟩
    obtain ⟨ts, hmap, hlay, -, hcov⟩ := scanFrom_layout colors [] source.toList
    exact ⟨ts, _, by rw [hmap]; rfl, hlay, hcov⟩
  | some f =>
    obtain ⟨n, rfl⟩ := faultFrom_eq_tooManyDigits hf
    have hyes : HasOverlongOrdinal colors source.toList := by
      by_contra hno
      rw [(faultFrom_eq_none_iff colors source.toList).2 hno] at hf
      simp at hf
    exact ⟨iff_of_true ⟨n, rfl⟩ hyes, fun hno => absurd hyes hno⟩

/-- Leading zeros count. -/
theorem hasOverlongOrdinal_of_zeros (colors : ColorTable) {n : Nat} (h : maxDigits ≤ n) :
    HasOverlongOrdinal colors (List.replicate n '0' ++ ['1', 's', 't']) := by
  refine ⟨_, .first _, List.replicate n '0' ++ ['1'], ['s', 't'], [], by simp, ?_, ?_, by decide,
    by simp⟩
  · rw [List.length_append, List.length_replicate, List.length_singleton]
    omega
  · intro d hd
    rcases List.mem_append.1 hd with hd | hd
    · rw [List.eq_of_mem_replicate hd]
      rfl
    · rw [List.mem_singleton.1 hd]
      rfl

/-- A text with an ordinal number of too many digits has no tokens. -/
theorem scan_ne_ok_of_overlong {colors : ColorTable} {cs : List Char}
    (h : HasOverlongOrdinal colors cs) (r : List Token × List Diagnostic) :
    scan colors (String.ofList cs) ≠ .ok r := by
  intro hr
  unfold scan at hr
  rw [String.toList_ofList] at hr
  cases hf : faultFrom colors cs with
  | none => exact (faultFrom_eq_none_iff _ _).1 hf h
  | some f =>
    rw [hf] at hr
    simp at hr

/-- A script that is one ordinal number, with leading zeros and one digit too many, has no
tokens. -/
theorem scan_overlong_ordinal :
    ¬ ∃ r, scan .standard (String.ofList (List.replicate maxDigits '0' ++ ['1', 's', 't']))
      = .ok r := by
  rintro ⟨r, hr⟩
  exact scan_ne_ok_of_overlong (hasOverlongOrdinal_of_zeros .standard (le_refl maxDigits)) r hr

end DiagramScript
