import DiagramScript.Proofs.Relocation
import DiagramScript.Proofs.TokenEnds

/-!
# Texts line by line

A text without mistakes may end with the script or with a line, and it is read in the same way:
no piece of it looks beyond the end of a line for what it is.

* `piece_stays` — a piece without mistakes stays the same when a line end and more follow the text.
* `scanFrom_append`, `faultFrom_append` — the tokens of such a text are followed by the end of a
  statement and the tokens of the rest.
* `scanFrom_down` — a text further down has the same tokens, further down.
-/

namespace DiagramScript

/-! ## Parts of pieces -/

theorem takeWhile_append_newline {p : Char → Bool} (hp : p '\n' = false) (cs ds : List Char) :
    (cs ++ '\n' :: ds).takeWhile p = cs.takeWhile p := by
  have stops : ∀ c ∈ ('\n' :: ds).head?, p c = false := fun c hc => Option.some.inj hc ▸ hp
  have cut := takeWhile_cut (u := cs) (v := []) stops
  rw [List.append_nil] at cut
  exact cut (length_takeWhile_le p cs)

theorem leadingWord_append_newline (cs ds : List Char) :
    leadingWord (cs ++ '\n' :: ds) = leadingWord cs := by
  have cut := leadingWord_cut (u := cs) (v := []) (.newline ds)
  rw [List.append_nil] at cut
  exact cut (length_leadingWord_le cs)

/-- A text starts with a character if it does so with a line end after it. -/
theorem head?_append_newline {c : Char} (hc : c ≠ '\n') (cs ds : List Char) :
    (cs ++ '\n' :: ds).head? = some c ↔ cs.head? = some c := by
  cases cs with
  | nil => simp [hc.symm]
  | cons d cs => exact Iff.rfl

theorem head?_map_append_newline {p : Char → Bool} (hp : p '\n' = false) (cs ds : List Char) :
    ((cs ++ '\n' :: ds).head?.map p).getD false = (cs.head?.map p).getD false := by
  cases cs with
  | nil => exact hp
  | cons d cs => rfl

/-! ### Comments, numbers and marks -/

theorem commentLength_append {cs : List Char} {n : Nat} (h : commentLength cs = some n)
    (ds : List Char) : commentLength (cs ++ ds) = some n ∧ n ≤ cs.length := by
  induction cs using commentLength.induct generalizing n with
  | case1 rest =>
    obtain rfl : 2 = n := by simpa [commentLength] using h
    exact ⟨rfl, by simp⟩
  | case2 c cs hc ih =>
    rw [commentLength.eq_2 _ _ hc] at h
    have hne : cs ≠ [] := by
      rintro rfl
      simp [commentLength] at h
    rw [List.cons_append, commentLength.eq_2 _ _ fun rest hstar =>
      append_ne_cons hne ds (fun rest => hc rest hstar) rest]
    exact map_add_append h ih
  | case3 => simp [commentLength] at h

theorem numberPiece_append_newline (c : Char) (cs ds : List Char) :
    numberPiece (c :: (cs ++ '\n' :: ds)) = numberPiece (c :: cs) := by
  have cut := numberPiece_cut (u := c :: cs) (v := []) (.newline ds)
  rw [List.append_nil] at cut
  exact cut (Nat.lt_succ_of_le (more_numberPiece_le c cs))

theorem wordPiece_append_newline (colors : ColorTable) (cs ds : List Char) :
    wordPiece colors (cs ++ '\n' :: ds) = wordPiece colors cs := by
  unfold wordPiece
  dsimp only
  rw [leadingWord_append_newline, List.drop_append_of_le_length (length_leadingWord_le cs)]
  have following : ∀ c : Char, c ≠ '\n' →
      ((cs.drop (leadingWord cs).length ++ '\n' :: ds).head? ≠ some c ↔
        (cs.drop (leadingWord cs).length).head? ≠ some c) := fun c hc =>
    not_congr (head?_append_newline hc _ _)
  simp only [following ':' (by decide), following '.' (by decide)]

theorem more_operatorPiece_le (c : Char) (cs : List Char) :
    (operatorPiece c cs).more ≤ cs.length := by
  unfold operatorPiece
  split
  · rename_i o ho
    have starts : o.1.isPrefixOf (c :: cs) = true := by simpa using List.find?_some ho
    have := (List.isPrefixOf_iff_prefix.1 starts).length_le
    rw [List.length_cons] at this
    dsimp only [Piece.token]
    omega
  · exact Nat.zero_le _

theorem operatorPiece_append_newline {c : Char} {cs : List Char}
    (he : (operatorPiece c cs).errors = []) (ds : List Char) :
    operatorPiece c (cs ++ '\n' :: ds) = operatorPiece c cs := by
  have cut := operatorPiece_cut (c := c) (u := cs) (v := []) (.newline ds)
  rw [List.append_nil] at cut
  exact cut he (more_operatorPiece_le c cs)

/-! ## Pieces -/

/-- Without mistakes, a piece of a text of `n` more characters lies in it, and is another piece
too. -/
def Piece.Stays (n : Nat) (p p' : Piece) : Prop := p.errors = [] → p' = p ∧ p.more ≤ n

namespace Piece

variable {n : Nat} {p q p' q' : Piece}

theorem Stays.of_eq (h : p' = p) (hn : p.more ≤ n) : p.Stays n p' := fun _ => ⟨h, hn⟩

theorem Stays.ite {c c' : Prop} [Decidable c] [Decidable c'] (hc : c' ↔ c) (hp : c → p.Stays n p')
    (hq : q.Stays n q') : Piece.Stays n (if c then p else q) (if c' then p' else q') := by
  by_cases h : c
  · rw [if_pos h, if_pos (hc.2 h)]
    exact hp h
  · rw [if_neg h, if_neg (mt hc.1 h)]
    exact hq

end Piece

theorem continuation_stays (cs ds : List Char) :
    (continuation cs).Stays cs.length (continuation (cs ++ '\n' :: ds)) := by
  unfold continuation
  dsimp only
  rw [takeWhile_append_newline (by decide),
    List.drop_append_of_le_length (length_takeWhile_le _ cs)]
  have within := length_takeWhile_le (fun c => c = ' ' || c = '\t' || c = '\r') cs
  generalize (cs.takeWhile fun c => c = ' ' || c = '\t' || c = '\r').length = n at within ⊢
  cases hr : cs.drop n with
  | nil => exact fun h => nomatch h
  | cons c rest =>
    have : (cs.drop n).length = rest.length + 1 := by rw [hr, List.length_cons]
    rw [List.length_drop] at this
    by_cases h : c = '\n'
    · subst h
      exact .of_eq rfl (show n + 1 ≤ cs.length by omega)
    · intro he
      simp [h, Piece.mistake] at he

theorem blockComment_stays {cs : List Char} (h : cs.head? = some '*') (ds : List Char) :
    (blockComment cs).Stays cs.length (blockComment (cs ++ ds)) := by
  obtain ⟨tail, rfl⟩ := List.head?_eq_some_iff.1 h
  unfold blockComment
  rw [List.cons_append, List.drop_one, List.drop_one, List.tail_cons, List.tail_cons]
  cases hn : commentLength tail with
  | none => exact fun he => nomatch he
  | some n =>
    obtain ⟨hn', hle⟩ := commentLength_append hn ds
    rw [hn']
    exact .of_eq rfl (Nat.succ_le_succ hle)

theorem stringPiece_stays (cs ds : List Char) :
    (stringPiece cs).Stays cs.length (stringPiece (cs ++ ds)) := by
  intro h
  have closed : (stringBody cs).closed = true := by
    by_contra hc
    simp [stringPiece, hc] at h
  obtain ⟨he, hle⟩ := stringBody_append closed ds
  exact ⟨by rw [stringPiece, stringPiece, he], hle⟩

theorem blockPiece_stays (cs ds : List Char) :
    (blockPiece cs).Stays cs.length (blockPiece (cs ++ ds)) := by
  unfold blockPiece
  cases hn : blockLength false 1 cs with
  | none => exact fun he => nomatch he
  | some n =>
    obtain ⟨hn', hle⟩ := blockLength_append hn ds
    rw [hn']
    refine .of_eq ?_ hle
    dsimp only
    rw [List.take_append_of_le_length (by omega)]

theorem dotPiece_stays (cs ds : List Char) :
    (dotPiece cs).Stays cs.length (dotPiece (cs ++ '\n' :: ds)) := by
  unfold dotPiece
  rw [leadingWord_append_newline]
  dsimp only
  split
  · exact .of_eq rfl (length_leadingWord_le cs)
  · exact .of_eq rfl (Nat.zero_le _)

/-- A piece without mistakes does not depend on what follows the end of the line. -/
theorem piece_stays (colors : ColorTable) (c : Char) (cs ds : List Char) :
    (piece colors c cs).Stays cs.length (piece colors c (cs ++ '\n' :: ds)) := by
  have slash := head?_append_newline (c := '/') (by decide) cs ds
  have star := head?_append_newline (c := '*') (by decide) cs ds
  have digit := head?_map_append_newline (p := Char.isDigit) (by decide) cs ds
  have letter := head?_map_append_newline (p := startsWord) (by decide) cs ds
  unfold piece
  refine .ite Iff.rfl (fun _ => .of_eq rfl (Nat.zero_le _)) ?_
  refine .ite Iff.rfl (fun _ => .of_eq rfl (Nat.zero_le _)) ?_
  refine .ite Iff.rfl (fun _ => continuation_stays cs ds) ?_
  refine .ite (by rw [slash]) (fun _ => .of_eq ?_ (length_takeWhile_le _ cs)) ?_
  · rw [lineComment, lineComment, takeWhile_append_newline (by decide)]
  refine .ite (by rw [star]) (fun h => blockComment_stays h.2 _) ?_
  refine .ite Iff.rfl (fun _ => stringPiece_stays cs _) ?_
  refine .ite Iff.rfl (fun _ => blockPiece_stays cs _) ?_
  refine .ite (by rw [digit]) (fun _ => .of_eq ?_ (more_numberPiece_le c cs)) ?_
  · exact numberPiece_append_newline c cs ds
  refine .ite Iff.rfl (fun _ => dotPiece_stays cs ds) ?_
  refine .ite (by rw [letter]) (fun _ => .of_eq ?_ (length_leadingWord_le cs)) ?_
  · rw [leadingWord_append_newline]
  refine .ite Iff.rfl (fun _ => .of_eq ?_ ?_) ?_
  · exact wordPiece_append_newline colors (c :: cs) ds
  · exact Nat.sub_le_of_le_add (length_leadingWord_le (c :: cs))
  exact fun he => ⟨operatorPiece_append_newline he ds, more_operatorPiece_le c cs⟩

/-! ## Tokens -/

theorem scanFrom_cons (colors : ColorTable) (p : SourcePos) (c : Char) (cs : List Char) :
    scanFrom colors p (c :: cs) =
      let here := piece colors c cs
      let taken := c :: cs.take here.more
      let rest := scanFrom colors (p.after taken) (cs.drop here.more)
      (here.kind.toList.map (fun k => ⟨k, String.ofList taken, p⟩) ++ rest.1,
        here.errors.map (fun e => ⟨.lex e.2, some (p.after (taken.take e.1))⟩) ++ rest.2) := by
  rw [scanFrom]

theorem piece_newline (colors : ColorTable) (cs : List Char) :
    piece colors '\n' cs = .token 0 .eol := rfl

/-- The tokens of a text without mistakes, up to its end; the tokens of the rest of a longer text
follow them, after the end of a statement. -/
theorem scanFrom_append (colors : ColorTable) (p : SourcePos) {cs : List Char}
    (h : (scanFrom colors p cs).2 = []) :
    ∃ body, (scanFrom colors p cs).1 = body ++ [⟨.eof, "", p.after cs⟩] ∧
      (∀ t ∈ body, t.kind ≠ .eof) ∧
      ∀ ds, scanFrom colors p (cs ++ '\n' :: ds) =
        (body ++ ⟨.eol, "\n", p.after cs⟩ :: (scanFrom colors (p.after (cs ++ ['\n'])) ds).1,
          (scanFrom colors (p.after (cs ++ ['\n'])) ds).2) := by
  induction hn : cs.length using Nat.strongRecOn generalizing p cs with
  | _ n ih =>
    cases cs with
    | nil =>
      refine ⟨[], by rw [scanFrom]; rfl, by simp, fun ds => ?_⟩
      rw [List.nil_append, scanFrom_cons, piece_newline]
      rfl
    | cons c cs =>
      rw [scanFrom_cons] at h
      obtain ⟨herrors, hrest⟩ := List.append_eq_nil_iff.1 h
      rw [List.map_eq_nil_iff] at herrors
      have stays := fun ds => piece_stays colors c cs ds herrors
      obtain ⟨-, hmore⟩ := stays []
      obtain ⟨body, hbody, hkind, happ⟩ := ih (cs.drop (piece colors c cs).more).length (by
        rw [List.length_cons] at hn
        rw [List.length_drop]
        omega) _ hrest rfl
      have walked : ∀ ds, (p.after (c :: cs.take (piece colors c cs).more)).after
          (cs.drop (piece colors c cs).more ++ ds) = p.after (c :: cs ++ ds) := fun ds => by
        rw [← SourcePos.after_append, List.cons_append, ← List.append_assoc, List.take_append_drop]
        rfl
      have ended := walked []
      rw [List.append_nil, List.append_nil] at ended
      rw [ended] at hbody happ
      refine ⟨(piece colors c cs).kind.toList.map (fun k =>
        ⟨k, String.ofList (c :: cs.take (piece colors c cs).more), p⟩) ++ body,
        ?_, fun t ht => ?_, fun ds => ?_⟩
      · rw [scanFrom_cons]
        dsimp only
        rw [hbody, ← List.append_assoc]
      · rcases List.mem_append.1 ht with ht | ht
        · obtain ⟨k, hk, rfl⟩ := List.mem_map.1 ht
          exact fun heq => piece_kind_ne_eof colors c cs (by rw [Option.mem_toList.1 hk, ← heq])
        · exact hkind t ht
      · rw [List.cons_append, scanFrom_cons, (stays ds).1]
        dsimp only
        rw [herrors, List.take_append_of_le_length hmore, List.drop_append_of_le_length hmore, happ,
          walked, List.append_assoc]
        rfl

theorem faultFrom_append (colors : ColorTable) (p : SourcePos) {cs : List Char}
    (h : (scanFrom colors p cs).2 = []) (hf : faultFrom colors cs = none) (ds : List Char) :
    faultFrom colors (cs ++ '\n' :: ds) = faultFrom colors ds := by
  induction hn : cs.length using Nat.strongRecOn generalizing p cs with
  | _ n ih =>
    cases cs with
    | nil =>
      rw [List.nil_append, faultFrom, piece_newline]
      exact if_neg (by simp [Piece.token])
    | cons c cs =>
      rw [scanFrom_cons] at h
      obtain ⟨herrors, hrest⟩ := List.append_eq_nil_iff.1 h
      rw [List.map_eq_nil_iff] at herrors
      obtain ⟨hsame, hmore⟩ := piece_stays colors c cs ds herrors
      rw [faultFrom] at hf
      split_ifs at hf with hd
      rw [List.cons_append, faultFrom, hsame, if_neg hd, List.drop_append_of_le_length hmore]
      refine ih (cs.drop (piece colors c cs).more).length ?_ _ hrest hf rfl
      rw [List.length_cons] at hn
      rw [List.length_drop]
      omega

/-! ## Texts further down -/

theorem SourcePos.after_down (lines : Nat) (p : SourcePos) (cs : List Char) :
    (p.down lines).after cs = (p.after cs).down lines := by
  induction cs generalizing p with
  | nil => rfl
  | cons c cs ih =>
    have step : (p.down lines).next c = (p.next c).down lines := by
      unfold SourcePos.next SourcePos.down
      split_ifs
      · exact congrArg (SourcePos.mk · 1) (Nat.add_right_comm ..)
      · rfl
    rw [after_cons, after_cons, step, ih]

/-- After a line end, a text goes on as at the start of a script, some lines down. -/
theorem SourcePos.after_newline (cs : List Char) :
    first.after (cs ++ ['\n']) = first.down (cs.count '\n' + 1) := by
  rw [after_append, after_cons, after_nil, next, if_pos rfl, after_line, down, Nat.add_assoc]
  rfl

/-- A text some lines down has the same tokens and mistakes, as many lines down. -/
theorem scanFrom_down (colors : ColorTable) (lines : Nat) (p : SourcePos) (cs : List Char) :
    scanFrom colors (p.down lines) cs =
      ((scanFrom colors p cs).1.map (Token.mapPos (SourcePos.down lines)),
        (scanFrom colors p cs).2.map (Diagnostic.mapPos (SourcePos.down lines))) := by
  induction hn : cs.length using Nat.strongRecOn generalizing p cs with
  | _ n ih =>
    cases cs with
    | nil =>
      rw [scanFrom, scanFrom]
      rfl
    | cons c cs =>
      rw [scanFrom_cons, scanFrom_cons]
      dsimp only
      rw [SourcePos.after_down, ih (cs.drop (piece colors c cs).more).length (by
        rw [List.length_cons] at hn
        rw [List.length_drop]
        omega) _ _ rfl, List.map_append, List.map_append, List.map_map, List.map_map]
      simp only [SourcePos.after_down]
      rfl

end DiagramScript
