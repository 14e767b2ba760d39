import DiagramScript.Proofs.TokenLayout

/-!
# Where tokens end

A token is as long as it can be, and what makes it end may be replaced by a space, by a line end or
by the end of the text: no number, word, string, block or mark goes on there.

* `Breaks` — a text that is over, or goes on with a space or a line end.
* `leadingWord_cut`, `literalLength_cut`, `numberPiece_cut`, … — the parts of a text `u ++ v` that
  lie in `u` are those of `u ++ w`, for every `w` that breaks.
* `stringBody_take`, `blockLength_take` — strings and blocks have ends of their own.
* `piece_cut` — a token of a text stands in the same way before a break, but for words that a dot or
  a colon keeps from being colours.
-/

namespace DiagramScript

variable {u v w : List Char}

/-- Whether a text is over, or goes on with a space or a line end. -/
def Breaks (w : List Char) : Prop := ∀ c ∈ w.head?, c = ' ' ∨ c = '\n'

namespace Breaks

theorem nil : Breaks [] := fun _ hc => nomatch hc

theorem space (w : List Char) : Breaks (' ' :: w) := fun _ hc => .inl (Option.some.inj hc).symm

theorem newline (w : List Char) : Breaks ('\n' :: w) := fun _ hc =>
  .inr (Option.some.inj hc).symm

/-- What holds neither of a space nor of a line end does not hold of the character that follows. -/
theorem stops {p : Char → Bool} (hp : p ' ' = false ∧ p '\n' = false) (hd : Breaks w) :
    ∀ c ∈ w.head?, p c = false := fun c hc => by
  rcases hd c hc with rfl | rfl
  · exact hp.1
  · exact hp.2

theorem head?_ne {c : Char} (hc : c ≠ ' ' ∧ c ≠ '\n') (hd : Breaks w) : w.head? ≠ some c :=
  fun h => (hd c h).elim hc.1 hc.2

end Breaks

/-! ## Words -/

theorem length_takeWhile_le (p : Char → Bool) (cs : List Char) :
    (cs.takeWhile p).length ≤ cs.length :=
  (List.takeWhile_prefix p).length_le

theorem takeWhile_cut {p : Char → Bool} (hd : ∀ c ∈ w.head?, p c = false)
    (h : ((u ++ v).takeWhile p).length ≤ u.length) :
    (u ++ w).takeWhile p = (u ++ v).takeWhile p := by
  induction u with
  | nil =>
    rw [List.length_eq_zero_iff.1 (Nat.le_zero.1 h), List.nil_append]
    cases w with
    | nil => rfl
    | cons d w => exact List.takeWhile_cons_of_neg (by simp [hd d rfl])
  | cons x u ih =>
    rw [List.cons_append, List.cons_append]
    by_cases hx : p x = true
    · rw [List.cons_append, List.takeWhile_cons_of_pos hx] at h
      rw [List.takeWhile_cons_of_pos hx, List.takeWhile_cons_of_pos hx,
        ih (Nat.le_of_succ_le_succ h)]
    · rw [List.takeWhile_cons_of_neg hx, List.takeWhile_cons_of_neg hx]

theorem length_leadingWord_le (cs : List Char) : (leadingWord cs).length ≤ cs.length := by
  cases cs with
  | nil => exact Nat.le_refl 0
  | cons c cs =>
    rw [leadingWord]
    split
    · exact Nat.succ_le_succ (length_takeWhile_le _ cs)
    · exact Nat.zero_le _

theorem leadingWord_breaks (hd : Breaks w) : leadingWord w = [] := by
  cases w with
  | nil => rfl
  | cons d w =>
    have stops := hd.stops (p := startsWord) (by decide) d rfl
    rw [leadingWord, if_neg (by simp [stops])]

theorem leadingWord_cut (hd : Breaks w) (h : (leadingWord (u ++ v)).length ≤ u.length) :
    leadingWord (u ++ w) = leadingWord (u ++ v) := by
  cases u with
  | nil =>
    rw [List.nil_append, List.nil_append, leadingWord_breaks hd]
    exact (List.length_eq_zero_iff.1 (Nat.le_zero.1 h)).symm
  | cons x u =>
    rw [List.cons_append, leadingWord] at h
    rw [List.cons_append, List.cons_append, leadingWord, leadingWord]
    split_ifs at h ⊢
    · rw [takeWhile_cut (hd.stops (by decide)) (Nat.le_of_succ_le_succ h)]
    · rfl

/-! ## Numbers -/

theorem takeWhile_isDigit_cut (hd : Breaks w)
    (h : ((u ++ v).takeWhile Char.isDigit).length ≤ u.length) :
    (u ++ w).takeWhile Char.isDigit = (u ++ v).takeWhile Char.isDigit :=
  takeWhile_cut (hd.stops (by decide)) h

/-- The length of an exponent after its letter; zero if there are no digits in it. -/
def signedLength : List Char → Nat
  | [] => 0
  | s :: cs =>
    if s = '+' ∨ s = '-' then
      if (cs.takeWhile Char.isDigit).isEmpty then 0 else 1 + (cs.takeWhile Char.isDigit).length
    else ((s :: cs).takeWhile Char.isDigit).length

theorem exponentLength_cons (e : Char) (cs : List Char) :
    exponentLength (e :: cs) =
      if (e = 'e' ∨ e = 'E') ∧ 0 < signedLength cs then 1 + signedLength cs else 0 := by
  unfold exponentLength signedLength
  cases cs with
  | nil => simp
  | cons s cs =>
    by_cases hs : s = '+' ∨ s = '-'
    · cases h : cs.takeWhile Char.isDigit with
      | nil => simp [hs, h]
      | cons d digits =>
        by_cases he : e = 'e' ∨ e = 'E'
        · simp only [hs, h, he, true_and, if_true, List.isEmpty_cons, Bool.false_eq_true, if_false,
            List.length_cons]
          rw [if_pos (by omega)]
          omega
        · simp [he]
    · cases h : (s :: cs).takeWhile Char.isDigit <;> simp_all

theorem signedLength_le (cs : List Char) : signedLength cs ≤ cs.length := by
  unfold signedLength
  split
  · exact Nat.le_refl 0
  · next s cs =>
    have := length_takeWhile_le Char.isDigit cs
    rw [List.length_cons]
    split_ifs
    · exact Nat.zero_le _
    · omega
    · exact length_takeWhile_le Char.isDigit (s :: cs)

theorem signedLength_cut (hd : Breaks w) (h : signedLength (u ++ v) ≤ u.length) :
    signedLength (u ++ w) = signedLength (u ++ v) := by
  cases u with
  | nil =>
    rw [Nat.le_zero.1 h, List.nil_append]
    cases w with
    | nil => rfl
    | cons d w =>
      have sign := hd.stops (p := fun c => c = '+' || c = '-') (by decide) d rfl
      have digit := hd.stops (p := Char.isDigit) (by decide) d rfl
      rw [signedLength, if_neg (by simpa using sign), List.takeWhile_cons_of_neg (by simp [digit]),
        List.length_nil]
  | cons s u =>
    rw [List.cons_append, signedLength] at h
    rw [List.cons_append, List.cons_append, signedLength, signedLength]
    by_cases hs : s = '+' ∨ s = '-'
    · rw [if_pos hs] at h
      rw [if_pos hs, if_pos hs, takeWhile_isDigit_cut hd]
      split_ifs at h with none
      · rw [List.isEmpty_iff.1 none]
        exact Nat.zero_le _
      · rw [List.length_cons] at h
        omega
    · rw [if_neg hs] at h
      rw [if_neg hs, if_neg hs]
      exact congrArg List.length (takeWhile_isDigit_cut (u := s :: u) hd h)

theorem exponentLength_cut (hd : Breaks w) (h : exponentLength (u ++ v) ≤ u.length) :
    exponentLength (u ++ w) = exponentLength (u ++ v) := by
  cases u with
  | nil =>
    rw [Nat.le_zero.1 h, List.nil_append]
    cases w with
    | nil => rfl
    | cons d w =>
      have letter := hd.stops (p := fun c => c = 'e' || c = 'E') (by decide) d rfl
      exact (exponentLength_cons d w).trans (if_neg fun he => by simp_all)
  | cons e u =>
    rw [List.cons_append, exponentLength_cons] at h
    rw [List.cons_append, List.cons_append, exponentLength_cons, exponentLength_cons]
    by_cases he : e = 'e' ∨ e = 'E'
    · rw [signedLength_cut hd]
      by_cases hl : 0 < signedLength (u ++ v)
      · rw [if_pos ⟨he, hl⟩, List.length_cons] at h
        omega
      · omega
    · rw [if_neg (fun hh => he hh.1), if_neg (fun hh => he hh.1)]

theorem exponentLength_le (cs : List Char) : exponentLength cs ≤ cs.length := by
  cases cs with
  | nil => exact Nat.le_refl 0
  | cons e cs =>
    have := signedLength_le cs
    rw [exponentLength_cons, List.length_cons]
    split_ifs <;> omega

/-- The length of a point and the digits after it; zero if no point stands there. -/
def fractionLength : List Char → Nat
  | '.' :: cs => 1 + (cs.takeWhile Char.isDigit).length
  | _ => 0

theorem fractionLength_le (cs : List Char) : fractionLength cs ≤ cs.length := by
  unfold fractionLength
  split
  · rename_i cs
    have := length_takeWhile_le Char.isDigit cs
    rw [List.length_cons]
    omega
  · exact Nat.zero_le _

theorem fractionLength_of_ne {c : Char} (h : c ≠ '.') (cs : List Char) :
    fractionLength (c :: cs) = 0 :=
  fractionLength.eq_2 _ (by simp [h])

theorem fractionLength_cut (hd : Breaks w) (h : fractionLength (u ++ v) ≤ u.length) :
    fractionLength (u ++ w) = fractionLength (u ++ v) := by
  cases u with
  | nil =>
    rw [Nat.le_zero.1 h, List.nil_append]
    cases w with
    | nil => rfl
    | cons d w =>
      have point := hd.stops (p := (· = '.')) (by decide) d rfl
      exact fractionLength_of_ne (by simpa using point) w
  | cons c u =>
    by_cases hc : c = '.'
    · subst hc
      rw [List.cons_append, fractionLength, List.length_cons] at h
      rw [List.cons_append, List.cons_append, fractionLength, fractionLength,
        takeWhile_isDigit_cut (v := v) hd (by omega)]
    · rw [List.cons_append, List.cons_append, fractionLength_of_ne hc, fractionLength_of_ne hc]

/-- A decimal literal is digits, then perhaps a point and digits, then perhaps an exponent. -/
theorem decimalLength_eq (cs : List Char) :
    decimalLength cs = (cs.takeWhile Char.isDigit).length
      + fractionLength (cs.drop (cs.takeWhile Char.isDigit).length)
      + exponentLength ((cs.drop (cs.takeWhile Char.isDigit).length).drop
        (fractionLength (cs.drop (cs.takeWhile Char.isDigit).length))) := rfl

theorem decimalLength_le (cs : List Char) : decimalLength cs ≤ cs.length := by
  rw [decimalLength_eq]
  have whole := length_takeWhile_le Char.isDigit cs
  generalize (cs.takeWhile Char.isDigit).length = n at whole ⊢
  have fraction := fractionLength_le (cs.drop n)
  generalize fractionLength (cs.drop n) = m at fraction ⊢
  have exponent := exponentLength_le ((cs.drop n).drop m)
  rw [List.length_drop, List.length_drop] at exponent
  rw [List.length_drop] at fraction
  omega

theorem decimalLength_cut (hd : Breaks w) (h : decimalLength (u ++ v) ≤ u.length) :
    decimalLength (u ++ w) = decimalLength (u ++ v) := by
  rw [decimalLength_eq] at h
  have whole : ((u ++ v).takeWhile Char.isDigit).length ≤ u.length := by omega
  rw [decimalLength_eq, decimalLength_eq, takeWhile_isDigit_cut hd whole]
  generalize ((u ++ v).takeWhile Char.isDigit).length = n at h whole ⊢
  rw [List.drop_append_of_le_length whole] at h ⊢
  rw [List.drop_append_of_le_length whole]
  have fraction : fractionLength (u.drop n ++ v) ≤ (u.drop n).length := by
    rw [List.length_drop]
    omega
  rw [fractionLength_cut hd fraction]
  generalize fractionLength (u.drop n ++ v) = m at h fraction ⊢
  rw [List.drop_append_of_le_length fraction] at h ⊢
  rw [List.drop_append_of_le_length fraction, exponentLength_cut hd]
  rw [List.length_drop, List.length_drop]
  omega

/-- The length of a hexadecimal literal after its zero; zero if there are no digits in it. -/
def hexLength : List Char → Nat
  | x :: cs =>
    if (x = 'x' ∨ x = 'X') ∧ !(cs.takeWhile isHexDigit).isEmpty
    then 1 + (cs.takeWhile isHexDigit).length else 0
  | [] => 0

theorem hexLength_le (cs : List Char) : hexLength cs ≤ cs.length := by
  unfold hexLength
  split
  · next x cs =>
    have := length_takeWhile_le isHexDigit cs
    rw [List.length_cons]
    split_ifs <;> omega
  · exact Nat.zero_le _

theorem hexLength_cut (hd : Breaks w) (h : hexLength (u ++ v) ≤ u.length) :
    hexLength (u ++ w) = hexLength (u ++ v) := by
  cases u with
  | nil =>
    rw [Nat.le_zero.1 h, List.nil_append]
    cases w with
    | nil => rfl
    | cons d w =>
      have letter := hd.stops (p := fun c => c = 'x' || c = 'X') (by decide) d rfl
      exact if_neg fun hx => by simp_all
  | cons x u =>
    rw [List.cons_append, hexLength] at h
    rw [List.cons_append, List.cons_append, hexLength, hexLength]
    by_cases hx : x = 'x' ∨ x = 'X'
    · rw [takeWhile_cut (v := v) (hd.stops (by decide))]
      split_ifs at h with some
      · rw [List.length_cons] at h
        omega
      · have none : (u ++ v).takeWhile isHexDigit = [] := by simpa [hx] using some
        rw [none]
        exact Nat.zero_le _
    · rw [if_neg (fun hh => hx hh.1), if_neg (fun hh => hx hh.1)]

/-- After a zero there may be another kind of literal. -/
theorem literalLength_zero (cs : List Char) :
    literalLength ('0' :: cs) =
      if 0 < hexLength cs then 1 + hexLength cs else decimalLength ('0' :: cs) := by
  cases cs with
  | nil => rfl
  | cons x cs =>
    by_cases h : (x = 'x' ∨ x = 'X') ∧ !(cs.takeWhile isHexDigit).isEmpty
    · rw [hexLength, if_pos h, if_pos (by omega), literalLength, if_pos h]
      omega
    · rw [hexLength, if_neg h, if_neg (Nat.lt_irrefl 0), literalLength, if_neg h]

theorem literalLength_of_ne {c : Char} (h : c ≠ '0') (cs : List Char) :
    literalLength (c :: cs) = decimalLength (c :: cs) := by
  unfold literalLength
  split
  · next heq => exact absurd (List.cons.inj heq).1 h
  · rfl

theorem literalLength_le (cs : List Char) : literalLength cs ≤ cs.length := by
  have decimal := decimalLength_le cs
  cases cs with
  | nil => exact decimal
  | cons c cs =>
    by_cases h : c = '0'
    · subst h
      have := hexLength_le cs
      rw [literalLength_zero, List.length_cons] at *
      split_ifs <;> omega
    · rwa [literalLength_of_ne h]

theorem literalLength_cut (hd : Breaks w) (h : literalLength (u ++ v) ≤ u.length) :
    literalLength (u ++ w) = literalLength (u ++ v) := by
  cases u with
  | nil =>
    rw [Nat.le_zero.1 h, List.nil_append]
    cases w with
    | nil => rfl
    | cons d w =>
      have zero := hd.stops (p := (· = '0')) (by decide) d rfl
      rw [literalLength_of_ne (by simpa using zero)]
      exact decimalLength_cut (u := []) (v := []) hd (Nat.le_refl 0)
  | cons c u =>
    rw [List.cons_append] at h
    rw [List.cons_append, List.cons_append]
    by_cases hc : c = '0'
    · subst hc
      rw [literalLength_zero, List.length_cons] at h
      have short : hexLength (u ++ v) ≤ u.length := by split_ifs at h <;> omega
      rw [literalLength_zero, literalLength_zero, hexLength_cut hd short]
      split_ifs at h ⊢
      · rfl
      · exact decimalLength_cut (u := '0' :: u) hd h
    · rw [literalLength_of_ne hc] at h
      rw [literalLength_of_ne hc, literalLength_of_ne hc]
      exact decimalLength_cut (u := c :: u) hd h

/-! ### Number tokens -/

theorem more_numberToken (length : Nat) (text : List Char) (value : Decimal) (kind : TokenKind) :
    (numberToken length text value kind).more = length - 1 :=
  iteInduction (motive := fun p : Piece => p.more = length - 1) (fun _ => rfl) fun _ => rfl

theorem more_ordinalPiece (numeral text : List Char) :
    (ordinalPiece numeral text).more = text.length - 1 :=
  iteInduction (motive := fun p : Piece => p.more = text.length - 1) (fun _ => rfl) fun _ => rfl

/-- The length of what follows the literal of a number immediately. -/
def endingLength (rest : List Char) : Nat :=
  if rest.head? = some '%' then 1 else (leadingWord rest).length

theorem endingLength_le (rest : List Char) : endingLength rest ≤ rest.length := by
  unfold endingLength
  split_ifs with h
  · obtain ⟨tail, rfl⟩ := List.head?_eq_some_iff.1 h
    exact Nat.succ_le_succ (Nat.zero_le _)
  · exact length_leadingWord_le rest

/-- A number token is its literal and what follows that immediately. -/
theorem more_numberPiece (cs : List Char) :
    (numberPiece cs).more =
      literalLength cs + endingLength (cs.drop (literalLength cs)) - 1 := by
  have literal : (cs.take (literalLength cs)).length = literalLength cs :=
    List.length_take_of_le (literalLength_le cs)
  unfold numberPiece endingLength
  generalize literalLength cs = n at literal
  dsimp only
  split
  · next rest hrest => rw [more_numberToken, hrest, List.head?_cons, if_pos rfl, literal]
  · next hrest =>
    have other : (cs.drop n).head? ≠ some '%' := fun h => by
      obtain ⟨tail, htail⟩ := List.head?_eq_some_iff.1 h
      exact hrest tail htail
    rw [if_neg other]
    split_ifs
    · rw [more_numberToken, literal]
    · rw [more_ordinalPiece, List.length_append, literal]
    · split
      · rw [more_numberToken, literal]
      · rw [Piece.mistake, literal]

theorem more_numberPiece_le (c : Char) (cs : List Char) :
    (numberPiece (c :: cs)).more ≤ cs.length := by
  have literal := literalLength_le (c :: cs)
  have ending := endingLength_le ((c :: cs).drop (literalLength (c :: cs)))
  rw [List.length_drop] at ending
  rw [List.length_cons] at literal ending
  rw [more_numberPiece]
  omega

/-- A number token depends on its literal and on what follows that immediately. -/
theorem numberPiece_congr {cs cs' : List Char} (literal : literalLength cs = literalLength cs')
    (text : cs.take (literalLength cs') = cs'.take (literalLength cs'))
    (percent : (cs.drop (literalLength cs')).head? = some '%' ↔
      (cs'.drop (literalLength cs')).head? = some '%')
    (word : leadingWord (cs.drop (literalLength cs')) =
      leadingWord (cs'.drop (literalLength cs'))) :
    numberPiece cs = numberPiece cs' := by
  unfold numberPiece
  rw [literal, text]
  dsimp only
  rw [word]
  generalize cs.drop (literalLength cs') = rest at percent ⊢
  generalize cs'.drop (literalLength cs') = rest' at percent ⊢
  have starts : ∀ zs : List Char, zs.head? = some '%' ↔ ∃ tail, zs = '%' :: tail :=
    fun zs => List.head?_eq_some_iff
  rw [starts rest, starts rest'] at percent
  by_cases h : ∃ tail, rest' = '%' :: tail
  · obtain ⟨tail', rfl⟩ := percent.2 h
    obtain ⟨tail, rfl⟩ := h
    rfl
  · split
    · exact absurd (percent.1 ⟨_, rfl⟩) h
    · symm
      split
      · exact absurd ⟨_, rfl⟩ h
      · rfl

theorem head?_percent_cut (hd : Breaks w) (h : endingLength (u ++ v) ≤ u.length) :
    (u ++ w).head? = some '%' ↔ (u ++ v).head? = some '%' := by
  cases u with
  | nil =>
    refine iff_of_false (hd.head?_ne (by decide)) fun hp => ?_
    rw [endingLength, if_pos hp] at h
    exact Nat.not_succ_le_zero 0 h
  | cons c u => exact Iff.rfl

theorem leadingWord_ending_cut (hd : Breaks w) (h : endingLength (u ++ v) ≤ u.length) :
    leadingWord (u ++ w) = leadingWord (u ++ v) := by
  unfold endingLength at h
  split_ifs at h with hp
  · have none : ∀ {zs : List Char}, zs.head? = some '%' → leadingWord zs = [] := fun hz => by
      obtain ⟨tail, rfl⟩ := List.head?_eq_some_iff.1 hz
      rfl
    obtain ⟨x, u, rfl⟩ := List.exists_cons_of_length_pos h
    rw [none hp]
    exact none hp
  · exact leadingWord_cut hd h

theorem numberPiece_cut (hd : Breaks w) (h : (numberPiece (u ++ v)).more < u.length) :
    numberPiece (u ++ w) = numberPiece (u ++ v) := by
  rw [more_numberPiece] at h
  have literal : literalLength (u ++ v) ≤ u.length := by omega
  refine numberPiece_congr (literalLength_cut hd literal) ?_ ?_ ?_
  · rw [List.take_append_of_le_length literal, List.take_append_of_le_length literal]
  all_goals
    generalize literalLength (u ++ v) = n at h literal ⊢
    rw [List.drop_append_of_le_length literal] at h ⊢
    rw [List.drop_append_of_le_length literal]
    have ending : endingLength (u.drop n ++ v) ≤ (u.drop n).length := by
      rw [List.length_drop]
      omega
  · exact head?_percent_cut hd ending
  · exact leadingWord_ending_cut hd ending

/-! ## Strings and blocks -/

/-- A length that is counted from behind is the same, and within the text, if the length of what is
behind is. -/
theorem map_add_append {r r' : Option Nat} {k l n : Nat} (h : r.map (· + k) = some n)
    (ih : ∀ {m}, r = some m → r' = some m ∧ m ≤ l) : r'.map (· + k) = some n ∧ n ≤ l + k := by
  obtain ⟨m, hm, rfl⟩ := Option.map_eq_some_iff.1 h
  obtain ⟨hm', hle⟩ := ih hm
  exact ⟨by rw [hm']; rfl, Nat.add_le_add_right hle k⟩

/-- What does not begin a text that goes on does not begin the text with more after it. -/
theorem append_ne_cons {cs : List Char} (hne : cs ≠ []) (w : List Char) {c : Char}
    (h : ∀ rest, cs ≠ c :: rest) : ∀ rest, cs ++ w ≠ c :: rest := by
  obtain ⟨d, tail, rfl⟩ := List.exists_cons_of_ne_nil hne
  intro rest hrest
  rw [List.cons_append, List.cons.injEq] at hrest
  exact h tail (by rw [hrest.1])

theorem stringBody_append {cs : List Char} (h : (stringBody cs).closed = true) (w : List Char) :
    stringBody (cs ++ w) = stringBody cs ∧ (stringBody cs).length ≤ cs.length := by
  induction cs using stringBody.induct with
  | case1 => simp [stringBody] at h
  | case2 cs => simp [stringBody] at h
  | case3 cs => exact ⟨rfl, by simp [stringBody]⟩
  | case4 cs ih =>
    rw [stringBody] at h
    obtain ⟨he, hle⟩ := ih h
    rw [List.cons_append, List.cons_append, stringBody, stringBody, he]
    exact ⟨rfl, Nat.add_le_add_right hle 2⟩
  | case5 cs ih =>
    rw [stringBody] at h
    obtain ⟨he, hle⟩ := ih h
    rw [List.cons_append, List.cons_append, stringBody, stringBody, he]
    exact ⟨rfl, Nat.add_le_add_right hle 2⟩
  | case6 c cs h₁ h₂ h₃ h₄ ih =>
    rw [stringBody.eq_6 _ _ h₁ h₂ h₃ h₄] at h ⊢
    obtain ⟨he, hle⟩ := ih h
    have hne : cs ≠ [] := by
      rintro rfl
      simp [stringBody, StringBody.push] at h
    rw [List.cons_append, stringBody.eq_6 _ _ h₁ h₂
      (fun rest hc => append_ne_cons hne w (fun rest => h₃ rest hc) rest)
      (fun rest hc => append_ne_cons hne w (fun rest => h₄ rest hc) rest), he]
    exact ⟨rfl, Nat.succ_le_succ hle⟩

theorem blockLength_append {quoted : Bool} {depth : Nat} {cs : List Char} {n : Nat}
    (h : blockLength quoted depth cs = some n) (w : List Char) :
    blockLength quoted depth (cs ++ w) = some n ∧ n ≤ cs.length := by
  induction quoted, depth, cs using blockLength.induct generalizing n with
  | case1 => simp [blockLength] at h
  | case2 depth cs ih =>
    rw [blockLength] at h
    rw [List.cons_append, List.cons_append, blockLength]
    exact map_add_append h ih
  | case3 depth cs ih =>
    rw [blockLength] at h
    rw [List.cons_append, List.cons_append, blockLength]
    exact map_add_append h ih
  | case4 depth c cs h₁ h₂ ih =>
    rw [blockLength.eq_4 _ _ _ h₁ h₂] at h
    have hne : cs ≠ [] := by
      rintro rfl
      simp [blockLength] at h
    rw [List.cons_append, blockLength.eq_4 _ _ _
      (fun rest hc => append_ne_cons hne w (fun rest => h₁ rest hc) rest)
      (fun rest hc => append_ne_cons hne w (fun rest => h₂ rest hc) rest)]
    exact map_add_append h ih
  | case5 depth cs ih =>
    rw [blockLength, if_pos rfl] at h
    rw [List.cons_append, blockLength, if_pos rfl]
    exact map_add_append h ih
  | case6 depth cs hq ih =>
    rw [blockLength, if_neg hq, if_pos rfl] at h
    rw [List.cons_append, blockLength, if_neg hq, if_pos rfl]
    exact map_add_append h ih
  | case7 depth cs hd hq ho =>
    rw [blockLength, if_neg hq, if_neg ho, if_pos rfl, if_pos hd] at h
    rw [List.cons_append, blockLength, if_neg hq, if_neg ho, if_pos rfl, if_pos hd]
    obtain rfl := Option.some.inj h
    exact ⟨rfl, by simp⟩
  | case8 depth cs hd hq ho ih =>
    rw [blockLength, if_neg hq, if_neg ho, if_pos rfl, if_neg hd] at h
    rw [List.cons_append, blockLength, if_neg hq, if_neg ho, if_pos rfl, if_neg hd]
    exact map_add_append h ih
  | case9 depth c cs hq ho hc ih =>
    rw [blockLength, if_neg hq, if_neg ho, if_neg hc] at h
    rw [List.cons_append, blockLength, if_neg hq, if_neg ho, if_neg hc]
    exact map_add_append h ih

theorem take_ne_cons {cs : List Char} {c : Char} (h : ∀ rest, cs ≠ c :: rest) (n : Nat) :
    ∀ rest, cs.take n ≠ c :: rest := by
  intro rest hrest
  refine h (rest ++ cs.drop n) ?_
  rw [← List.cons_append, ← hrest, List.take_append_drop]

/-- What lies behind the closing quote of a string does not matter. -/
theorem stringBody_take {cs : List Char} (h : (stringBody cs).closed = true) :
    stringBody (cs.take (stringBody cs).length) = stringBody cs := by
  induction cs using stringBody.induct with
  | case1 => rfl
  | case2 cs => cases h
  | case3 cs => rfl
  | case4 cs ih => exact congrArg (StringBody.push · 2 '"' false) (ih h)
  | case5 cs ih => exact congrArg (StringBody.push · 2 '\\' false) (ih h)
  | case6 c cs h₁ h₂ h₃ h₄ ih =>
    rw [stringBody.eq_6 _ _ h₁ h₂ h₃ h₄] at h ⊢
    change stringBody (c :: cs.take (stringBody cs).length) = _
    rw [stringBody.eq_6 _ _ h₁ h₂ (fun rest hc => take_ne_cons (fun rest => h₃ rest hc) _ rest)
      (fun rest hc => take_ne_cons (fun rest => h₄ rest hc) _ rest), ih h]

/-- What lies behind the closing brace of a block does not matter. -/
theorem blockLength_take {quoted : Bool} {depth : Nat} {cs : List Char} {n : Nat}
    (h : blockLength quoted depth cs = some n) : blockLength quoted depth (cs.take n) = some n := by
  induction quoted, depth, cs using blockLength.induct generalizing n with
  | case1 => cases h
  | case2 depth cs ih =>
    rw [blockLength] at h
    obtain ⟨m, hm, rfl⟩ := Option.map_eq_some_iff.1 h
    exact congrArg (Option.map (· + 2)) (ih hm)
  | case3 depth cs ih =>
    rw [blockLength] at h
    obtain ⟨m, hm, rfl⟩ := Option.map_eq_some_iff.1 h
    exact congrArg (Option.map (· + 2)) (ih hm)
  | case4 depth c cs h₁ h₂ ih =>
    rw [blockLength.eq_4 _ _ _ h₁ h₂] at h
    obtain ⟨m, hm, rfl⟩ := Option.map_eq_some_iff.1 h
    rw [List.take_succ_cons, blockLength.eq_4 _ _ _
      (fun rest hc => take_ne_cons (fun rest => h₁ rest hc) m rest)
      (fun rest hc => take_ne_cons (fun rest => h₂ rest hc) m rest), ih hm]
    rfl
  | case5 depth cs ih =>
    rw [blockLength, if_pos rfl] at h
    obtain ⟨m, hm, rfl⟩ := Option.map_eq_some_iff.1 h
    rw [List.take_succ_cons, blockLength, if_pos rfl, ih hm]
    rfl
  | case6 depth cs hq ih =>
    rw [blockLength, if_neg hq, if_pos rfl] at h
    obtain ⟨m, hm, rfl⟩ := Option.map_eq_some_iff.1 h
    rw [List.take_succ_cons, blockLength, if_neg hq, if_pos rfl, ih hm]
    rfl
  | case7 depth cs hd hq ho =>
    rw [blockLength, if_neg hq, if_neg ho, if_pos rfl, if_pos hd] at h
    obtain rfl := Option.some.inj h
    rw [List.take_succ_cons, blockLength, if_neg hq, if_neg ho, if_pos rfl, if_pos hd]
  | case8 depth cs hd hq ho ih =>
    rw [blockLength, if_neg hq, if_neg ho, if_pos rfl, if_neg hd] at h
    obtain ⟨m, hm, rfl⟩ := Option.map_eq_some_iff.1 h
    rw [List.take_succ_cons, blockLength, if_neg hq, if_neg ho, if_pos rfl, if_neg hd, ih hm]
    rfl
  | case9 depth c cs hq ho hc ih =>
    rw [blockLength, if_neg hq, if_neg ho, if_neg hc] at h
    obtain ⟨m, hm, rfl⟩ := Option.map_eq_some_iff.1 h
    rw [List.take_succ_cons, blockLength, if_neg hq, if_neg ho, if_neg hc, ih hm]
    rfl

/-! ## Marks -/

theorem isPrefixOf_cut {mark : List Char} (hm : ' ' ∉ mark ∧ '\n' ∉ mark) (hd : Breaks w)
    (h : mark.isPrefixOf (u ++ w) = true) : mark.isPrefixOf u = true := by
  induction mark generalizing u with
  | nil => exact List.isPrefixOf_nil_left
  | cons m mark ih =>
    simp only [List.mem_cons, not_or] at hm
    cases u with
    | nil =>
      cases w with
      | nil => cases h
      | cons d w =>
        rw [List.nil_append, List.isPrefixOf_cons_cons, Bool.and_eq_true, beq_iff_eq] at h
        rcases hd d rfl with rfl | rfl
        · exact absurd h.1.symm hm.1.1
        · exact absurd h.1.symm hm.2.1
    | cons x u =>
      rw [List.cons_append, List.isPrefixOf_cons_cons, Bool.and_eq_true] at h
      rw [List.isPrefixOf_cons_cons, Bool.and_eq_true]
      exact ⟨h.1, ih ⟨hm.1.2, hm.2.2⟩ h.2⟩

theorem find?_eq_some_of_imp {α : Type} {p q : α → Bool} {l : List α} {a : α}
    (h : l.find? p = some a) (hq : q a = true) (imp : ∀ b ∈ l, q b = true → p b = true) :
    l.find? q = some a := by
  induction l with
  | nil => cases h
  | cons b l ih =>
    rw [List.forall_mem_cons] at imp
    by_cases hb : p b = true
    · rw [List.find?_cons_of_pos hb] at h
      obtain rfl := Option.some.inj h
      exact List.find?_cons_of_pos hq
    · rw [List.find?_cons_of_neg hb] at h
      rw [List.find?_cons_of_neg (mt imp.1 hb), ih h imp.2]

/-- No mark goes on with a space or a line end. -/
theorem operatorPiece_cut {c : Char} (hd : Breaks w)
    (he : (operatorPiece c (u ++ v)).errors = [])
    (h : (operatorPiece c (u ++ v)).more ≤ u.length) :
    operatorPiece c (u ++ w) = operatorPiece c (u ++ v) := by
  have marks : ∀ o ∈ operators, ' ' ∉ o.1 ∧ '\n' ∉ o.1 := by decide
  have whole : ∀ {o : List Char} {zs : List Char}, o.isPrefixOf (c :: u) = true →
      o.isPrefixOf (c :: (u ++ zs)) = true := fun ho => by
    rw [List.isPrefixOf_iff_prefix] at ho ⊢
    exact ho.trans (List.prefix_append _ _)
  unfold operatorPiece at he h ⊢
  cases hf : operators.find? fun o => o.1.isPrefixOf (c :: (u ++ v)) with
  | none =>
    rw [hf] at he
    cases he
  | some o =>
    rw [hf] at h
    have starts : o.1.isPrefixOf (c :: u) = true := by
      have long := List.find?_some hf
      rw [List.isPrefixOf_iff_prefix] at long ⊢
      refine List.prefix_of_prefix_length_le long (List.prefix_append (c :: u) v) ?_
      rw [List.length_cons]
      exact Nat.le_add_of_sub_le h
    have found : operators.find? (fun o => o.1.isPrefixOf (c :: (u ++ w))) = some o :=
      find?_eq_some_of_imp hf (whole starts) fun o' ho' hp =>
        whole (isPrefixOf_cut (u := c :: u) (marks o' ho') hd hp)
    rw [found]

/-! ## Words that are colours -/

/-- A word in small letters that is kept from being a colour by a dot or a colon, and is one where
none follows. -/
structure Recolored (colors : ColorTable) (text : String) (next : Option Char)
    (kind kind' : TokenKind) : Prop where
  /-- It is a word before the dot or colon. -/
  word : kind = .word
  /-- It is a colour elsewhere. -/
  color : kind' = .color (lowercase text)
  /-- It is the name of a colour. -/
  known : colors.knows text = true
  /-- It has no capital first letter. -/
  small : (text.toList.head?.map Char.isUpper).getD false = false
  /-- A dot or a colon follows. -/
  follows : next = some '.' ∨ next = some ':'

/-- The kind of a word, given what follows it. -/
def wordKind (colors : ColorTable) (chars : List Char) (following : Option Char) : TokenKind :=
  if String.ofList chars = "first" then .nth 1
  else if isKeyword (String.ofList chars) then .word
  else if (chars.head?.map Char.isUpper).getD false then .label
  else if colors.knows (String.ofList chars) && following ≠ some ':' && following ≠ some '.' then
    .color (lowercase (String.ofList chars))
  else .word

theorem wordPiece_eq (colors : ColorTable) (cs : List Char) :
    wordPiece colors cs = .token ((leadingWord cs).length - 1)
      (wordKind colors (leadingWord cs) (cs.drop (leadingWord cs).length).head?) := rfl

theorem wordKind_cut (colors : ColorTable) (chars : List Char) {next next' : Option Char}
    (h : next' ≠ some '.' ∧ next' ≠ some ':') :
    wordKind colors chars next' = wordKind colors chars next ∨
      Recolored colors (String.ofList chars) next (wordKind colors chars next)
        (wordKind colors chars next') := by
  unfold wordKind
  split_ifs with h₁ h₂ h₃ h₄ h₅
  · exact .inl rfl
  · exact .inl rfl
  · exact .inl rfl
  · exact .inl rfl
  · exact .inr ⟨rfl, rfl, by simp_all, by simpa using h₃,
      or_iff_not_imp_right.2 (by simp_all)⟩
  · simp_all
  · exact .inl rfl

/-! ## Pieces -/

/-- A token of some length without mistakes is another one too, but for its kind, which is one that
it comes back as. -/
def Piece.Recurs (n : Nat) (R : TokenKind → TokenKind → Prop) (p p' : Piece) : Prop :=
  ∀ kind, p.kind = some kind → p.errors = [] → p.more = n →
    ∃ kind', p' = { p with kind := some kind' } ∧ R kind kind'

namespace Piece

variable {n : Nat} {R : TokenKind → TokenKind → Prop} {p q p' q' : Piece}

theorem Recurs.of_eq (hR : ∀ kind, R kind kind) (h : p.errors = [] → p.more = n → p' = p) :
    p.Recurs n R p' := fun kind hk he hn =>
  ⟨kind, by rw [h he hn, ← hk], hR kind⟩

theorem Recurs.of_none (h : p.kind = none) : p.Recurs n R p' := fun kind hk => by
  rw [h] at hk
  cases hk

theorem Recurs.ite {c c' : Prop} [Decidable c] [Decidable c'] (back : c' → c)
    (there : c → p.kind ≠ none → p.more = n → c') (hp : c → p.Recurs n R p')
    (hq : ¬ c → q.Recurs n R q') :
    Piece.Recurs n R (if c then p else q) (if c' then p' else q') := by
  by_cases h : c
  · rw [if_pos h]
    intro kind hk he hn
    rw [if_pos (there h (by simp [hk]) hn)]
    exact hp h kind hk he hn
  · rw [if_neg h, if_neg (mt back h)]
    exact hq h

end Piece

theorem kind_continuation (cs : List Char) : (continuation cs).kind = none := by
  unfold continuation
  dsimp only
  split <;> rfl

theorem kind_blockComment (cs : List Char) : (blockComment cs).kind = none := by
  unfold blockComment
  split <;> rfl

theorem stringPiece_cut (he : (stringPiece (u ++ v)).errors = [])
    (h : (stringPiece (u ++ v)).more = u.length) (w : List Char) :
    stringPiece (u ++ w) = stringPiece (u ++ v) := by
  have closed : (stringBody (u ++ v)).closed = true := by
    by_contra hc
    simp [stringPiece, hc] at he
  have alone := stringBody_take closed
  rw [show (stringBody (u ++ v)).length = u.length from h, List.take_left] at alone
  rw [← alone] at closed
  rw [stringPiece, stringPiece, (stringBody_append closed w).1, alone]

theorem blockPiece_cut (he : (blockPiece (u ++ v)).errors = [])
    (h : (blockPiece (u ++ v)).more = u.length) (w : List Char) :
    blockPiece (u ++ w) = blockPiece (u ++ v) := by
  unfold blockPiece at he h ⊢
  cases hn : blockLength false 1 (u ++ v) with
  | none =>
    rw [hn] at he
    cases he
  | some n =>
    rw [hn] at h
    obtain rfl : n = u.length := h
    have alone := blockLength_take hn
    rw [List.take_left] at alone
    rw [(blockLength_append alone w).1]
    dsimp only
    rw [List.take_append_of_le_length (Nat.sub_le _ _),
      List.take_append_of_le_length (Nat.sub_le _ _)]

theorem dotPiece_cut (hd : Breaks w) (h : (dotPiece (u ++ v)).more = u.length) :
    dotPiece (u ++ w) = dotPiece (u ++ v) := by
  unfold dotPiece at h ⊢
  dsimp only at h ⊢
  cases ha : Anchor.ofWord? (String.ofList (leadingWord (u ++ v))) with
  | none =>
    rw [ha] at h
    obtain rfl : u = [] := List.length_eq_zero_iff.1 h.symm
    rw [List.nil_append, leadingWord_breaks hd]
    rfl
  | some a =>
    rw [ha] at h
    rw [leadingWord_cut hd (le_of_eq h), ha]

theorem wordPiece_cut (colors : ColorTable) (c : Char) (hc : startsWord c = true)
    (hd : Breaks w) : (wordPiece colors (c :: (u ++ v))).Recurs u.length
      (fun kind kind' =>
        kind' = kind ∨ Recolored colors (String.ofList (c :: u)) v.head? kind kind')
      (wordPiece colors (c :: (u ++ w))) := by
  rw [wordPiece_eq, wordPiece_eq]
  intro kind hk _ hn
  have length : (leadingWord (c :: u ++ v)).length = (c :: u).length := by
    rw [leadingWord, if_pos hc] at hn
    rw [List.cons_append, leadingWord, if_pos hc]
    exact congrArg (· + 1) hn
  -- the word is all that is taken
  have word : leadingWord (c :: u ++ v) = c :: u := by
    have start := (leadingWord_append_drop (c :: u ++ v)).1
    rw [length, List.drop_left] at start
    exact List.append_cancel_right start
  have again : leadingWord (c :: u ++ w) = c :: u :=
    (leadingWord_cut hd (le_of_eq length)).trans word
  rw [List.cons_append] at word again
  rw [word] at hk ⊢
  rw [again]
  obtain rfl : wordKind colors (c :: u) _ = kind := Option.some.inj hk
  refine ⟨_, rfl, ?_⟩
  rw [← List.cons_append, ← List.cons_append, List.drop_left, List.drop_left]
  exact wordKind_cut colors (c :: u) ⟨hd.head?_ne (by decide), hd.head?_ne (by decide)⟩

/-- A number that starts with a point has a digit after it. -/
theorem more_numberPiece_point {d : Char} (h : d.isDigit = true) (cs : List Char) :
    (numberPiece ('.' :: d :: cs)).more ≠ 0 := by
  have literal : 2 ≤ literalLength ('.' :: d :: cs) := by
    rw [literalLength_of_ne (by decide), decimalLength_eq, List.takeWhile_cons_of_neg (by decide),
      List.length_nil, List.drop_zero, fractionLength, List.takeWhile_cons_of_pos h,
      List.length_cons]
    omega
  rw [more_numberPiece]
  omega

theorem head?_cut {c : Char} (hc : c ≠ ' ' ∧ c ≠ '\n') (hd : Breaks w)
    (h : (u ++ w).head? = some c) : (u ++ v).head? = some c := by
  cases u with
  | nil => exact absurd h (hd.head?_ne hc)
  | cons x u => exact h

theorem head?_map_cut {p : Char → Bool} (hp : p ' ' = false ∧ p '\n' = false) (hd : Breaks w)
    (h : ((u ++ w).head?.map p).getD false = true) :
    ((u ++ v).head?.map p).getD false = true := by
  cases u with
  | nil =>
    cases w with
    | nil => cases h
    | cons d w => exact absurd (hd.stops hp d rfl) (by simpa using h)
  | cons x u => exact h

/-- A token stands in the same way before a break, but for words that a dot or a colon keeps from
being colours. -/
theorem piece_cut (colors : ColorTable) (c : Char) (hd : Breaks w) :
    (piece colors c (u ++ v)).Recurs u.length
      (fun kind kind' =>
        kind' = kind ∨ Recolored colors (String.ofList (c :: u)) v.head? kind kind')
      (piece colors c (u ++ w)) := by
  have same : ∀ kind : TokenKind, kind = kind ∨
      Recolored colors (String.ofList (c :: u)) v.head? kind kind := fun kind => .inl rfl
  have skipped : ∀ {p : Piece} {c' : Prop}, p.kind = none → p.kind ≠ none → p.more = u.length →
      c' := fun h h' => absurd h h'
  unfold piece
  refine .ite id (fun h _ _ => h) (fun _ => .of_none rfl) fun _ => ?_
  refine .ite id (fun h _ _ => h) (fun _ => .of_eq same fun _ _ => rfl) fun _ => ?_
  refine .ite id (fun h _ _ => h) (fun _ => .of_none (kind_continuation _)) fun _ => ?_
  refine .ite (fun h => h.imp id (And.imp id (head?_cut (by decide) hd))) (fun _ => skipped rfl)
    (fun _ => .of_none rfl) fun _ => ?_
  refine .ite (And.imp id (head?_cut (by decide) hd)) (fun _ => skipped (kind_blockComment _))
    (fun _ => .of_none (kind_blockComment _)) fun _ => ?_
  refine .ite id (fun h _ _ => h) (fun _ => .of_eq same fun he hn => stringPiece_cut he hn w)
    fun _ => ?_
  refine .ite id (fun h _ _ => h) (fun _ => .of_eq same fun he hn => blockPiece_cut he hn w)
    fun _ => ?_
  refine .ite (fun h => h.imp id (And.imp id (head?_map_cut (by decide) hd))) ?_
    (fun _ => .of_eq same fun _ hn => ?_) fun _ => ?_
  · rintro (h | ⟨rfl, h⟩) _ hn
    · exact .inl h
    · cases u with
      | nil =>
        cases v with
        | nil => cases h
        | cons d v => exact absurd hn (more_numberPiece_point (by simpa using h) v)
      | cons x u => exact .inr ⟨rfl, h⟩
  · exact numberPiece_cut (u := c :: u) hd (Nat.lt_succ_of_le (le_of_eq hn))
  refine .ite id (fun h _ _ => h) (fun _ => .of_eq same fun _ hn => dotPiece_cut hd hn)
    fun _ => ?_
  refine .ite (And.imp id (head?_map_cut (by decide) hd)) (fun h _ hn => ⟨h.1, ?_⟩)
    (fun _ => .of_eq same fun _ hn => ?_) fun _ => ?_
  · cases u with
    | nil =>
      cases v with
      | nil => cases h.2
      | cons d v =>
        have starts : startsWord d = true := by simpa using h.2
        rw [List.nil_append, leadingWord, if_pos starts] at hn
        cases hn
    | cons x u => exact h.2
  · rw [leadingWord_cut hd (le_of_eq hn)]
  refine .ite id (fun h _ _ => h) (fun hc => wordPiece_cut colors c hc hd) fun _ => ?_
  exact .of_eq same fun he hn => operatorPiece_cut hd he (le_of_eq hn)

end DiagramScript
