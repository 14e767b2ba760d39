import Mathlib
import DiagramScript.Number.Arith

/-!
# Numerals

A numeral has a sign, digits, and perhaps a point with more digits.  What it stands for is read off
its digits.

* `Numeral` — a numeral whose fraction does not end in a zero; `Numeral.text`, `Numeral.value`.
* `Numeral.ofInteger` — the digits of an integer are one.
* `Numeral.ofFixed` — so is fixed-point text without the zeros at its end.
-/

namespace DiagramScript

open Decimal (digitsValue hexDigit)

/-! ## Digits -/

theorem digitsValue_append_singleton (cs : List Char) (c : Char) :
    digitsValue 10 (cs ++ [c]) = 10 * digitsValue 10 cs + hexDigit c := by
  rw [digitsValue, List.foldl_append]
  rfl

theorem hexDigit_digitChar {n : Nat} (h : n < 10) : hexDigit n.digitChar = n := by
  revert h
  revert n
  decide

/-- The digits of a number spell it. -/
theorem digitsValue_digits (n : Nat) : digitsValue 10 (digits n) = n := by
  induction n using Nat.strong_induction_on with
  | _ n ih =>
    rw [digits, Nat.toDigits_eq_if (by decide)]
    split_ifs with h
    · rw [← List.nil_append [n.digitChar], digitsValue_append_singleton, hexDigit_digitChar h]
      exact Nat.zero_add n
    · rw [digitsValue_append_singleton, hexDigit_digitChar (Nat.mod_lt n (by decide))]
      have shorter := ih (n / 10) (by omega)
      rw [digits] at shorter
      rw [shorter]
      exact Nat.div_add_mod n 10

theorem isDigit_of_mem_digits {n : Nat} {c : Char} (h : c ∈ digits n) : c.isDigit = true :=
  Nat.isDigit_of_mem_toDigits (by decide) (by decide) h

theorem digits_ne_nil (n : Nat) : digits n ≠ [] := Nat.toDigits_ne_nil

/-- Zeros at the end are factors of ten. -/
theorem digitsValue_append_zeros (cs : List Char) (n : Nat) :
    digitsValue 10 (cs ++ List.replicate n '0') = digitsValue 10 cs * 10 ^ n := by
  induction n with
  | zero => simp
  | succ n ih =>
    rw [List.replicate_succ', ← List.append_assoc, digitsValue_append_singleton, ih, Nat.pow_succ]
    show 10 * _ + 0 = _
    ring

/-- Zeros at the beginning are nothing. -/
theorem digitsValue_padZeros (width : Nat) (ds : List Char) :
    digitsValue 10 (padZeros width ds) = digitsValue 10 ds := by
  have zeros (n : Nat) : (List.replicate n '0').foldl (fun n c => 10 * n + hexDigit c) 0 = 0 := by
    induction n with
    | zero => rfl
    | succ n ih => exact ih
  rw [padZeros, digitsValue, List.foldl_append, zeros]
  rfl

theorem isDigit_of_mem_padZeros {width : Nat} {ds : List Char}
    (h : ∀ c ∈ ds, c.isDigit = true) : ∀ c ∈ padZeros width ds, c.isDigit = true := by
  intro c hc
  rcases List.mem_append.1 hc with zero | digit
  · rw [List.eq_of_mem_replicate zero]
    rfl
  · exact h c digit

theorem length_padZeros (width : Nat) (ds : List Char) :
    (padZeros width ds).length = max width ds.length := by
  rw [padZeros, List.length_append, List.length_replicate]
  omega

/-! ## Numerals -/

/-- A numeral. -/
structure Numeral where
  /-- Whether it has a minus sign. -/
  negative : Bool
  /-- The digits before the point. -/
  whole : List Char
  /-- The digits after the point. -/
  fraction : List Char
  /-- Before the point there are digits only. -/
  isDigit_whole : ∀ c ∈ whole, c.isDigit = true
  /-- So there are after it. -/
  isDigit_fraction : ∀ c ∈ fraction, c.isDigit = true
  /-- There is a digit before the point. -/
  whole_ne_nil : whole ≠ []
  /-- No zero ends the fraction. -/
  fraction_short : fraction.getLast? ≠ some '0'

namespace Numeral

/-- How a numeral is written.  It has no point if there are no digits after it. -/
def text (n : Numeral) : List Char :=
  (if n.negative then ['-'] else []) ++ n.whole
    ++ if n.fraction.isEmpty then [] else '.' :: n.fraction

/-- What a numeral stands for. -/
def value (n : Numeral) : ℚ :=
  (if n.negative then -1 else 1)
    * (digitsValue 10 (n.whole ++ n.fraction) / 10 ^ n.fraction.length)

/-- A negative zero is written in one way. -/
theorem eq_zero_of_text {n : Numeral} (h : n.text = ['-', '0']) :
    n.negative = true ∧ n.value = 0 := by
  obtain ⟨negative, whole, fraction, digit, digit', some, short⟩ := n
  obtain ⟨c, cs, rfl⟩ := List.exists_cons_of_ne_nil some
  cases negative with
  | false =>
    obtain rfl : c = '-' := (List.cons.inj h).1
    exact absurd (digit '-' List.mem_cons_self) (by decide)
  | true =>
    obtain ⟨rfl, rest⟩ := List.cons.inj (List.cons.inj h).2
    obtain ⟨rfl, none⟩ := List.append_eq_nil_iff.1 rest
    cases fraction with
    | nil => exact ⟨rfl, by simp [value, Decimal.digitsValue, Decimal.hexDigit]⟩
    | cons d ds => cases none

/-- The digits of an integer as a numeral. -/
def ofInteger (i : Int) : Numeral where
  negative := i < 0
  whole := digits i.natAbs
  fraction := []
  isDigit_whole _ := isDigit_of_mem_digits
  isDigit_fraction := nofun
  whole_ne_nil := digits_ne_nil _
  fraction_short := nofun

theorem text_ofInteger (i : Int) : (ofInteger i).text = integerDigits i := by
  by_cases h : i < 0 <;> simp [ofInteger, text, integerDigits, h]

theorem value_ofInteger (i : Int) : (ofInteger i).value = i := by
  have size : ((i.natAbs : Nat) : ℚ) = |(i : ℚ)| := by rw [Nat.cast_natAbs, Int.cast_abs]
  by_cases h : i < 0
  · have below : (i : ℚ) < 0 := by exact_mod_cast h
    simp [ofInteger, value, h, digitsValue_digits, size, abs_of_neg below]
  · have above : (0 : ℚ) ≤ i := by exact_mod_cast not_lt.1 h
    simp [ofInteger, value, h, digitsValue_digits, size, abs_of_nonneg above]

/-! ## Fixed-point text -/

/-- The digits of fixed-point text. -/
def fixedDigits (places n : Nat) : List Char := padZeros (places + 1) (digits n)

/-- Those of them that stand before the point. -/
def fixedWhole (places n : Nat) : List Char :=
  (fixedDigits places n).take ((fixedDigits places n).length - places)

/-- Those of them that stand after it. -/
def fixedFraction (places n : Nat) : List Char :=
  (fixedDigits places n).drop ((fixedDigits places n).length - places)

theorem fixedWhole_append (places n : Nat) :
    fixedWhole places n ++ fixedFraction places n = fixedDigits places n :=
  List.take_append_drop _ _

theorem isDigit_fixedDigits (places n : Nat) : ∀ c ∈ fixedDigits places n, c.isDigit = true :=
  isDigit_of_mem_padZeros fun _ => isDigit_of_mem_digits

theorem length_fixedFraction (places n : Nat) : (fixedFraction places n).length = places := by
  have long : places + 1 ≤ (fixedDigits places n).length := by
    rw [fixedDigits, length_padZeros]
    exact le_max_left _ _
  rw [fixedFraction, List.length_drop]
  omega

theorem fixedWhole_ne_nil (places n : Nat) : fixedWhole places n ≠ [] := by
  intro none
  have whole := congrArg List.length (fixedWhole_append places n)
  rw [none, List.nil_append, length_fixedFraction, fixedDigits, length_padZeros] at whole
  omega

/-- The digits of a fraction without the zeros at its end. -/
def shortened (ds : List Char) : List Char := ds.rdropWhile (· == '0')

theorem exists_shortened_append (ds : List Char) :
    ∃ n, shortened ds ++ List.replicate n '0' = ds := by
  have zeros : ∀ c ∈ ds.reverse.takeWhile (· == '0'), c = '0' := fun c hc => by
    simpa using List.mem_takeWhile_imp hc
  refine ⟨(ds.reverse.takeWhile (· == '0')).length, ?_⟩
  rw [← List.reverse_replicate, ← List.eq_replicate_of_mem zeros, shortened, List.rdropWhile,
    ← List.reverse_append, List.takeWhile_append_dropWhile, List.reverse_reverse]

theorem getLast?_shortened (ds : List Char) : (shortened ds).getLast? ≠ some '0' := by
  by_cases none : shortened ds = []
  · rw [none]
    nofun
  · rw [List.getLast?_eq_some_getLast none]
    exact fun last => List.rdropWhile_last_not _ _ none (beq_iff_eq.2 (Option.some.inj last))

/-- Fixed-point text as a numeral, without the zeros at its end. -/
def ofFixed (negative : Bool) (places n : Nat) : Numeral where
  negative := negative
  whole := fixedWhole places n
  fraction := shortened (fixedFraction places n)
  isDigit_whole c hc := isDigit_fixedDigits places n c (List.mem_of_mem_take hc)
  isDigit_fraction c hc :=
    isDigit_fixedDigits places n c (List.mem_of_mem_drop ((List.rdropWhile_prefix _ _).subset hc))
  whole_ne_nil := fixedWhole_ne_nil places n
  fraction_short := getLast?_shortened _

theorem rdropWhile_append (p : Char → Bool) (cs ds : List Char) : (cs ++ ds).rdropWhile p =
    if (ds.rdropWhile p).isEmpty then cs.rdropWhile p else cs ++ ds.rdropWhile p := by
  simp only [List.rdropWhile, List.reverse_append, List.dropWhile_append, List.isEmpty_reverse]
  split_ifs
  · rfl
  · rw [List.reverse_append, List.reverse_reverse]

theorem trimFraction_eq (cs : List Char) :
    trimFraction cs = (cs.rdropWhile (· == '0')).rdropWhile (· == '.') := by
  simp [trimFraction, List.rdropWhile]

/-- A point that no digits end with is not dropped. -/
theorem rdropWhile_point {cs ds : List Char} (h : ∀ c ∈ ds, c.isDigit = true) (some : ds ≠ []) :
    (cs ++ ds).rdropWhile (· == '.') = cs ++ ds := by
  refine List.rdropWhile_eq_self_iff.2 fun _ point => ?_
  rw [List.getLast_append_of_ne_nil _ some, beq_iff_eq] at point
  exact absurd (h _ (List.getLast_mem some)) (point ▸ by decide)

theorem text_ofFixed (negative : Bool) {places : Nat} (fractional : places ≠ 0) (n : Nat) :
    (ofFixed negative places n).text =
      trimFraction ((if negative then ['-'] else []) ++ fixedPoint places n) := by
  have spelled : fixedPoint places n = fixedWhole places n ++ ['.'] ++ fixedFraction places n :=
    (if_neg fractional).trans (List.append_cons ..)
  have isDigit_whole : ∀ c ∈ fixedWhole places n, c.isDigit = true :=
    (ofFixed negative places n).isDigit_whole
  have isDigit_fraction : ∀ c ∈ shortened (fixedFraction places n), c.isDigit = true :=
    (ofFixed negative places n).isDigit_fraction
  show (if negative then ['-'] else []) ++ fixedWhole places n ++
    (if (shortened (fixedFraction places n)).isEmpty then []
      else '.' :: shortened (fixedFraction places n)) = _
  rw [trimFraction_eq, spelled, ← List.append_assoc, ← List.append_assoc,
    rdropWhile_append (· == '0')]
  change _ = (if (shortened (fixedFraction places n)).isEmpty then _
    else _ ++ shortened (fixedFraction places n)).rdropWhile _
  by_cases none : (shortened (fixedFraction places n)).isEmpty
  · rw [if_pos none, if_pos none, List.append_nil, List.rdropWhile_concat_neg _ _ _ (by decide),
      List.rdropWhile_concat_pos _ _ _ rfl, rdropWhile_point isDigit_whole (fixedWhole_ne_nil _ _)]
  · rw [if_neg none, if_neg none, rdropWhile_point isDigit_fraction (by simpa using none)]
    exact List.append_cons ..

theorem value_ofFixed (negative : Bool) (places n : Nat) :
    (ofFixed negative places n).value = (if negative then -1 else 1) * (n / 10 ^ places) := by
  obtain ⟨k, zeros⟩ := exists_shortened_append (fixedFraction places n)
  have length := congrArg List.length zeros
  rw [List.length_append, List.length_replicate, length_fixedFraction] at length
  have digits :
      digitsValue 10 (fixedWhole places n ++ shortened (fixedFraction places n)) * 10 ^ k = n := by
    rw [← digitsValue_append_zeros, List.append_assoc, zeros, fixedWhole_append, fixedDigits,
      digitsValue_padZeros, digitsValue_digits]
  show _ * ((digitsValue 10 (fixedWhole places n ++ shortened (fixedFraction places n)) : ℚ) /
    10 ^ (shortened (fixedFraction places n)).length) = _
  have count : (n : ℚ) =
      digitsValue 10 (fixedWhole places n ++ shortened (fixedFraction places n)) * 10 ^ k := by
    exact_mod_cast digits.symm
  have power : (10 : ℚ) ^ places = 10 ^ (shortened (fixedFraction places n)).length * 10 ^ k := by
    rw [← pow_add, length]
  rw [count, power, mul_div_mul_right _ _ (by positivity)]
  rfl

end Numeral

end DiagramScript
