import Mathlib
import DiagramScript.Proofs.EuclideanNumbers
import DiagramScript.Proofs.TextOffsets

/-!
# How the text of an object is read

The lines above the middle of an object, those around it and those below it are numbered separately:
the first from the last one upward, the others downward.  Read from top to bottom they are one
column all the same, in which every line is one line below the line before it.

* `Svg.readingOrder` — the lines from top to bottom.
* `Svg.part_offsets` — the offsets of one of the three parts.
* `Svg.readingOrder_offsets` — the offsets of the column.
* `Svg.lineOffsets_standsInOrder` — no two lines overlap, the lines of each part stand in their
  order, and those without a mark are centred.
-/

namespace DiagramScript

namespace Svg

variable {K : Type} [ExactNumber K]

/-! ## Offsets of one part -/

/-- The lines with their offsets: those above the middle, those around it, and those below. -/
def readingOrder (lines : List TextLine) : List (TextLine × K) :=
  (lineOffsets lines).filter (·.1.above) ++
    ((lineOffsets lines).filter (fun e => isCentral e.1) ++
      (lineOffsets lines).filter (·.1.below))

/-- How far the first line that is read is above the middle, in lines. -/
def topOffset (lines : List TextLine) : K :=
  (lines.countP (·.above) : K) + Arith.half ((lines.countP isCentral : K) - 1)

theorem topOffset_eq (lines : List TextLine) : (topOffset lines : K) =
    (lines.countP (·.above) : K) + ((lines.countP isCentral : K) - 1) / 2 := by
  rw [topOffset, Arith.half_eq]

/-- Where the offset of each line of some kind is one less than that of the line of this kind
before it, so are all their offsets in a row. -/
theorem offsets_filter {all : List TextLine} {p : TextLine → Bool} {top : K} {start : Nat}
    (step : ∀ before line after, all = before ++ line :: after → p line = true →
      lineOffset before after line = top - ((start + before.countP p : Nat) : K))
    (before after : List TextLine) (whole : all = before ++ after) :
    ((offsetsFrom before after).filter (fun e => p e.1)).map Prod.snd =
      (List.range' (start + before.countP p) (after.countP p)).map
        fun i : Nat => top - (i : K) := by
  induction after generalizing before with
  | nil => rfl
  | cons line after ih =>
    have rest := ih (before ++ [line]) (by rw [whole, List.append_assoc, List.singleton_append])
    rw [List.countP_append, List.countP_singleton] at rest
    rw [offsetsFrom, List.filter_cons]
    dsimp only
    by_cases h : p line = true
    · rw [if_pos h] at rest
      rw [if_pos h, List.map_cons, rest, List.countP_cons_of_pos h, List.range'_succ,
        List.map_cons, step before line after whole h]
      rfl
    · rw [if_neg h] at rest
      rw [if_neg h, rest, List.countP_cons_of_neg h]
      rfl

section Parts

variable {lines before after : List TextLine} {line : TextLine}

/-- Half of the lines around the middle, and half a line more. -/
theorem beyond_eq (n : Nat) : Arith.half (Arith.num n) + Arith.dec 5 1 = ((n : K) + 1) / 2 := by
  rw [Arith.half_eq, Arith.num_eq, Arith.dec_eq]
  norm_num
  ring

theorem lineOffset_above (whole : lines = before ++ line :: after) (above : line.above = true)
    (below : line.below = false) :
    (lineOffset before after line : K) =
      topOffset lines - ((0 + before.countP (·.above) : Nat) : K) := by
  have count : lines.countP (·.above) = before.countP (·.above) + (after.countP (·.above) + 1) := by
    rw [whole, List.countP_append, List.countP_cons_of_pos above]
  rw [lineOffset, below, if_neg Bool.false_ne_true, above, if_pos rfl, beyond_eq, Arith.num_eq,
    ← whole, topOffset_eq, count]
  push_cast
  ring

theorem lineOffset_central (whole : lines = before ++ line :: after)
    (central : isCentral line = true) :
    (lineOffset before after line : K) =
      topOffset lines - ((lines.countP (·.above) + before.countP isCentral : Nat) : K) := by
  obtain ⟨above, below⟩ : line.above = false ∧ line.below = false := by
    simpa [isCentral] using central
  rw [lineOffset, below, if_neg Bool.false_ne_true, above, if_neg Bool.false_ne_true,
    Arith.half_eq, Arith.ofInt_eq, Arith.num_eq, ← whole, topOffset_eq]
  push_cast
  ring

theorem lineOffset_below (whole : lines = before ++ line :: after) (below : line.below = true) :
    (lineOffset before after line : K) = topOffset lines -
      ((lines.countP (·.above) + lines.countP isCentral + before.countP (·.below) : Nat) : K) := by
  rw [lineOffset, below, if_pos rfl, beyond_eq, Arith.num_eq, ← whole, topOffset_eq]
  push_cast
  ring

end Parts

/-- The offsets of a part, where as many lines as `start` are read before it. -/
theorem part_offsets {lines : List TextLine} {p : TextLine → Bool} {start : Nat}
    (step : ∀ before line after, lines = before ++ line :: after → p line = true →
      (lineOffset before after line : K) =
        topOffset lines - ((start + before.countP p : Nat) : K)) :
    ((lineOffsets lines).filter (fun e => p e.1)).map Prod.snd =
      (List.range' start (lines.countP p)).map fun i : Nat => (topOffset lines - (i : K) : K) :=
  offsets_filter step [] lines rfl

theorem central_offsets (lines : List TextLine) :
    ((lineOffsets lines).filter (fun e => isCentral e.1)).map Prod.snd =
      (List.range' (lines.countP (·.above)) (lines.countP isCentral)).map
        fun i : Nat => (topOffset lines - (i : K) : K) :=
  part_offsets fun _ _ _ whole h => lineOffset_central whole h

/-! ## The column -/

section Column

variable {lines : List TextLine} (apart : ∀ line ∈ lines, ¬(line.above ∧ line.below))

include apart

/-- Read from top to bottom, every line is one line below the line before it. -/
theorem readingOrder_offsets : (readingOrder (K := K) lines).map Prod.snd =
    (List.range (lines.countP (·.above) + lines.countP isCentral + lines.countP (·.below))).map
      fun i : Nat => topOffset lines - (i : K) := by
  have above : ((lineOffsets lines).filter (·.1.above)).map Prod.snd =
      (List.range' 0 (lines.countP (·.above))).map
        fun i : Nat => (topOffset lines - (i : K) : K) := by
    refine part_offsets (p := (·.above)) fun before line after whole h => ?_
    have listed : line ∈ lines := by
      rw [whole]
      exact List.mem_append_right _ List.mem_cons_self
    exact lineOffset_above whole h (Bool.eq_false_iff.2 fun below => apart line listed ⟨h, below⟩)
  have below : ((lineOffsets lines).filter (·.1.below)).map Prod.snd =
      (List.range' (lines.countP (·.above) + lines.countP isCentral)
        (lines.countP (·.below))).map fun i : Nat => (topOffset lines - (i : K) : K) :=
    part_offsets (p := (·.below)) fun _ _ _ whole h => lineOffset_below whole h
  have ranges : ∀ a n b : Nat,
      List.range' 0 a ++ (List.range' a n ++ List.range' (a + n) b) = List.range (a + n + b) := by
    intro a n b
    have first : List.range' 0 a ++ List.range' a (n + b) = List.range' 0 (a + (n + b)) := by
      simpa only [Nat.zero_add] using List.range'_append_1 (s := 0) (m := a) (n := n + b)
    rw [List.range'_append_1, first, List.range_eq_range', Nat.add_assoc]
  rw [readingOrder, List.map_append, List.map_append, above, central_offsets, below,
    ← List.map_append, ← List.map_append, ranges]

/-- No line is lost, and none is read twice. -/
theorem readingOrder_perm : (readingOrder (K := K) lines).Perm (lineOffsets lines) := by
  have known : ∀ e ∈ lineOffsets (K := K) lines, ¬(e.1.above ∧ e.1.below) := fun e he =>
    apart e.1 (map_fst_offsetsFrom (K := K) [] lines ▸ List.mem_map_of_mem he)
  have central : ((lineOffsets (K := K) lines).filter (!·.1.above)).filter
      (fun e => isCentral e.1) = (lineOffsets lines).filter fun e => isCentral e.1 := by
    rw [List.filter_filter]
    refine List.filter_congr fun e _ => ?_
    cases h : e.1.above <;> simp [isCentral, h]
  have below : ((lineOffsets (K := K) lines).filter (!·.1.above)).filter
      (fun e => !isCentral e.1) = (lineOffsets lines).filter (·.1.below) := by
    rw [List.filter_filter]
    refine List.filter_congr fun e he => ?_
    have := known e he
    cases h : e.1.above <;> simp_all [isCentral]
  have others : ((lineOffsets (K := K) lines).filter (fun e => isCentral e.1) ++
      (lineOffsets (K := K) lines).filter (·.1.below)).Perm
        ((lineOffsets (K := K) lines).filter (!·.1.above)) := by
    rw [← central, ← below]
    exact List.filter_append_perm _ _
  exact (others.append_left _).trans (List.filter_append_perm _ _)

end Column

/-! ## Texts -/

/-- How the lines of a text stand. -/
structure StandsInOrder (K : Type) [ExactNumber K] (lines : List TextLine) : Prop where
  /-- Every line has an offset: the one that is found in the table by the place of the line. -/
  found : ∀ i line, lines[i]? = some line →
    ∃ x : K, (offsetTable lines).lookup i = some x ∧ (lineOffsets lines)[i]? = some (line, x)
  /-- Any two lines are at least one line apart. -/
  apart : (lineOffsets (K := K) lines).Pairwise fun a b => 1 ≤ |a.2 - b.2|
  /-- From top to bottom they are read part by part, those of each part in their order. -/
  descending : (readingOrder (K := K) lines).Pairwise fun a b => b.2 + 1 ≤ a.2
  /-- No line is lost on the way. -/
  complete : (readingOrder (K := K) lines).Perm (lineOffsets lines)
  /-- The lines without a mark stand as far above the middle as below it. -/
  centred :
    let middle := ((lineOffsets (K := K) lines).filter fun e => isCentral e.1).map Prod.snd
    middle.reverse = middle.map (-·)

/-- Lines of text do not overlap, and are read in order. -/
theorem lineOffsets_standsInOrder {lines : List TextLine}
    (apart : ∀ line ∈ lines, ¬(line.above ∧ line.below)) : StandsInOrder K lines := by
  have descending : (readingOrder (K := K) lines).Pairwise fun a b => b.2 + 1 ≤ a.2 := by
    have column : ((readingOrder (K := K) lines).map Prod.snd).Pairwise fun x y => y + 1 ≤ x := by
      rw [readingOrder_offsets apart, List.pairwise_map]
      refine List.pairwise_lt_range.imp fun {i j} hij => ?_
      have : (i : K) + 1 ≤ j := by exact_mod_cast hij
      linarith
    exact List.pairwise_map.1 column
  have complete := readingOrder_perm (K := K) apart
  refine ⟨fun i line => exists_offset, ?_, descending, complete, ?_⟩
  · have spread : (readingOrder (K := K) lines).Pairwise fun a b => 1 ≤ |a.2 - b.2| := by
      refine descending.imp fun {a b} h => ?_
      rw [abs_of_nonneg (by linarith)]
      linarith
    refine (complete.pairwise_iff fun {a b} h => ?_).1 spread
    rwa [abs_sub_comm]
  · intro middle
    have steps : middle = (List.range (lines.countP isCentral)).map fun i : Nat =>
        ((lines.countP isCentral : K) - 1) / 2 - (i : K) := by
      refine (central_offsets lines).trans ?_
      rw [List.range'_eq_map_range, List.map_map]
      refine List.map_congr_left fun i _ => ?_
      simp only [Function.comp_apply, topOffset_eq]
      push_cast
      ring
    rw [steps]
    refine List.ext_getElem (by simp) fun i hi _ => ?_
    have last : i < lines.countP isCentral := by simpa using hi
    simp only [List.getElem_reverse, List.getElem_map, List.getElem_range, List.length_map,
      List.length_range]
    rw [Nat.sub_sub, Nat.cast_sub (by omega)]
    push_cast
    ring

/-- Two lines above, two without a mark, and one below. -/
theorem lineOffsets_standsInOrder_mixed :
    let lines : List TextLine := [{ text := "a", above := true }, { text := "b" },
      { text := "c", below := true }, { text := "d", above := true }, { text := "e" }]
    (lineOffsets (K := ℚ) lines).map Prod.snd = [5 / 2, 1 / 2, -3 / 2, 3 / 2, -1 / 2] ∧
    StandsInOrder ℚ lines := by
  intro lines
  exact ⟨by decide +kernel, lineOffsets_standsInOrder (by decide)⟩

end Svg

end DiagramScript
