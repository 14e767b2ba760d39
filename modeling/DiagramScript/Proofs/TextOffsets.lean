import DiagramScript.Proofs.ExactNumbers
import DiagramScript.Svg.Caption

/-!
# Where lines of text are looked up

The offsets of the lines of an object can be kept in a table, which is written in three rounds: the
lines around the middle, those above it from the last upward, and those below it.  A line that is
both above and below is written twice, and the later entry counts.  Every line is found in the
table, with the offset that it has by what stands before and after it.

* `Svg.placesOf` — the places of the lines with some mark.
* `Svg.offsetTable` — the table, later entries first.
* `Svg.lookup_offsetTable`, `Svg.exists_offset` — what is found in it.
-/

namespace DiagramScript

namespace Svg

/-! ## Numbered entries -/

section Numbered

variable {α : Type}

/-- Entries are found under their keys, with values by their places. -/
theorem lookup_mapIdx {before : List Nat} {i : Nat} (h : i ∉ before) (after : List Nat)
    (value : Nat → α) : ((before ++ i :: after).mapIdx fun k j => (j, value k)).lookup i =
      some (value before.length) := by
  induction before generalizing value with
  | nil => simp
  | cons j before ih =>
    obtain ⟨hj, hb⟩ : i ≠ j ∧ i ∉ before := by simpa using h
    rw [List.cons_append, List.mapIdx_cons, List.lookup_cons, beq_false_of_ne hj]
    exact ih hb fun k => value (k + 1)

theorem lookup_mapIdx_eq_none {ids : List Nat} {i : Nat} (h : i ∉ ids) (value : Nat → α) :
    (ids.mapIdx fun k j => (j, value k)).lookup i = none := by
  induction ids generalizing value with
  | nil => rfl
  | cons j ids ih =>
    obtain ⟨hj, hb⟩ : i ≠ j ∧ i ∉ ids := by simpa using h
    rw [List.mapIdx_cons, List.lookup_cons, beq_false_of_ne hj]
    exact ih hb fun k => value (k + 1)

end Numbered

/-! ## Places of lines -/

/-- The places of those of some lines that a condition holds of, when the first of all lines has
the place `n`. -/
def placesOf (p : TextLine → Bool) (n : Nat) (lines : List TextLine) : List Nat :=
  ((lines.zipIdx n).filter fun e => p e.1).map Prod.snd

variable (p : TextLine → Bool) (n : Nat)

theorem length_placesOf (lines : List TextLine) :
    (placesOf p n lines).length = lines.countP p := by
  unfold placesOf
  induction lines generalizing n with
  | nil => rfl
  | cons line lines ih =>
    rw [List.zipIdx_cons, List.filter_cons, List.countP_cons]
    split_ifs with h
    · rw [List.map_cons, List.length_cons, ih]
    · exact ih (n + 1)

theorem le_of_mem_placesOf {lines : List TextLine} {i : Nat} (h : i ∈ placesOf p n lines) :
    n ≤ i ∧ i < n + lines.length := by
  obtain ⟨e, he, rfl⟩ := List.mem_map.1 h
  have := List.mem_zipIdx (List.mem_filter.1 he).1
  omega

/-- The place of a line among others. -/
theorem placesOf_append (before after : List TextLine) (line : TextLine) :
    placesOf p n (before ++ line :: after) = placesOf p n before ++
      ((if p line then [n + before.length] else []) ++
        placesOf p (n + before.length + 1) after) := by
  unfold placesOf
  rw [List.zipIdx_append, List.filter_append, List.map_append, List.zipIdx_cons, List.filter_cons]
  split_ifs <;> rfl

/-- The places before and after that of a line. -/
theorem not_mem_placesOf_before (before : List TextLine) : before.length ∉ placesOf p 0 before := by
  intro h
  have := (le_of_mem_placesOf p 0 h).2
  omega

theorem not_mem_placesOf_after (before after : List TextLine) :
    before.length ∉ placesOf p (before.length + 1) after := by
  intro h
  have := (le_of_mem_placesOf p _ h).1
  omega

/-! ## The table -/

variable {K : Type} [Arith K]

/-- The offsets of some lines by their places.  Later entries stand first. -/
def offsetTable (lines : List TextLine) : List (Nat × K) :=
  let central := placesOf isCentral 0 lines
  let beyond := Arith.half (Arith.num central.length) + Arith.dec 5 1
  ((placesOf (·.below) 0 lines).mapIdx fun k i => (i, -(beyond + Arith.num k)))
    ++ ((placesOf (·.above) 0 lines).reverse.mapIdx fun k i => (i, beyond + Arith.num k))
    ++ (central.mapIdx fun k i => (i, Arith.half (Arith.ofInt (central.length - 1)) - Arith.num k))

/-- Every line is found with its offset. -/
theorem lookup_offsetTable (before after : List TextLine) (line : TextLine) :
    (offsetTable (before ++ line :: after) : List (Nat × K)).lookup before.length =
      some (lineOffset before after line) := by
  have split : ∀ p : TextLine → Bool, placesOf p 0 (before ++ line :: after) =
      placesOf p 0 before ++ ((if p line then [before.length] else []) ++
        placesOf p (before.length + 1) after) := by
    intro p
    rw [placesOf_append, Nat.zero_add]
  have unmarked : ∀ p : TextLine → Bool, p line = false →
      before.length ∉ placesOf p 0 (before ++ line :: after) := by
    intro p hp
    rw [split, hp]
    simp [not_mem_placesOf_before, not_mem_placesOf_after]
  have central : (placesOf isCentral 0 (before ++ line :: after)).length =
      (before ++ line :: after).countP isCentral := length_placesOf ..
  unfold offsetTable lineOffset
  simp only [central, List.lookup_append]
  cases below : line.below with
  | true =>
    rw [split (·.below), below, if_pos rfl, List.singleton_append,
      lookup_mapIdx (not_mem_placesOf_before _ before), length_placesOf, if_pos rfl]
    rfl
  | false =>
    rw [lookup_mapIdx_eq_none (unmarked (·.below) below), if_neg Bool.false_ne_true,
      Option.none_or]
    cases above : line.above with
    | true =>
      rw [split (·.above), above, if_pos rfl, List.singleton_append, List.reverse_append,
        List.reverse_cons, List.append_assoc, List.singleton_append]
      rw [lookup_mapIdx (fun h => not_mem_placesOf_after _ before after (List.mem_reverse.1 h)),
        List.length_reverse, length_placesOf, if_pos rfl]
      rfl
    | false =>
      have middle : isCentral line = true := by rw [isCentral, above, below]; rfl
      have apart : before.length ∉ (placesOf (·.above) 0 (before ++ line :: after)).reverse :=
        fun h => unmarked (·.above) above (List.mem_reverse.1 h)
      rw [lookup_mapIdx_eq_none apart, if_neg Bool.false_ne_true, Option.none_or,
        split isCentral, middle, if_pos rfl, List.singleton_append,
        lookup_mapIdx (not_mem_placesOf_before _ before), length_placesOf]

/-- A line in a list of offsets. -/
theorem getElem?_offsetsFrom (before between after : List TextLine) (line : TextLine) :
    (offsetsFrom (K := K) before (between ++ line :: after))[between.length]? =
      some (line, lineOffset (before ++ between) after line) := by
  induction between generalizing before with
  | nil => simp [offsetsFrom]
  | cons other between ih =>
    rw [List.cons_append, offsetsFrom, List.length_cons, List.getElem?_cons_succ, ih,
      List.append_assoc, List.singleton_append]

/-- A line has one offset, in the table and in the list. -/
theorem exists_offset {lines : List TextLine} {i : Nat} {line : TextLine}
    (h : lines[i]? = some line) :
    ∃ x : K, (offsetTable lines).lookup i = some x ∧ (lineOffsets lines)[i]? = some (line, x) := by
  obtain ⟨before, after, rfl, rfl⟩ : ∃ before after,
      lines = before ++ line :: after ∧ before.length = i := by
    obtain ⟨hlt, rfl⟩ := List.getElem?_eq_some_iff.1 h
    refine ⟨lines.take i, lines.drop (i + 1), ?_, List.length_take_of_le hlt.le⟩
    rw [List.getElem_cons_drop, List.take_append_drop]
  exact ⟨_, lookup_offsetTable before after line, getElem?_offsetsFrom [] before after line⟩

/-- Lines above, in and below the middle, and one that is both above and below. -/
example : (offsetTable [{ text := "a", above := true }, { text := "b" },
    { text := "c", above := true, below := true }, { text := "d" }] : List (Nat × ℚ)).lookup 2 =
      some (-3 / 2) := by
  decide +kernel

end Svg

end DiagramScript
