import DiagramScript.Proofs.ExactNumbers

/-!
# Ordered numbers

Machine numbers are rounded, and some are undefined.  Still their order has a few laws, from which
it follows what the least and the greatest of some numbers are.  Exact numbers have these laws, too.

* `OrderedNumber` — the laws.
* `Foremost` — a number that none of some others comes before.
* `Arith.least_foremost`, `Arith.greatest_foremost` — the least and the greatest of some numbers,
  found by going through them one after the other.
-/

namespace DiagramScript

/-- Numbers with an order that their sums and differences respect.  Undefined numbers are neither
less nor greater than others, so that nothing is said of them. -/
class OrderedNumber (K : Type) [Arith K] : Prop where
  /-- No number is less than itself. -/
  irrefl : ∀ a : K, ¬a < a
  /-- A number that is less than a lesser one is less. -/
  trans : ∀ {a b c : K}, a < b → b < c → a < c
  /-- A number that is not less than one that is not less is not less, if the one in the middle is
  defined. -/
  through : ∀ {a b c : K}, Arith.isNaN b = false → ¬b < a → ¬c < b → ¬c < a
  /-- Half of something that is not negative can be added and subtracted on either side. -/
  around : ∀ {c w : K}, ¬w < Arith.num 0 → ¬c + Arith.half w < c - Arith.half w
  /-- A difference is negative only if something greater is subtracted. -/
  difference : ∀ {a b : K}, ¬b < a → ¬b - a < Arith.num 0

section Exact

variable {K : Type} [ExactNumber K]

/-- Exact numbers are defined. -/
theorem Arith.isNaN_eq (x : K) : Arith.isNaN x = false := by
  show (!decide (x = x)) = false
  rw [decide_eq_true rfl]
  rfl

instance : OrderedNumber K where
  irrefl := lt_irrefl
  trans := lt_trans
  through _ first second := not_lt.2 ((not_lt.1 first).trans (not_lt.1 second))
  around {c w} h := by
    rw [Arith.num_eq, Nat.cast_zero, not_lt] at h
    rw [Arith.half_eq, not_lt]
    linarith
  difference h := by
    rw [Arith.num_eq, Nat.cast_zero, not_lt]
    exact sub_nonneg.2 (not_lt.1 h)

end Exact

/-! ## The first of some numbers -/

variable {K : Type}

/-- Whether a number is one of some numbers, and none of them comes before it.  It is the first of
the list, or comes before that one. -/
structure Foremost (before : K → K → Prop) (xs : List K) (x : K) : Prop where
  /-- It is one of them. -/
  member : x ∈ xs
  /-- None comes before it. -/
  none : ∀ y ∈ xs, ¬before y x
  /-- It comes before the first of the list, unless it is the first. -/
  first : ∀ y ∈ xs.head?, x = y ∨ before x y

namespace Foremost

variable {before : K → K → Prop} {a c x : K} {xs : List K}

theorem single (irrefl : ∀ a, ¬before a a) (a : K) : Foremost before [a] a where
  member := List.mem_singleton_self a
  none y hy := List.mem_singleton.1 hy ▸ irrefl y
  first _ hy := .inl (Option.some.inj hy)

/-- Two numbers may be replaced by the first of both. -/
theorem of_pick (irrefl : ∀ a, ¬before a a)
    (trans : ∀ {a b c}, before a b → before b c → before a c) {p : K}
    (pick : p = c ∧ before c a ∨ p = a ∧ ¬before c a) (h : Foremost before (p :: xs) x) :
    Foremost before (a :: c :: xs) x := by
  have asym : ∀ {a b}, before a b → ¬before b a := fun first second => irrefl _ (trans first second)
  rcases pick with ⟨rfl, earlier⟩ | ⟨rfl, later⟩
  · have ahead : before x a := by
      rcases h.first p rfl with rfl | ahead
      · exact earlier
      · exact trans ahead earlier
    refine ⟨List.mem_cons_of_mem _ h.member, ?_, fun y hy => ?_⟩
    · rintro y (_ | ⟨_, hy⟩)
      · exact asym ahead
      · exact h.none y hy
    · cases hy
      exact .inr ahead
  · refine ⟨?_, ?_, h.first⟩
    · rcases List.mem_cons.1 h.member with rfl | listed
      · exact List.mem_cons_self
      · exact List.mem_cons_of_mem _ (List.mem_cons_of_mem _ listed)
    · rintro y (_ | ⟨_, _ | ⟨_, hy⟩⟩)
      · exact h.none _ List.mem_cons_self
      · rcases h.first _ rfl with rfl | ahead
        · exact later
        · exact fun behind => later (trans behind ahead)
      · exact h.none y (List.mem_cons_of_mem _ hy)

end Foremost

namespace Arith

variable [Arith K]

theorem least_cases (a b : K) : least a b = b ∧ b < a ∨ least a b = a ∧ ¬b < a := by
  unfold least
  split_ifs with h
  · exact .inl ⟨rfl, h⟩
  · exact .inr ⟨rfl, h⟩

theorem greatest_cases (a b : K) : greatest a b = b ∧ a < b ∨ greatest a b = a ∧ ¬a < b := by
  unfold greatest
  split_ifs with h
  · exact .inl ⟨rfl, h⟩
  · exact .inr ⟨rfl, h⟩

variable [OrderedNumber K] {a c x : K} {xs : List K}

/-- The least of some numbers, after the first two have been compared. -/
theorem least_foremost (h : Foremost (· < ·) (least a c :: xs) x) :
    Foremost (· < ·) (a :: c :: xs) x :=
  h.of_pick OrderedNumber.irrefl OrderedNumber.trans (least_cases a c)

/-- The greatest of some numbers, after the first two have been compared. -/
theorem greatest_foremost (h : Foremost (· > ·) (greatest a c :: xs) x) :
    Foremost (· > ·) (a :: c :: xs) x :=
  h.of_pick OrderedNumber.irrefl (fun first second => OrderedNumber.trans second first)
    (greatest_cases a c)

end Arith

end DiagramScript
