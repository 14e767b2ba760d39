import DiagramScript.Registry
import Mathlib.Data.List.Nodup
import Mathlib.Data.List.Perm.Basic
import Mathlib.Data.List.Range

/-!
# The forest of objects

Groups hold objects, and these may be groups.  A group is numbered after all that it holds, so the
list of objects is a forest whose trees are written down one after the other, each with its root
last.

* `Registry.shape` — the number and the members of every object.
* `Planted` — the objects that some statements have added, and the roots among them.
* `Planted.perm` — going through the trees from their roots meets every added object once.
-/

namespace DiagramScript

/-! ## Numbers and members -/

/-- The number and the members of each of some objects. -/
abbrev Shape := List (Nat × List Nat)

namespace Shape

/-- The members of an object. -/
def members (sh : Shape) (id : Nat) : List Nat := ((sh[id]?).map Prod.snd).getD []

/-- What an object holds, down to some depth. -/
def below (sh : Shape) : (depth : Nat) → (id : Nat) → List Nat
  | 0, _ => []
  | depth + 1, id => (sh.members id).flatMap fun c => c :: below sh depth c

/-- Some objects, each before what it holds. -/
def trees (sh : Shape) (ids : List Nat) : List Nat := ids.flatMap fun id => id :: sh.below id id

theorem trees_append (sh : Shape) (ids more : List Nat) :
    sh.trees (ids ++ more) = sh.trees ids ++ sh.trees more :=
  List.flatMap_append ..

theorem trees_singleton (sh : Shape) (id : Nat) : sh.trees [id] = id :: sh.below id id := by
  rw [trees, List.flatMap_singleton]

end Shape

variable {K : Type}

/-- The number and the members of an object. -/
def Object.entry (o : Object K) : Nat × List Nat := (o.id, o.children)

namespace Registry

/-- The number and the members of every object. -/
def shape (r : Registry K) : Shape := r.arena.map Object.entry

@[simp] theorem length_shape (r : Registry K) : r.shape.length = r.arena.length := List.length_map _

theorem length_le_of_shape {r r' : Registry K} {added : Shape} (h : r'.shape = r.shape ++ added) :
    r.arena.length ≤ r'.arena.length := by
  rw [← length_shape, ← length_shape, h, List.length_append]
  exact Nat.le_add_right ..

theorem descendantsWithin_eq_below (r : Registry K) (depth id : Nat) :
    r.descendantsWithin depth id = r.shape.below depth id := by
  induction depth generalizing id with
  | zero => rfl
  | succ depth ih =>
    rw [descendantsWithin, Shape.below, Shape.members, shape, List.getElem?_map]
    cases r.arena[id]? with
    | none => rfl
    | some o =>
      refine List.flatMap_congr fun c _ => ?_
      rw [ih]
      rfl

end Registry

/-! ## Order -/

namespace Shape

/-- Whether groups are numbered after what they hold. -/
def IsOrdered (sh : Shape) : Prop := ∀ id, ∀ c ∈ sh.members id, c < id

variable {sh : Shape}

/-- As deep as the number of a group there is nothing left to go down to. -/
theorem below_of_le (h : sh.IsOrdered) {depth id : Nat} (hle : id ≤ depth) :
    sh.below depth id = sh.below id id := by
  induction id using Nat.strongRecOn generalizing depth with
  | ind id ih =>
    cases id with
    | zero =>
      have empty : sh.members 0 = [] :=
        List.eq_nil_iff_forall_not_mem.2 fun c hc => absurd (h 0 c hc) (Nat.not_lt_zero c)
      cases depth with
      | zero => rfl
      | succ depth =>
        change (sh.members 0).flatMap _ = []
        rw [empty, List.flatMap_nil]
    | succ id =>
      obtain ⟨depth, rfl⟩ : ∃ k, depth = k + 1 := ⟨depth - 1, by omega⟩
      rw [below, below]
      refine List.flatMap_congr fun c hc => ?_
      have hlt := h _ c hc
      rw [ih c hlt (Nat.lt_succ_iff.1 (Nat.lt_of_lt_of_le hlt hle)),
        ih c hlt (Nat.lt_succ_iff.1 hlt)]

/-- What an object holds is its members and what they hold. -/
theorem below_self (h : sh.IsOrdered) (id : Nat) : sh.below id id = sh.trees (sh.members id) := by
  rw [← below_of_le h (Nat.le_succ id), below, trees]
  exact List.flatMap_congr fun c hc => by rw [below_of_le h (Nat.le_of_lt (h id c hc))]

/-- What an object holds depends on the objects before it. -/
theorem below_congr {sh' : Shape} (h : sh.IsOrdered) {id : Nat}
    (same : ∀ i ≤ id, sh'.members i = sh.members i) (depth : Nat) :
    sh'.below depth id = sh.below depth id := by
  induction depth generalizing id with
  | zero => rfl
  | succ depth ih =>
    rw [below, below, same id (Nat.le_refl id)]
    refine List.flatMap_congr fun c hc => ?_
    have hlt := h id c hc
    rw [ih fun i hi => same i (by omega)]

end Shape

/-! ## Trees -/

/-- The objects that are added from a number on, and the roots among them: trees one after the
other, each with its root last. -/
inductive Planted : (base : Nat) → Shape → List Nat → Prop where
  /-- No tree. -/
  | nil (base : Nat) : Planted base [] []
  /-- One more tree, with the trees in its root before the root. -/
  | tree {base : Nat} {sh inner : Shape} {roots members : List Nat} (h : Planted base sh roots)
    (hi : Planted (base + sh.length) inner members) :
    Planted base (sh ++ inner ++ [(base + sh.length + inner.length, members)])
      (roots ++ [base + sh.length + inner.length])

namespace Planted

variable {base : Nat} {sh : Shape} {roots : List Nat}

/-- A group around some trees. -/
theorem group (h : Planted base sh roots) :
    Planted base (sh ++ [(base + sh.length, roots)]) [base + sh.length] :=
  tree (nil base) h

/-- More trees after some. -/
theorem append {more : Shape} {moreRoots : List Nat} (h : Planted base sh roots)
    (hm : Planted (base + sh.length) more moreRoots) :
    Planted base (sh ++ more) (roots ++ moreRoots) := by
  generalize hb : base + sh.length = next at hm
  induction hm with
  | nil => rwa [List.append_nil, List.append_nil]
  | @tree next mid inner midRoots members _ hi ih _ =>
    subst hb
    have numbers : base + (sh ++ mid).length = base + sh.length + mid.length := by
      rw [List.length_append, Nat.add_assoc]
    have key := tree (ih rfl) (numbers.symm ▸ hi)
    rw [numbers] at key
    rw [← List.append_assoc, ← List.append_assoc, ← List.append_assoc]
    exact key

/-- Roots are among the objects added. -/
theorem mem_roots (h : Planted base sh roots) :
    ∀ id ∈ roots, base ≤ id ∧ id < base + sh.length := by
  induction h with
  | nil => simp
  | @tree base sh inner roots members _ _ ih _ =>
    intro id hid
    rw [List.length_append, List.length_append, List.length_singleton]
    rcases List.mem_append.1 hid with hid | hid
    · have := ih id hid
      omega
    · rw [List.mem_singleton] at hid
      omega

/-- No root stands there twice. -/
theorem nodup_roots (h : Planted base sh roots) : roots.Nodup := by
  induction h with
  | nil => exact .nil
  | tree h _ ih _ =>
    rw [← List.concat_eq_append]
    refine ih.concat fun hm => ?_
    have := h.mem_roots _ hm
    omega

/-- Every object has its place as its number, and members that were added before it. -/
theorem getElem?_eq_some (h : Planted base sh roots) :
    ∀ {k : Nat} {e : Nat × List Nat}, sh[k]? = some e →
      e.1 = base + k ∧ ∀ c ∈ e.2, base ≤ c ∧ c < base + k := by
  induction h with
  | nil => simp
  | @tree base sh inner roots members _ hi ih ihi =>
    intro k e hk
    rcases Nat.lt_or_ge k sh.length with hs | hs
    · rw [List.append_assoc, List.getElem?_append_left hs] at hk
      exact ih hk
    · rw [List.append_assoc, List.getElem?_append_right hs] at hk
      rcases Nat.lt_or_ge (k - sh.length) inner.length with hin | hin
      · rw [List.getElem?_append_left hin] at hk
        obtain ⟨number, bounds⟩ := ihi hk
        refine ⟨by omega, fun c hc => ?_⟩
        have := bounds c hc
        omega
      · rw [List.getElem?_append_right hin, List.getElem?_singleton] at hk
        split_ifs at hk with hz
        cases hk
        refine ⟨by dsimp only; omega, fun c hc => ?_⟩
        have := hi.mem_roots c hc
        omega

theorem isOrdered (h : Planted 0 sh roots) : sh.IsOrdered := by
  intro id c hc
  rw [Shape.members] at hc
  cases he : sh[id]? with
  | none =>
    rw [he] at hc
    cases hc
  | some e =>
    rw [he] at hc
    have := (h.getElem?_eq_some he).2 c hc
    omega

/-- What the objects added hold has been added with them. -/
theorem le_of_mem_below {before added : Shape} (h : Planted before.length added roots)
    {depth id c : Nat} (hid : before.length ≤ id) (hc : c ∈ (before ++ added).below depth id) :
    before.length ≤ c := by
  induction depth generalizing id with
  | zero => cases hc
  | succ depth ih =>
    rw [Shape.below, List.mem_flatMap] at hc
    obtain ⟨m, hm, hc⟩ := hc
    have le : before.length ≤ m := by
      rw [Shape.members, List.getElem?_append_right hid] at hm
      cases he : added[id - before.length]? with
      | none =>
        rw [he] at hm
        cases hm
      | some e =>
        rw [he] at hm
        exact ((h.getElem?_eq_some he).2 m hm).1
    rcases List.mem_cons.1 hc with rfl | hc
    · exact le
    · exact ih le hc

/-- Going through the trees from their roots meets every object once. -/
theorem perm {all : Shape} (hall : all.IsOrdered) (h : Planted base sh roots)
    (hin : ∀ k < sh.length, all[base + k]? = sh[k]?) :
    (all.trees roots).Perm (List.range' base sh.length) := by
  induction h with
  | nil => exact .nil
  | @tree base sh inner roots members _ _ ih ihi =>
    have trees := ih fun k hk => by
      rw [hin k (by simp; omega), List.append_assoc, List.getElem?_append_left hk]
    have inside := ihi fun k hk => by
      rw [Nat.add_assoc, hin (sh.length + k) (by simp; omega), List.append_assoc,
        List.getElem?_append_right (Nat.le_add_right ..), Nat.add_sub_cancel_left,
        List.getElem?_append_left hk]
    have root : all.members (base + sh.length + inner.length) = members := by
      have key := hin (sh.length + inner.length) (by simp)
      rw [← List.length_append, List.getElem?_concat_length, List.length_append,
        ← Nat.add_assoc] at key
      rw [Shape.members, key]
      rfl
    rw [Shape.trees_append, Shape.trees_singleton, Shape.below_self hall, root]
    rw [List.length_append, List.length_singleton, List.length_append, List.range'_1_concat,
      ← List.range'_append_1, List.append_assoc, ← Nat.add_assoc]
    exact trees.append ((inside.cons _).trans (List.perm_append_singleton _ _).symm)

end Planted

/-! ## Groups around everything -/

namespace Registry

variable {r : Registry K} {sh : Shape} {roots : List Nat}

/-- What the roots of a whole registry hold, and they themselves. -/
theorem trees_eq (h : Planted 0 r.shape roots) :
    (roots.flatMap fun id => id :: r.descendants id) = r.shape.trees roots := by
  refine List.flatMap_congr fun id hid => ?_
  have := h.mem_roots id hid
  rw [length_shape] at this
  rw [descendants, descendantsWithin_eq_below, Shape.below_of_le h.isOrdered (by omega)]

/-- A group around all the others holds all of them. -/
theorem descendants_group {id : Nat} (h : Planted 0 sh roots) (hr : r.shape = sh ++ [(id, roots)])
    (hid : id = sh.length) : r.descendants id = sh.trees roots := by
  subst hid
  have ordered : r.shape.IsOrdered := by
    have whole := h.group
    rw [Nat.zero_add, ← hr] at whole
    exact whole.isOrdered
  have members : r.shape.members sh.length = roots := by
    rw [Shape.members, hr, List.getElem?_concat_length]
    rfl
  have deep : sh.length ≤ r.arena.length := by
    rw [← length_shape, hr, List.length_append]
    exact Nat.le_add_right ..
  rw [descendants, descendantsWithin_eq_below, Shape.below_of_le ordered deep,
    Shape.below_self ordered, members]
  refine List.flatMap_congr fun id hid => ?_
  have hlt := h.mem_roots id hid
  rw [Shape.below_congr h.isOrdered fun i hi => ?_]
  rw [Shape.members, Shape.members, hr, List.getElem?_append_left (by omega)]

end Registry

/-- These are all the objects, each once. -/
theorem Planted.perm_range {sh : Shape} {roots : List Nat} (h : Planted 0 sh roots) :
    (sh.trees roots).Perm (List.range sh.length) := by
  rw [List.range_eq_range']
  exact perm h.isOrdered h fun k _ => by rw [Nat.zero_add]

end DiagramScript
