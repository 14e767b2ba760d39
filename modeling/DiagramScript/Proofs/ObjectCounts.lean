import DiagramScript.Number.Marked
import DiagramScript.Proofs.RunEvolution

/-!
# How objects are counted

References find objects by counting: the latest of a scope, the third of its class, the last but
one.  In every drawing that a run can come to, what is counted are the finished objects of the
scope, in the order in which they were added.

* `Registry.Counted` — the members of scopes and the numbers they have in their classes belong
  together; `Evolves.counted` says that this stays so.
* `Registry.FindsByCounting` — what references that count find in a scope.
* `Drawing.Reachable.finds_by_counting` — this is what they find at every point of a run.
-/

namespace DiagramScript

variable {K : Type}

theorem Scope.ofClass_enroll (sc : Scope K) (id : Nat) (cls other : ObjectClass)
    (label : Option String) : (sc.enroll id cls label).ofClass other =
      if other = cls then sc.ofClass other ++ [id] else sc.ofClass other := by
  unfold Scope.ofClass
  rw [show (sc.enroll id cls label).ordinals = addOrdinal id cls sc.ordinals from rfl]
  by_cases h : other = cls
  · subst h
    rw [if_pos rfl, lookup_addOrdinal_self]
    rfl
  · rw [if_neg h, lookup_addOrdinal_of_ne h]

/-- The object that is added to a class is the last of it. -/
theorem Scope.getElem?_ofClass_enroll {sc : Scope K} {id : Nat} {cls other : ObjectClass}
    {label : Option String} {k x : Nat}
    (h : ((sc.enroll id cls label).ofClass other)[k]? = some x) :
    (sc.ofClass other)[k]? = some x ∨ other = cls ∧ x = id ∧ k = (sc.ofClass cls).length := by
  rw [ofClass_enroll] at h
  by_cases hc : other = cls
  · subst hc
    rw [if_pos rfl] at h
    rcases Nat.lt_or_ge k (sc.ofClass other).length with hlt | hge
    · rw [List.getElem?_append_left hlt] at h
      exact .inl h
    · rw [List.getElem?_append_right hge, List.getElem?_singleton] at h
      split_ifs at h with hz
      cases h
      exact .inr ⟨rfl, rfl, by omega⟩
  · rw [if_neg hc] at h
    exact .inl h

namespace Registry

/-- Whether an object is of a class. -/
def isOfClass (r : Registry K) (cls : ObjectClass) (id : Nat) : Bool :=
  (r.arena[id]?).any (·.cls = cls)

/-! ## The invariant -/

/-- The members of scopes are finished objects, and each knows its place in its class. -/
structure Counted (r : Registry K) : Prop where
  /-- The number of an object is its place. -/
  numbered : ∀ {i st}, r.standing? i = some st → st.id = i
  /-- Members come in the order in which they were added. -/
  ascending : ∀ s, (r.scope s).members.Pairwise (· < ·)
  /-- They are finished objects. -/
  finished : ∀ {s id}, id ∈ (r.scope s).members →
    ∃ st, r.standing? id = some st ∧ st.finalized = true
  /-- No object is a member of two scopes. -/
  apart : ∀ {s s' id}, id ∈ (r.scope s).members → id ∈ (r.scope s').members → s = s'
  /-- The objects of a class are the members that are of the class. -/
  ofClass : ∀ s cls, (r.scope s).ofClass cls = (r.scope s).members.filter (r.isOfClass cls)
  /-- Each is counted by its place among them. -/
  ranked : ∀ {s cls k id}, ((r.scope s).ofClass cls)[k]? = some id →
    ∃ st, r.standing? id = some st ∧ st.ordinal = k + 1

namespace Counted

variable {r r' : Registry K}

theorem isOfClass_eq (cls : ObjectClass) {i : Nat} {st : Standing}
    (h : r.standing? i = some st) : r.isOfClass cls i = decide (st.cls = cls) := by
  obtain ⟨o, ho, rfl⟩ := r.standing?_eq_some.1 h
  rw [isOfClass, ho]
  rfl

/-- Members are there. -/
theorem lt (h : r.Counted) {s id : Nat} (hm : id ∈ (r.scope s).members) : id < r.arena.length := by
  obtain ⟨st, hst, -⟩ := h.finished hm
  exact r.lt_of_standing? hst

/-- Counting does not depend on what else is known of objects. -/
theorem of_same (h : r.Counted) (numbered : ∀ {i st}, r'.standing? i = some st → st.id = i)
    (members : ∀ s, (r'.scope s).members = (r.scope s).members)
    (ofClass : ∀ s cls, (r'.scope s).ofClass cls = (r.scope s).ofClass cls)
    (same : ∀ {i st}, r.standing? i = some st → ∃ st', r'.standing? i = some st' ∧
      st'.cls = st.cls ∧ st'.ordinal = st.ordinal ∧ st'.finalized = st.finalized) :
    r'.Counted where
  numbered := numbered
  ascending s := members s ▸ h.ascending s
  finished hm := by
    obtain ⟨st, hst, hf⟩ := h.finished (members _ ▸ hm)
    obtain ⟨st', hst', -, -, hf'⟩ := same hst
    exact ⟨st', hst', hf'.trans hf⟩
  apart hm hm' := h.apart (members _ ▸ hm) (members _ ▸ hm')
  ofClass s cls := by
    rw [ofClass, members, h.ofClass]
    refine List.filter_congr fun id hid => ?_
    obtain ⟨st, hst, -⟩ := h.finished hid
    obtain ⟨st', hst', hc, -⟩ := same hst
    rw [isOfClass_eq cls hst, isOfClass_eq cls hst', hc]
  ranked hk := by
    obtain ⟨st, hst, hn⟩ := h.ranked (ofClass _ _ ▸ hk)
    obtain ⟨st', hst', -, hn', -⟩ := same hst
    exact ⟨st', hst', hn'.trans hn⟩

theorem initial [Arith K] : (Registry.initial : Registry K).Counted := by
  have members : ∀ s, ((Registry.initial : Registry K).scope s).members = [] := fun s => by
    obtain ⟨bindings, hs⟩ := scope_initial (K := K) s
    rw [hs]
  have none : ∀ s cls, ((Registry.initial : Registry K).scope s).ofClass cls = [] := fun s cls => by
    obtain ⟨bindings, hs⟩ := scope_initial (K := K) s
    rw [hs]
    rfl
  constructor
  · intro i st h
    cases h
  · intro s
    rw [members]
    exact .nil
  · intro s id h
    rw [members] at h
    cases h
  · intro s s' id h
    rw [members] at h
    cases h
  · intro s cls
    rw [members, none]
    rfl
  · intro s cls k id h
    rw [none] at h
    cases h

/-- Whatever is done to scopes apart from their members. -/
theorem modifyScope (h : r.Counted) {f : Scope K → Scope K}
    (hm : ∀ sc, (f sc).members = sc.members) (ho : ∀ sc, (f sc).ordinals = sc.ordinals) (s : Nat) :
    (r.modifyScope s f).Counted := by
  refine h.of_same h.numbered (fun i => ?_) (fun i cls => ?_) fun hst => ⟨_, hst, rfl, rfl, rfl⟩
  · rw [scope_modifyScope]
    split_ifs
    · exact hm _
    · rfl
  · rw [scope_modifyScope]
    split_ifs
    · rw [Scope.ofClass, ho]
      rfl
    · rfl

theorem openScope (h : r.Counted) (s : Nat) : (r.openScope s).2.Counted := by
  refine h.of_same h.numbered (fun i => ?_) (fun i cls => ?_) fun hst => ⟨_, hst, rfl, rfl, rfl⟩
  · obtain ⟨parent, bindings, hs⟩ := r.exists_scope_openScope s i
    rw [hs]
  · obtain ⟨parent, bindings, hs⟩ := r.exists_scope_openScope s i
    rw [hs]
    rfl

/-- An object that has been added is no member yet. -/
theorem append (h : r.Counted) {o : Object K} (ho : o.id = r.arena.length) :
    (r.append o).Counted := by
  refine h.of_same ?_ (fun _ => rfl) (fun _ _ => rfl)
    fun hst => ⟨_, standing?_append hst, rfl, rfl, rfl⟩
  intro i st hst
  rcases standing?_append_cases hst with hst | ⟨rfl, rfl⟩
  · exact h.numbered hst
  · exact ho

/-- A finished object is the last of its scope and of its class. -/
theorem enroll (h : r.Counted) {s : Nat} {o : Object K}
    (new : o.standing = r.newcomer s o.cls o.label) : (r.enroll s o).Counted := by
  have number : o.id = r.arena.length := congrArg Standing.id new
  have earlier : ∀ {i id}, id ∈ (r.scope i).members → id < o.id := fun hm => number ▸ h.lt hm
  have latest := standing?_enroll new
  have known : ∀ cls, (r.enroll s o).isOfClass cls o.id = decide (o.cls = cls) := fun cls =>
    isOfClass_eq cls latest
  have added := h.append number
  have here := r.scope_enroll_cases s o
  constructor
  · exact added.numbered
  · intro i
    rcases here i with ⟨hi, rfl⟩ | hi
    · rw [hi]
      refine List.pairwise_append.2 ⟨h.ascending i, List.pairwise_singleton _ _, ?_⟩
      intro id hid last hlast
      rw [List.mem_singleton.1 hlast]
      exact earlier hid
    · rw [hi]
      exact h.ascending i
  · intro i id hm
    rcases mem_members_enroll hm with hm | ⟨rfl, -⟩
    · exact added.finished hm
    · exact ⟨_, latest, congrArg Standing.finalized new⟩
  · intro i j id hm hm'
    rcases mem_members_enroll hm with old | ⟨rfl, rfl⟩
    · rcases mem_members_enroll hm' with old' | ⟨rfl, rfl⟩
      · exact h.apart old old'
      · exact absurd (earlier old) (Nat.lt_irrefl _)
    · rcases mem_members_enroll hm' with old' | ⟨-, rfl⟩
      · exact absurd (earlier old') (Nat.lt_irrefl _)
      · rfl
  · intro i cls
    rcases here i with ⟨hi, rfl⟩ | hi
    · have old : (r.scope i).ofClass cls =
          (r.scope i).members.filter ((r.enroll i o).isOfClass cls) := added.ofClass i cls
      rw [hi, Scope.ofClass_enroll, show ((r.scope i).enroll o.id o.cls o.label).members =
        (r.scope i).members ++ [o.id] from rfl, List.filter_append, List.filter_singleton, known,
        ← old]
      by_cases hc : cls = o.cls
      · simp [hc]
      · simp [hc, Ne.symm hc]
    · rw [hi]
      exact added.ofClass i cls
  · intro i cls k id hk
    rcases here i with ⟨hi, rfl⟩ | hi
    · rw [hi] at hk
      rcases Scope.getElem?_ofClass_enroll hk with old | ⟨rfl, rfl, rfl⟩
      · exact added.ranked old
      · exact ⟨_, latest, congrArg Standing.ordinal new⟩
    · rw [hi] at hk
      exact added.ranked hk

/-- Giving an object members counts no object anew. -/
theorem groups (h : r.Counted) {first group inner : Nat} (hg : Groups first group inner r r') :
    r'.Counted := by
  refine h.of_same (fun {i st} hst => ?_) (fun i => by rw [hg.scope_eq])
    (fun i cls => by rw [hg.scope_eq]) fun {i st} hst => ?_
  · rw [hg.standing] at hst
    obtain ⟨old, hold, rfl⟩ := Option.map_eq_some_iff.1 hst
    exact (h.numbered hold : old.id = i)
  · rw [hg.standing, hst]
    exact ⟨_, rfl, rfl, rfl, rfl⟩

end Counted

/-- Objects stay counted, whatever statements do. -/
theorem Evolves.counted [Arith K] {s : Nat} {r r' : Registry K} (h : Evolves s r r')
    (hr : r.Counted) : r'.Counted := by
  induction h with
  | refl => exact hr
  | trans _ _ ih ih' => exact ih' (ih hr)
  | assign s r name value => refine hr.modifyScope (fun _ => ?_) (fun _ => ?_) s <;> rfl
  | place _ p => refine hr.modifyScope (fun _ => ?_) (fun _ => ?_) _ <;> rfl
  | create s r cls direction => exact hr.append rfl
  | declare new _ => exact hr.enroll new
  | body _ ih => exact ih (hr.openScope _)
  | group _ new _ groups ih =>
    have inside := ih (hr.openScope _)
    exact (inside.enroll (newcomer_self new)).groups groups

/-! ## What counting finds -/

/-- The members of a scope that are of a class. -/
def membersOfClass (r : Registry K) (s : Nat) (cls : ObjectClass) : List Nat :=
  (r.scope s).members.filter (r.isOfClass cls)

section Lookup

variable {r : Registry K} {s : Nat} {cls : ObjectClass} {n : Int} {fromLast : Bool}

theorem resolveOrdinal_eq_ok {id : Nat} : r.resolveOrdinal s cls n fromLast = .ok id ↔ 1 ≤ n ∧
    (if fromLast then ((r.scope s).ofClass cls).reverse else (r.scope s).ofClass cls)[
      (n - 1).toNat]? = some id := by
  unfold resolveOrdinal
  by_cases hn : 1 ≤ n
  · simp only [hn, if_true, true_and]
    split
    · rename_i i hi
      rw [hi]
      simp
    · rename_i hi
      rw [hi]
      simp
  · simp [hn]

theorem length_counted (ids : List Nat) :
    (if fromLast then ids.reverse else ids).length = ids.length := by
  split_ifs
  · exact List.length_reverse
  · rfl

/-- Counting finds something within the class. -/
theorem exists_resolveOrdinal_eq_ok : (∃ id, r.resolveOrdinal s cls n fromLast = .ok id) ↔
    1 ≤ n ∧ n ≤ ((r.scope s).ofClass cls).length := by
  simp only [resolveOrdinal_eq_ok]
  constructor
  · rintro ⟨id, hn, hid⟩
    have := (List.getElem?_eq_some_iff.1 hid).1
    rw [length_counted] at this
    omega
  · rintro ⟨hn, hle⟩
    exact ⟨_, hn, List.getElem?_eq_getElem (by rw [length_counted]; omega)⟩

/-- Counting fails outside the class, and in one way only. -/
theorem resolveOrdinal_eq_error :
    r.resolveOrdinal s cls n fromLast = .error (.reference (.ordinalOutOfRange n cls fromLast
      ((r.scope s).ofClass cls).length)) ↔ n < 1 ∨ ((r.scope s).ofClass cls).length < n := by
  have found : (∃ id, r.resolveOrdinal s cls n fromLast = .ok id) ↔
      1 ≤ n ∧ n ≤ ((r.scope s).ofClass cls).length := exists_resolveOrdinal_eq_ok
  have fails : (∃ id, r.resolveOrdinal s cls n fromLast = .ok id) ∨
      r.resolveOrdinal s cls n fromLast = .error (.reference (.ordinalOutOfRange n cls fromLast
        ((r.scope s).ofClass cls).length)) := by
    unfold resolveOrdinal
    dsimp only
    split
    · exact .inl ⟨_, rfl⟩
    · exact .inr rfl
  rcases fails with ⟨id, hid⟩ | he
  · have := found.1 ⟨id, hid⟩
    rw [hid]
    simp only [reduceCtorEq, false_iff]
    omega
  · rw [he] at found ⊢
    simp only [reduceCtorEq, exists_false, false_iff] at found
    simp only [true_iff]
    omega

/-- Counting from the last is counting from the first. -/
theorem resolveOrdinal_fromLast : (r.resolveOrdinal s cls n true).toOption =
    (r.resolveOrdinal s cls (((r.scope s).ofClass cls).length + 1 - n) false).toOption := by
  have ok_iff : ∀ (x : Except Failure Nat) id, x.toOption = some id ↔ x = .ok id := by
    intro x id
    cases x <;> simp [Except.toOption]
  refine Option.ext fun id => ?_
  rw [ok_iff, ok_iff, resolveOrdinal_eq_ok, resolveOrdinal_eq_ok]
  by_cases hn : 1 ≤ n ∧ n ≤ ((r.scope s).ofClass cls).length
  · have mirrored : ((r.scope s).ofClass cls).length - 1 - (n - 1).toNat =
        ((((r.scope s).ofClass cls).length : Int) + 1 - n - 1).toNat := by
      omega
    rw [if_pos rfl, if_neg Bool.false_ne_true, List.getElem?_reverse (by omega), mirrored]
    exact and_congr_left fun _ => by omega
  · constructor
    · rintro ⟨h, hi⟩
      have := (List.getElem?_eq_some_iff.1 hi).1
      rw [if_pos rfl, List.length_reverse] at this
      omega
    · rintro ⟨h, hi⟩
      have := (List.getElem?_eq_some_iff.1 hi).1
      rw [if_neg Bool.false_ne_true] at this
      omega

theorem previous_eq_ok {id : Nat} :
    r.previous s = .ok id ↔ (r.scope s).members.getLast? = some id := by
  unfold previous
  cases (r.scope s).members.getLast? <;> simp

theorem previous_eq_error :
    r.previous s = .error (.reference .noPrevious) ↔ (r.scope s).members = [] := by
  unfold previous
  rw [← List.getLast?_eq_none_iff]
  cases (r.scope s).members.getLast? <;> simp

end Lookup

/-- What references that count find in a scope. -/
structure FindsByCounting (r : Registry K) (s : Nat) : Prop where
  /-- The members of the scope stand in the order of their numbers. -/
  ascending : (r.scope s).members.Pairwise (· < ·)
  /-- None of them stands there twice. -/
  distinct : (r.scope s).members.Nodup
  /-- They are finished. -/
  finished : ∀ id ∈ (r.scope s).members,
    ∃ o, r.arena[id]? = some o ∧ o.id = id ∧ o.finalized = true
  /-- What is kept for a class are its members in the order of the scope. -/
  ofClass : ∀ cls, (r.scope s).ofClass cls = r.membersOfClass s cls
  /-- Each is counted by its place among them. -/
  ranked : ∀ cls k id, (r.membersOfClass s cls)[k]? = some id →
    ∃ o, r.arena[id]? = some o ∧ o.ordinal = k + 1
  /-- The `n`-th of a class is the `n`-th of its members. -/
  nth : ∀ cls n id, r.resolveOrdinal s cls n false = .ok id ↔
    1 ≤ n ∧ (r.membersOfClass s cls)[(n - 1).toNat]? = some id
  /-- Counting from the last is counting from the first. -/
  fromLast : ∀ cls n, (r.resolveOrdinal s cls n true).toOption =
    (r.resolveOrdinal s cls ((r.membersOfClass s cls).length + 1 - n) false).toOption
  /-- Both find nothing exactly if the number is too small or too large. -/
  outOfRange : ∀ cls n fromLast, r.resolveOrdinal s cls n fromLast =
    .error (.reference (.ordinalOutOfRange n cls fromLast (r.membersOfClass s cls).length)) ↔
      n < 1 ∨ (r.membersOfClass s cls).length < n
  /-- Otherwise they find something. -/
  inRange : ∀ cls n fromLast, (∃ id, r.resolveOrdinal s cls n fromLast = .ok id) ↔
    1 ≤ n ∧ n ≤ (r.membersOfClass s cls).length
  /-- The latest object is the last member. -/
  latest : ∀ id, r.previous s = .ok id ↔ (r.scope s).members.getLast? = some id
  /-- There is none exactly if the scope has no members. -/
  noLatest : r.previous s = .error (.reference .noPrevious) ↔ (r.scope s).members = []
  /-- Nothing is found but finished objects of the scope, which are in no other. -/
  own : ∀ id, (r.previous s = .ok id ∨
      ∃ cls n fromLast, r.resolveOrdinal s cls n fromLast = .ok id) →
    id ∈ (r.scope s).members ∧ (∃ o, r.arena[id]? = some o ∧ o.finalized = true) ∧
      ∀ other ≠ s, id ∉ (r.scope other).members

theorem Counted.lookups {r : Registry K} (h : r.Counted) (s : Nat) :
    r.FindsByCounting s := by
  have ofClass : ∀ cls, (r.scope s).ofClass cls = r.membersOfClass s cls := h.ofClass s
  have object : ∀ {id st}, r.standing? id = some st →
      ∃ o, r.arena[id]? = some o ∧ o.standing = st := fun hst => (r.standing?_eq_some).1 hst
  have counted : ∀ {cls n fromLast id}, r.resolveOrdinal s cls n fromLast = .ok id →
      id ∈ r.membersOfClass s cls := by
    intro cls n fromLast id hid
    obtain ⟨-, hid⟩ := resolveOrdinal_eq_ok.1 hid
    have := List.mem_of_getElem? hid
    rw [← ofClass]
    split_ifs at this
    · exact List.mem_reverse.1 this
    · exact this
  constructor
  · exact h.ascending s
  · exact (h.ascending s).imp Nat.ne_of_lt
  · intro id hm
    obtain ⟨st, hst, hf⟩ := h.finished hm
    obtain ⟨o, ho, rfl⟩ := object hst
    exact ⟨o, ho, h.numbered hst, hf⟩
  · exact ofClass
  · intro cls k id hk
    obtain ⟨st, hst, hn⟩ := h.ranked (ofClass cls ▸ hk)
    obtain ⟨o, ho, rfl⟩ := object hst
    exact ⟨o, ho, hn⟩
  · intro cls n id
    rw [← ofClass]
    exact resolveOrdinal_eq_ok
  · intro cls n
    rw [← ofClass]
    exact resolveOrdinal_fromLast
  · intro cls n fromLast
    rw [← ofClass]
    exact resolveOrdinal_eq_error
  · intro cls n fromLast
    rw [← ofClass]
    exact exists_resolveOrdinal_eq_ok
  · intro id
    exact previous_eq_ok
  · exact previous_eq_error
  · intro id hid
    have mem : id ∈ (r.scope s).members := by
      rcases hid with hid | ⟨cls, n, fromLast, hid⟩
      · exact List.mem_of_getLast? (previous_eq_ok.1 hid)
      · exact (List.mem_filter.1 (counted hid)).1
    obtain ⟨st, hst, hf⟩ := h.finished mem
    obtain ⟨o, ho, rfl⟩ := object hst
    exact ⟨mem, ⟨o, ho, hf⟩, fun other hne hm => hne (h.apart hm mem)⟩

end Registry

namespace Drawing.Reachable

variable [Arith K] {t : Resources K} {d : Drawing K}

theorem counted (h : d.Reachable t) : d.registry.Counted := by
  induction h with
  | initial => exact .initial
  | execute h s ih => exact (execute_evolves s h.scope_lt).registry.counted ih
  | enter _ _ ih => exact ih.openScope _

/-- Wherever a run comes to, references that count find in every scope what stands there. -/
theorem finds_by_counting (h : d.Reachable t) (s : Nat) : d.registry.FindsByCounting s :=
  h.counted.lookups s

/-- A box, a circle that fails, a group with a box in it, and a box.  The circle and the box in the
group are not found. -/
theorem finds_last_box : ∃ d : Drawing MachineNumber, d.Reachable Resources.standard ∧
    d.registry.finished.map (·.id) = [0, 2, 3, 4] ∧ (d.registry.scope 0).members = [0, 3, 4] ∧
    (d.registry.resolveOrdinal 0 .box 1 true).toOption = some 4 ∧
    (d.registry.resolveOrdinal 0 .circle 1 false).toOption = none ∧
    d.registry.FindsByCounting 0 := by
  let ss : List Statement :=
    [.object ⟨1, 1⟩ .box none [], .object ⟨2, 1⟩ .circle none [⟨⟨2, 8⟩, .next⟩],
      .group ⟨3, 1⟩ [.object ⟨3, 2⟩ .box none []] none [], .object ⟨4, 1⟩ .box none []]
  have reached := (Reachable.initial (K := MachineNumber) (t := Resources.standard)).foldl ss
  refine ⟨_, reached, ?_, ?_, ?_, ?_, reached.finds_by_counting 0⟩ <;> decide +kernel

end Drawing.Reachable

end DiagramScript
