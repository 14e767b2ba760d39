import DiagramScript.Proofs.Labels
import DiagramScript.Proofs.ObjectForest
import DiagramScript.Proofs.ScanSteps

/-!
# What labels mean

A label is looked up from the scope of the reference outward, and the innermost scope that knows it
decides, whether it names an object there or a point.  A member of a group is looked up in the group
only.

* `Registry.Innermost` — the scope that decides what a label means.
* `Registry.Verdict`, `Registry.Labelled.verdict` — what is found for a label.
* `Registry.IsLexical` — what labels and references to members mean.
* `Diagram.FindsLabels` — what labels mean in a finished diagram.
* `labels_lexical` — labels mean this in every run.
-/

namespace DiagramScript

variable {K : Type}

namespace Registry

variable {r : Registry K} {label : String} {s : Nat}

/-! ## Looking outward -/

theorem find_cons_of_taken {sc : Scope K} (h : sc.isTaken label = true) (outer : List (Scope K)) :
    findLabel label (sc :: outer) = findLabel label [sc] ∧
      findPlace label (sc :: outer) = findPlace label [sc] := by
  unfold Scope.isTaken at h
  cases hl : sc.labels.lookup label with
  | some id => simp [findLabel, findPlace, hl]
  | none =>
    cases hp : sc.places.lookup label with
    | some p => simp [findLabel, findPlace, hl, hp]
    | none =>
      rw [hl, hp] at h
      cases h

theorem find_cons_of_free {sc : Scope K} (h : sc.isTaken label = false) (outer : List (Scope K)) :
    findLabel label (sc :: outer) = findLabel label outer ∧
      findPlace label (sc :: outer) = findPlace label outer := by
  obtain ⟨hl, hp⟩ := Scope.isTaken_eq_false.1 h
  simp [findLabel, findPlace, hl, hp]

theorem enclosing_of_le (h : r.scopes.length ≤ s) : r.enclosing s = [] := by
  rw [enclosing, List.getElem?_eq_none h]

/-- A scope comes first, and then what is around it. -/
theorem Nested.enclosing_eq (h : r.Nested) (hs : s < r.scopes.length) :
    r.enclosing s = r.scope s :: ((r.scope s).parent.map r.enclosing).getD [] := by
  have here : r.scope s = r.scopes[s] := by
    rw [scope, List.getElem?_eq_getElem hs]
    rfl
  rw [enclosing, List.getElem?_eq_getElem hs, here]
  cases hp : r.scopes[s].parent with
  | none => simp [hp]
  | some p =>
    have hlt : p < s := h.outward (here ▸ hp)
    simp [hp, hlt]

/-- Whether a scope is the innermost one that knows a label, from another outward. -/
inductive Innermost (r : Registry K) (label : String) : Nat → Nat → Prop where
  /-- The scope itself knows it. -/
  | here {s : Nat} (h : (r.scope s).isTaken label = true) : Innermost r label s s
  /-- It does not, and this is the innermost from the scope around it. -/
  | outward {s p i : Nat} (h : (r.scope s).isTaken label = false)
    (hp : (r.scope s).parent = some p) (hi : Innermost r label p i) : Innermost r label s i

namespace Innermost

variable {i j : Nat}

theorem taken (h : r.Innermost label s i) : (r.scope i).isTaken label = true := by
  induction h with
  | here h => exact h
  | outward _ _ _ ih => exact ih

/-- No other scope decides. -/
theorem unique (h : r.Innermost label s i) (h' : r.Innermost label s j) : i = j := by
  induction h with
  | here h =>
    cases h' with
    | here _ => rfl
    | outward free _ _ =>
      rw [h] at free
      cases free
  | outward h hp _ ih =>
    cases h' with
    | here taken =>
      rw [h] at taken
      cases taken
    | outward _ hp' hj =>
      cases hp.symm.trans hp'
      exact ih hj

/-- There is nothing around the top level. -/
theorem eq_top (hn : r.Nested) (h : r.Innermost label 0 i) : i = 0 := by
  cases h with
  | here _ => rfl
  | outward _ hp _ => exact absurd (hn.outward hp) (Nat.not_lt_zero _)

/-- What is found is what the innermost scope says. -/
theorem find_eq (hn : r.Nested) (h : r.Innermost label s i) :
    findLabel label (r.enclosing s) = findLabel label [r.scope i] ∧
      findPlace label (r.enclosing s) = findPlace label [r.scope i] := by
  have known : ∀ {s}, ¬ r.scopes.length ≤ s → r.enclosing s =
      r.scope s :: ((r.scope s).parent.map r.enclosing).getD [] := fun hs =>
    hn.enclosing_eq (Nat.lt_of_not_le hs)
  induction h with
  | @here s h =>
    have hs : ¬ r.scopes.length ≤ s := fun hs => by
      rw [scope_of_le r hs] at h
      cases h
    rw [known hs]
    exact find_cons_of_taken h _
  | @outward s p i h hp _ ih =>
    have hs : ¬ r.scopes.length ≤ s := fun hs => by
      rw [scope_of_le r hs] at hp
      cases hp
    rw [known hs, hp]
    obtain ⟨hl, hq⟩ := find_cons_of_free h (r.enclosing p)
    exact ⟨hl.trans ih.1, hq.trans ih.2⟩

end Innermost

/-- Nothing is found if no scope knows the label. -/
theorem Nested.find_of_unknown (hn : r.Nested) (h : ∀ i, ¬ r.Innermost label s i) :
    findLabel label (r.enclosing s) = .error (.unknownLabel label) ∧
      findPlace label (r.enclosing s) = none := by
  induction s using Nat.strongRecOn with
  | ind s ih =>
    by_cases hs : r.scopes.length ≤ s
    · rw [enclosing_of_le hs]
      exact ⟨rfl, rfl⟩
    · have free : (r.scope s).isTaken label = false :=
        Bool.eq_false_iff.2 fun taken => h s (.here taken)
      rw [hn.enclosing_eq (Nat.lt_of_not_le hs)]
      obtain ⟨hl, hp⟩ := find_cons_of_free free (((r.scope s).parent.map r.enclosing).getD [])
      rw [hl, hp]
      cases hp : (r.scope s).parent with
      | none => exact ⟨rfl, rfl⟩
      | some p => exact ih p (hn.outward hp) fun i hi => h i (.outward free hp hi)

/-! ## What is found -/

/-- What is found for a label from a scope. -/
inductive Verdict (r : Registry K) (s : Nat) (label : String) : Prop where
  /-- The deciding scope knows an object. -/
  | object (i id : Nat) (decides : r.Innermost label s i)
    (known : (r.scope i).labels.lookup label = some id)
    (apart : (r.scope i).places.lookup label = none)
    (found : r.resolveLabel s label false = .ok id) (point : r.resolvePlace s label = none)
  /-- The deciding scope knows a point. -/
  | point (i : Nat) (p : Point K) (decides : r.Innermost label s i)
    (known : (r.scope i).places.lookup label = some p)
    (apart : (r.scope i).labels.lookup label = none)
    (found : r.resolvePlace s label = some p)
    (object : r.resolveLabel s label false = .error (.reference (.namesPlace label)))
  /-- No scope decides. -/
  | nothing (unknown : ∀ i, ¬ r.Innermost label s i)
    (object : r.resolveLabel s label false = .error (.reference (.unknownLabel label)))
    (point : r.resolvePlace s label = none)

theorem Labelled.verdict (hl : r.Labelled) (hn : r.Nested) (s : Nat) (label : String) :
    r.Verdict s label := by
  by_cases h : ∃ i, r.Innermost label s i
  · obtain ⟨i, hi⟩ := h
    obtain ⟨labels, places⟩ := hi.find_eq hn
    have taken := hi.taken
    unfold Scope.isTaken at taken
    cases known : (r.scope i).labels.lookup label with
    | some id =>
      refine .object i id hi known (hl.apart known) ?_ ?_
      · rw [resolveLabel, if_neg Bool.false_ne_true, labels, findLabel, known]
        rfl
      · rw [resolvePlace, places, findPlace, known]
    | none =>
      cases point : (r.scope i).places.lookup label with
      | none =>
        rw [known, point] at taken
        cases taken
      | some p =>
        refine .point i p hi point known ?_ ?_
        · rw [resolvePlace, places, findPlace, known, point]
        · rw [resolveLabel, if_neg Bool.false_ne_true, labels, findLabel, known, point]
          rfl
  · have unknown : ∀ i, ¬ r.Innermost label s i := fun i hi => h ⟨i, hi⟩
    obtain ⟨labels, places⟩ := hn.find_of_unknown unknown
    refine .nothing unknown ?_ places
    rw [resolveLabel, if_neg Bool.false_ne_true, labels]
    rfl

/-- A label for which no object is found. -/
def LacksObject (r : Registry K) (s : Nat) (label : String) : Prop :=
  ∃ e, r.resolveLabel s label false = .error (.reference e) ∧ e.kind = .unknownLabel

/-- A label that names an object. -/
def NamesObject (r : Registry K) (s : Nat) (label : String) : Prop :=
  (∃ id, r.resolveLabel s label false = .ok id) ∧ r.resolvePlace s label = none

/-- A label that names a point. -/
def NamesPoint (r : Registry K) (s : Nat) (label : String) : Prop :=
  (∃ p, r.resolvePlace s label = some p) ∧ r.LacksObject s label

/-- A label that names nothing. -/
def NamesNothing (r : Registry K) (s : Nat) (label : String) : Prop :=
  r.LacksObject s label ∧ r.resolvePlace s label = none

theorem NamesObject.not_lacksObject (h : r.NamesObject s label) : ¬ r.LacksObject s label := by
  rintro ⟨e, he, -⟩
  obtain ⟨⟨id, hid⟩, -⟩ := h
  rw [hid] at he
  cases he

theorem NamesPoint.resolvePlace_ne (h : r.NamesPoint s label) : r.resolvePlace s label ≠ none := by
  obtain ⟨⟨p, hp⟩, -⟩ := h
  rw [hp]
  exact Option.some_ne_none p

namespace Verdict

theorem resolveLabel_eq_ok (h : r.Verdict s label) {id : Nat} :
    r.resolveLabel s label false = .ok id ↔
      ∃ i, r.Innermost label s i ∧ (r.scope i).labels.lookup label = some id := by
  constructor
  · intro hid
    cases h with
    | object i j decides known _ found _ =>
      cases hid.symm.trans found
      exact ⟨i, decides, known⟩
    | point _ _ _ _ _ _ object => cases hid.symm.trans object
    | nothing _ object _ => cases hid.symm.trans object
  · rintro ⟨i, hi, hid⟩
    cases h with
    | object j id' decides known _ found _ =>
      cases decides.unique hi
      cases known.symm.trans hid
      exact found
    | point j _ decides _ apart _ _ =>
      cases decides.unique hi
      cases apart.symm.trans hid
    | nothing unknown _ _ => exact absurd hi (unknown i)

theorem resolvePlace_eq_some (h : r.Verdict s label) {p : Point K} :
    r.resolvePlace s label = some p ↔
      ∃ i, r.Innermost label s i ∧ (r.scope i).places.lookup label = some p := by
  constructor
  · intro hp
    cases h with
    | object _ _ _ _ _ _ point => cases hp.symm.trans point
    | point i q decides known _ found _ =>
      cases hp.symm.trans found
      exact ⟨i, decides, known⟩
    | nothing _ _ point => cases hp.symm.trans point
  · rintro ⟨i, hi, hp⟩
    cases h with
    | object j _ decides _ apart _ _ =>
      cases decides.unique hi
      cases apart.symm.trans hp
    | point j q decides known _ found _ =>
      cases decides.unique hi
      cases known.symm.trans hp
      exact found
    | nothing unknown _ _ => exact absurd hi (unknown i)

theorem namesNothing_iff (h : r.Verdict s label) :
    r.NamesNothing s label ↔ ∀ i, ¬ r.Innermost label s i := by
  constructor
  · intro lacks i hi
    cases h with
    | object _ id _ _ _ found point =>
      exact NamesObject.not_lacksObject ⟨⟨id, found⟩, point⟩ lacks.1
    | point _ p _ _ _ found _ => cases found.symm.trans lacks.2
    | nothing unknown _ _ => exact unknown i hi
  · intro unknown
    cases h with
    | object i _ decides _ _ _ _ => exact absurd decides (unknown i)
    | point i _ decides _ _ _ _ => exact absurd decides (unknown i)
    | nothing _ object point => exact ⟨⟨_, object, rfl⟩, point⟩

end Verdict

/-! ## Members of groups -/

theorem mem_attached_of_scopeOf {id : Nat} (h : r.scopeOf id = .ok s) : (id, s) ∈ r.attached := by
  unfold scopeOf at h
  cases hs : r.attached.lookup id with
  | none =>
    rw [hs] at h
    obtain ⟨o, -, he⟩ := exists_of_bind_eq_ok h
    cases he
  | some i =>
    rw [hs] at h
    cases h
    obtain ⟨before, after, hb, -⟩ := List.lookup_eq_some_iff.1 hs
    rw [hb]
    exact List.mem_append_right _ List.mem_cons_self

/-- What is picked in one scope only is a member of it. -/
theorem Labelled.mem_of_select (hl : r.Labelled) (hc : r.Counted) {sel : Selector} {id : Nat}
    (h : View.select r s true sel = .ok id) : id ∈ (r.scope s).members := by
  cases sel with
  | ordinal cls n fromLast => exact ((hc.lookups s).own id (.inr ⟨cls, n, fromLast, h⟩)).1
  | label name =>
    rw [View.select, resolveLabel, if_pos rfl, findLabel] at h
    cases known : (r.scope s).labels.lookup name with
    | some i =>
      rw [known] at h
      cases h
      exact (hl.object known).1
    | none =>
      rw [known] at h
      cases hp : (r.scope s).places.lookup name with
      | none =>
        rw [hp] at h
        cases h
      | some p =>
        rw [hp] at h
        cases h

/-- A member of a group is found in the group and nowhere else. -/
theorem exists_parent_of_follow (hl : r.Labelled) (hc : r.Counted) (hn : r.Nested)
    {pos memberPos : SourcePos} {group : ObjectRef} {sel : Selector} {id : Nat}
    (h : View.follow r s (.member pos group memberPos sel) = .ok id) :
    ∃ g o, View.follow r s group = .ok g ∧ r.arena[id]? = some o ∧ o.parent = some g := by
  rw [View.follow] at h
  obtain ⟨g, hg, h⟩ := exists_of_bind_eq_ok h
  obtain ⟨inner, hi, h⟩ := exists_of_bind_eq_ok h
  have known := hn.known (mem_attached_of_scopeOf hi) (hl.mem_of_select hc h)
  obtain ⟨o, ho, hp⟩ := r.exists_standing?_iff.1 known
  exact ⟨g, o, hg, ho, hp⟩

/-! ## What labels mean -/

/-- What labels and references to members mean in all scopes. -/
structure IsLexical (r : Registry K) : Prop where
  /-- No label of a scope names both an object and a point. -/
  apart : ∀ s label, (r.scope s).labels.lookup label = none ∨ (r.scope s).places.lookup label = none
  /-- The objects that the labels of a scope name are members of it, and have these labels. -/
  own : ∀ s label id, (r.scope s).labels.lookup label = some id →
    id ∈ (r.scope s).members ∧ ∃ o, r.arena[id]? = some o ∧ o.label = some label
  /-- Different labels of a scope name different objects. -/
  different : ∀ s label other id, (r.scope s).labels.lookup label = some id →
    (r.scope s).labels.lookup other = some id → label = other
  /-- An object is found if the innermost scope that knows the label knows it as that of an
  object. -/
  object : ∀ s label id, r.resolveLabel s label false = .ok id ↔
    ∃ i, r.Innermost label s i ∧ (r.scope i).labels.lookup label = some id
  /-- A point is found if this scope knows the label as that of a point. -/
  point : ∀ s label p, r.resolvePlace s label = some p ↔
    ∃ i, r.Innermost label s i ∧ (r.scope i).places.lookup label = some p
  /-- Nothing is found if there is no such scope. -/
  nothing : ∀ s label, r.NamesNothing s label ↔ ∀ i, ¬ r.Innermost label s i
  /-- A label names an object, or a point, or nothing. -/
  verdict : ∀ s label, r.NamesObject s label ∨ r.NamesPoint s label ∨ r.NamesNothing s label
  /-- It does not name two of these. -/
  single : ∀ s label, ¬ (r.NamesObject s label ∧ r.NamesPoint s label) ∧
    ¬ (r.NamesObject s label ∧ r.NamesNothing s label) ∧
    ¬ (r.NamesPoint s label ∧ r.NamesNothing s label)
  /-- What is found as a member of a group has this group as its own. -/
  member : ∀ s pos group memberPos sel id,
    View.follow r s (.member pos group memberPos sel) = .ok id →
    ∃ g o, View.follow r s group = .ok g ∧ r.arena[id]? = some o ∧ o.parent = some g

theorem isLexical (hl : r.Labelled) (hc : r.Counted) (hn : r.Nested) : r.IsLexical := by
  constructor
  · intro s label
    cases known : (r.scope s).labels.lookup label with
    | none => exact .inl rfl
    | some id => exact .inr (hl.apart known)
  · intro s label id known
    obtain ⟨hm, standing⟩ := hl.object known
    exact ⟨hm, r.exists_standing?_iff.1 standing⟩
  · intro s label other id known known'
    obtain ⟨-, st, hst, hlabel⟩ := hl.object known
    obtain ⟨-, st', hst', hother⟩ := hl.object known'
    cases hst.symm.trans hst'
    exact Option.some.inj (hlabel.symm.trans hother)
  · intro s label id
    exact (hl.verdict hn s label).resolveLabel_eq_ok
  · intro s label p
    exact (hl.verdict hn s label).resolvePlace_eq_some
  · intro s label
    exact (hl.verdict hn s label).namesNothing_iff
  · intro s label
    cases hl.verdict hn s label with
    | object i id _ _ _ found point => exact .inl ⟨⟨id, found⟩, point⟩
    | point i p _ _ _ found object => exact .inr (.inl ⟨⟨p, found⟩, _, object, rfl⟩)
    | nothing _ object point => exact .inr (.inr ⟨⟨_, object, rfl⟩, point⟩)
  · intro s label
    refine ⟨fun h => ?_, fun h => ?_, fun h => ?_⟩
    · exact h.1.not_lacksObject h.2.2
    · exact h.1.not_lacksObject h.2.1
    · exact h.1.resolvePlace_ne h.2.2
  · intro s pos group memberPos sel id h
    exact exists_parent_of_follow hl hc hn h

end Registry

/-! ## Runs and diagrams -/

/-- What labels mean in a diagram: what the top level says of them. -/
structure Diagram.FindsLabels (d : Diagram K) : Prop where
  /-- The object with a label is the one that a reference finds. -/
  found : ∀ label o, d.find? label = some o ↔
    ∃ id, d.registry.resolveLabel 0 label false = .ok id ∧ d.object? id = some o
  /-- There is none exactly if a reference finds none. -/
  missing : ∀ label, d.find? label = none ↔
    ∃ e, d.registry.resolveLabel 0 label false = .error e

theorem Diagram.findsLabels {d : Diagram K} (hl : d.registry.Labelled) (hc : d.registry.Counted)
    (hn : d.registry.Nested) : d.FindsLabels := by
  -- at the top level, references look nowhere else
  have top : ∀ {label id}, d.registry.resolveLabel 0 label false = .ok id ↔
      (d.registry.scope 0).labels.lookup label = some id := by
    intro label id
    rw [(hl.verdict hn 0 label).resolveLabel_eq_ok]
    constructor
    · rintro ⟨i, hi, known⟩
      rw [← hi.eq_top hn]
      exact known
    · intro known
      refine ⟨0, .here ?_, known⟩
      rw [Scope.isTaken, known]
      rfl
  have resolved : ∀ {label o}, d.find? label = some o →
      ∃ id, d.registry.resolveLabel 0 label false = .ok id ∧ d.object? id = some o := by
    intro label o h
    obtain ⟨ho, hm⟩ := hc.mem_objects_iff.1 (List.mem_of_find?_eq_some h)
    have here := hc.mem_arena.1 ho
    have standing := (d.registry.standing?_eq_some).2 ⟨o, here, rfl⟩
    have named : o.label = some label := by simpa using List.find?_some h
    exact ⟨o.id, top.2 (hl.known hm standing named), here⟩
  have exists_find : ∀ {label id}, d.registry.resolveLabel 0 label false = .ok id →
      ∃ o, d.find? label = some o := by
    intro label id h
    obtain ⟨hm, known⟩ := hl.object (top.1 h)
    obtain ⟨o, ho, named⟩ := d.registry.exists_standing?_iff.1 known
    refine Option.isSome_iff_exists.1 (List.find?_isSome.2 ⟨o, ?_, ?_⟩)
    · exact Registry.mem_objects.2 ⟨id, hm, ho⟩
    · exact beq_iff_eq.2 named
  constructor
  · intro label o
    refine ⟨resolved, ?_⟩
    rintro ⟨id, hid, ho⟩
    obtain ⟨o', ho'⟩ := exists_find hid
    obtain ⟨id', hid', same⟩ := resolved ho'
    cases hid.symm.trans hid'
    cases ho.symm.trans same
    exact ho'
  · intro label
    constructor
    · intro none
      cases hid : d.registry.resolveLabel 0 label false with
      | error e => exact ⟨e, rfl⟩
      | ok id =>
        obtain ⟨o, ho⟩ := exists_find hid
        cases none.symm.trans ho
    · rintro ⟨e, he⟩
      cases ho : d.find? label with
      | none => rfl
      | some o =>
        obtain ⟨id, hid, -⟩ := resolved ho
        cases he.symm.trans hid

/-- Wherever a run comes to, and in the diagram that a script draws, labels mean what the innermost
scope that knows them says. -/
theorem labels_lexical [Arith K] (t : Resources K) :
    (∀ d : Drawing K, d.Reachable t → d.registry.IsLexical) ∧
      ∀ source d, Diagram.compile t source = .ok d → d.FindsLabels := by
  constructor
  · intro d h
    exact Registry.isLexical h.labelled h.counted h.nested.1
  · intro source d h
    obtain ⟨ss, e, -, hr, rfl⟩ := Diagram.compile_eq_ok.1 h
    have reached := (Drawing.Reachable.initial (t := t)).run ss
    rw [hr] at reached
    exact Diagram.findsLabels reached.labelled reached.counted reached.nested.1

/-- A label of an object that names a point in a group, and the other way round; and a label that
names an object at the top level and another one in a group. -/
theorem labels_shadowed : ∃ (d : Drawing MachineNumber) (dg : Diagram MachineNumber),
    d.Reachable Resources.standard ∧
    (d.registry.resolveLabel 0 "A" false).toOption = some 0 ∧
    (d.registry.resolvePlace 0 "P").isSome ∧ (d.registry.resolvePlace 1 "A").isSome ∧
    (d.registry.resolveLabel 1 "P" false).toOption = some 1 ∧ d.registry.IsLexical ∧
    Diagram.compile Resources.standard "A: box; [A: circle]" = .ok dg ∧
    (dg.find? "A").map (·.id) = some 0 ∧ dg.FindsLabels := by
  let ref : String → Position := fun l => .object ⟨1, 1⟩ (.select ⟨1, 1⟩ (.label l)) none
  let ss : List Statement :=
    [.object ⟨1, 1⟩ .box (some "A") [], .place ⟨1, 1⟩ "P" (ref "A"),
      .group ⟨1, 1⟩ [.object ⟨1, 1⟩ .circle (some "P") [], .place ⟨1, 1⟩ "A" (ref "P")] none []]
  have reached := (Drawing.Reachable.initial (K := MachineNumber) (t := Resources.standard)).run ss
  let two : List Statement :=
    [.object ⟨1, 1⟩ .box (some "A") [],
      .group ⟨1, 9⟩ [.object ⟨1, 10⟩ .circle (some "A") []] none []]
  let tokens : List Token := [⟨.label, "A", ⟨1, 1⟩⟩, ⟨.colon, ":", ⟨1, 2⟩⟩, ⟨.word, "box", ⟨1, 4⟩⟩,
    ⟨.eol, ";", ⟨1, 7⟩⟩, ⟨.lbracket, "[", ⟨1, 9⟩⟩, ⟨.label, "A", ⟨1, 10⟩⟩, ⟨.colon, ":", ⟨1, 11⟩⟩,
    ⟨.word, "circle", ⟨1, 13⟩⟩, ⟨.rbracket, "]", ⟨1, 19⟩⟩, ⟨.eof, "", ⟨1, 20⟩⟩]
  have scanned : tokenize .standard "A: box; [A: circle]" = .ok tokens := by
    rw [tokenize_eq_steps]
    decide +kernel
  have parsed : Program.ofTokens .standard tokens = .ok two := by
    cbv
  have statements := (Program.ofSource_eq_ok scanned (by decide)).2 parsed
  have drawn : ((Diagram.ofStatements (Resources.standard (K := MachineNumber)) two).toOption.map
      fun d => (d.find? "A").map (·.id)) = some (some 0) := by
    decide +kernel
  obtain ⟨dg, compiled, found⟩ :=
    Diagram.exists_compile_eq_ok (t := Resources.standard) statements drawn
  refine ⟨_, dg, reached, ?_, ?_, ?_, ?_, (labels_lexical _).1 _ reached, compiled, found,
    (labels_lexical _).2 _ _ compiled⟩ <;> decide +kernel

end DiagramScript
