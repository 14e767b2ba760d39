import DiagramScript.Proofs.ObjectForest
import DiagramScript.Svg.Document

/-!
# The objects that a document shows

A document is written by going through the trees of objects.  An invisible group is passed over with
all that is in it; every other object is come to once.

* `Markup.flatten` — the elements of a document, one after the other.
* `Diagram.visited` — the objects that are come to, in the order of the diagram.
* `Svg.document_shows` — the document holds what these have to show, and nothing else.
* `Diagram.IsForest.mem_visited_iff` — they are those that lie in no invisible group and are none.
-/

namespace DiagramScript

variable {K : Type}

/-! ## Elements of documents -/

namespace Markup

mutual

/-- The elements of a document, each before those that it holds: their tags and attributes. -/
def flatten : Markup → List (String × List (String × String))
  | node tag attributes children => (tag, attributes) :: flattenAll children
  | text tag attributes _ => [(tag, attributes)]

/-- The elements of several parts of a document. -/
def flattenAll : List Markup → List (String × List (String × String))
  | [] => []
  | m :: ms => m.flatten ++ flattenAll ms

end

theorem flattenAll_append (ms more : List Markup) :
    flattenAll (ms ++ more) = flattenAll ms ++ flattenAll more := by
  induction ms with
  | nil => rfl
  | cons m ms ih => simp [flattenAll, ih]

end Markup

/-! ## What is come to -/

/-- Whether an object is a group that hides all that is in it. -/
def Object.hides (o : Object K) : Bool := o.cls = .container && o.style.invisible

namespace Registry

/-- The objects that are come to from an object, which is the first of them; groups that are nested
more than `depth` deep are left out. -/
def visitedWithin (r : Registry K) : (depth : Nat) → Object K → List (Object K)
  | 0, _ => []
  | depth + 1, o =>
    if o.cls = .container then
      if o.style.invisible then [] else o :: (r.objects o.children).flatMap (visitedWithin r depth)
    else [o]

/-- Going through some trees, and through parts of them. -/
theorem flatMap_sublist {r : Registry K} {visits : Object K → List (Object K)}
    {below : Nat → List Nat} (part : ∀ {i o}, r.arena[i]? = some o →
      (visits o).Sublist (o :: r.objects (below i))) (ids : List Nat) :
    ((r.objects ids).flatMap visits).Sublist (r.objects (ids.flatMap fun i => i :: below i)) := by
  induction ids with
  | nil => exact .slnil
  | cons i ids ih =>
    have apart : r.objects ((i :: ids).flatMap fun i => i :: below i) =
        r.objects (i :: below i) ++ r.objects (ids.flatMap fun i => i :: below i) :=
      List.filterMap_append
    rw [apart]
    cases hi : r.arena[i]? with
    | none =>
      rw [objects, List.filterMap_cons_none hi]
      exact ih.trans (List.sublist_append_right ..)
    | some o =>
      rw [objects, List.filterMap_cons_some hi, List.flatMap_cons, objects,
        List.filterMap_cons_some hi]
      exact (part hi).append ih

/-- What is come to from an object is part of its tree, in the same order. -/
theorem visitedWithin_sublist (r : Registry K) (depth : Nat) {i : Nat} {o : Object K}
    (ho : r.arena[i]? = some o) :
    (r.visitedWithin depth o).Sublist (o :: r.objects (r.descendantsWithin depth i)) := by
  induction depth generalizing i o with
  | zero => exact List.nil_sublist _
  | succ depth ih =>
    rw [visitedWithin, descendantsWithin, ho]
    split_ifs
    · exact List.nil_sublist _
    · exact (flatMap_sublist ih o.children).cons_cons o
    · exact (List.nil_sublist _).cons_cons o

end Registry

namespace Diagram

/-- The objects that are come to, in this order. -/
def visited (d : Diagram K) : List (Object K) :=
  d.objects.flatMap (d.registry.visitedWithin d.registry.arena.length)

/-- Whether an object hides nothing and lies in no group that is invisible, at any depth. -/
def IsReached (d : Diagram K) (o : Object K) : Prop :=
  o.hides = false ∧
    ∀ g ∈ d.registry.arena, Relation.TransGen d.IsMember o.id g.id → g.style.invisible = false

/-- Objects are come to in the order of the diagram. -/
theorem visited_sublist (d : Diagram K) : d.visited.Sublist d.allObjects :=
  Registry.flatMap_sublist (d.registry.visitedWithin_sublist _) d.top

end Diagram

/-! ## Documents -/

namespace Svg

variable [Arith K] (c : Canvas K)

/-- The elements that an object has in the document, apart from those of its members. -/
def ownTags (o : Object K) : Except Fault (List (String × List (String × String))) :=
  if o.cls = .container then .ok [("g", nameAttribute o)]
  else (ownElements c o).map Markup.flattenAll

/-- The elements of some objects, apart from those of their members. -/
def tagsOf : List (Object K) → Except Fault (List (String × List (String × String)))
  | [] => .ok []
  | o :: os => do
    let first ← ownTags c o
    let others ← tagsOf os
    .ok (first ++ others)

theorem tagsOf_append (os more : List (Object K)) : tagsOf c (os ++ more) = (do
    let first ← tagsOf c os
    let others ← tagsOf c more
    .ok (first ++ others)) := by
  induction os with
  | nil =>
    rw [List.nil_append, tagsOf, ok_bind]
    cases tagsOf c more with
    | error e => rfl
    | ok rest => rfl
  | cons o os ih =>
    rw [List.cons_append, tagsOf, tagsOf, ih]
    cases ownTags c o with
    | error e => rfl
    | ok first =>
      cases tagsOf c os with
      | error e => rfl
      | ok others =>
        cases tagsOf c more with
        | error e => rfl
        | ok rest => simp

/-- Parts of a document that are written one after the other. -/
theorem mapM_flattenAll {f : Object K → Except Fault (List Markup)}
    {visits : Object K → List (Object K)} {os : List (Object K)}
    (h : ∀ o ∈ os, (f o).map Markup.flattenAll = tagsOf c (visits o)) :
    (os.mapM f).map (fun parts => Markup.flattenAll parts.flatten) =
      tagsOf c (os.flatMap visits) := by
  induction os with
  | nil => rfl
  | cons o os ih =>
    rw [List.flatMap_cons, tagsOf_append, ← h o List.mem_cons_self,
      ← ih fun x hx => h x (List.mem_cons_of_mem _ hx), List.mapM_cons]
    cases f o with
    | error e => rfl
    | ok first =>
      cases os.mapM f with
      | error e => rfl
      | ok others =>
        show Except.ok (Markup.flattenAll (first :: others).flatten) = Except.ok _
        rw [List.flatten_cons, Markup.flattenAll_append]

/-- The part of an object holds what is come to from it. -/
theorem elementsWithin_visits (r : Registry K) (depth : Nat) (o : Object K) :
    (elementsWithin c r depth o).map Markup.flattenAll = tagsOf c (r.visitedWithin depth o) := by
  induction depth generalizing o with
  | zero => rfl
  | succ depth ih =>
    rw [elementsWithin, Registry.visitedWithin]
    split_ifs with group hidden
    · rfl
    · rw [tagsOf, ownTags, if_pos group, ← mapM_flattenAll c fun x _ => ih x]
      cases (r.objects o.children).mapM (elementsWithin c r depth) with
      | error e => rfl
      | ok parts => simp [Except.map, Markup.flattenAll, Markup.flatten]
    · rw [tagsOf, ownTags, if_neg group]
      cases ownElements c o with
      | error e => rfl
      | ok ms => simp [Except.map, tagsOf]

/-- Whether a document holds what some objects have to show, one after the other, and nothing
else. -/
def Shows (os : List (Object K)) (m : Markup) : Prop :=
  ∃ attributes tags, tagsOf c os = .ok tags ∧ m.flatten = ("svg", attributes) :: tags ∧
    attributes.map Prod.fst = ["xmlns", "width", "height", "viewBox"]

/-- A document shows the objects that are come to. -/
theorem document_shows (d : Diagram K) (scale margin : K) :
    Ensures (Shows (Canvas.ofDiagram d scale margin) d.visited) (document d scale margin) := by
  refine .andThen fun width => .andThen fun height => ?_
  let c := Canvas.ofDiagram d scale margin
  have parts : (d.objects.mapM (elements c d)).map (fun parts => Markup.flattenAll parts.flatten) =
      tagsOf c d.visited :=
    mapM_flattenAll c fun o _ => elementsWithin_visits c d.registry _ o
  intro m hm
  obtain ⟨inner, hi, hm⟩ := exists_of_bind_eq_ok hm
  cases hm
  rw [hi] at parts
  exact ⟨_, _, parts.symm, rfl, rfl⟩

end Svg

/-! ## Which objects are come to -/

namespace Diagram

namespace IsForest

variable {d : Diagram K} (h : d.IsForest)

include h

theorem id_of_getElem? {i : Nat} {o : Object K} (ho : d.registry.arena[i]? = some o) :
    o.id = i := by
  have numbered := congrArg (·[i]?) h.numbered
  simp only [List.getElem?_map, ho, Option.map_some] at numbered
  rw [List.getElem?_range (List.getElem?_eq_some_iff.1 ho).1] at numbered
  exact Option.some.inj numbered

theorem getElem?_id {o : Object K} (ho : o ∈ d.registry.arena) :
    d.registry.arena[o.id]? = some o := by
  obtain ⟨i, hi⟩ := List.mem_iff_getElem?.1 ho
  rw [h.id_of_getElem? hi]
  exact hi

theorem nodup_allObjects : d.allObjects.Nodup := by
  refine h.each.nodup_iff.2 (List.Nodup.of_map (·.id) ?_)
  rw [h.numbered]
  exact List.nodup_range

/-- A member is listed by its group. -/
theorem mem_objects_children {o x : Object K} (ho : o ∈ d.registry.arena) :
    x ∈ d.registry.objects o.children ↔ x ∈ d.registry.arena ∧ d.IsMember x.id o.id := by
  rw [Registry.mem_objects, ← h.members]
  constructor
  · rintro ⟨id, hid, hx⟩
    exact ⟨List.mem_of_getElem? hx, o, h.getElem?_id ho, h.id_of_getElem? hx ▸ hid⟩
  · rintro ⟨hx, o', ho', hid⟩
    cases (h.getElem?_id ho).symm.trans ho'
    exact ⟨x.id, hid, h.getElem?_id hx⟩

/-- A group holds its members, which have smaller numbers. -/
theorem of_isMember {o x : Object K} (ho : o ∈ d.registry.arena) (hm : d.IsMember x.id o.id) :
    o.cls = .container ∧ x.id < o.id := by
  obtain ⟨o', ho', hid⟩ := (h.members x.id o.id).2 hm
  cases (h.getElem?_id ho).symm.trans ho'
  exact ⟨h.groups o ho (List.ne_nil_of_mem hid), h.smaller o ho x.id hid⟩

/-- What is come to from an object: itself, and the members of the groups that are come to, as far
as they do not hide. -/
theorem mem_visitedWithin {depth : Nat} {o x : Object K} (ho : o ∈ d.registry.arena)
    (hd : o.id < depth) : x ∈ d.registry.visitedWithin depth o ↔ x.hides = false ∧
      (x = o ∨ x ∈ d.registry.arena ∧
        ∃ g ∈ d.registry.visitedWithin depth o, g ∈ d.registry.arena ∧ d.IsMember x.id g.id) := by
  induction depth generalizing o x with
  | zero => exact absurd hd (Nat.not_lt_zero _)
  | succ depth ih =>
    rw [Registry.visitedWithin]
    split_ifs with group hidden
    · have hides : o.hides = true := by simp [Object.hides, group, hidden]
      constructor
      · intro hx
        cases hx
      · rintro ⟨shown, rfl | ⟨-, g, hg, -⟩⟩
        · rw [hides] at shown
          cases shown
        · cases hg
    · have shown : o.hides = false := by simp [Object.hides, hidden]
      have kids : ∀ x ∈ d.registry.objects o.children,
          x ∈ d.registry.arena ∧ d.IsMember x.id o.id ∧ x.id < depth := fun x hx => by
        obtain ⟨hxa, hm⟩ := (h.mem_objects_children ho).1 hx
        have := (h.of_isMember ho hm).2
        exact ⟨hxa, hm, by omega⟩
      constructor
      · intro hx
        rcases List.mem_cons.1 hx with rfl | hx
        · exact ⟨shown, .inl rfl⟩
        · obtain ⟨y, hy, hx⟩ := List.mem_flatMap.1 hx
          obtain ⟨hya, hm, lt⟩ := kids y hy
          obtain ⟨open_, rfl | ⟨hxa, g, hg, rest⟩⟩ := (ih hya lt).1 hx
          · exact ⟨open_, .inr ⟨hya, o, List.mem_cons_self, ho, hm⟩⟩
          · have hg := List.mem_cons_of_mem o (List.mem_flatMap.2 ⟨y, hy, hg⟩)
            exact ⟨open_, .inr ⟨hxa, g, hg, rest⟩⟩
      · rintro ⟨open_, rfl | ⟨hxa, g, hg, rest⟩⟩
        · exact List.mem_cons_self
        · refine List.mem_cons_of_mem _ (List.mem_flatMap.2 ?_)
          rcases List.mem_cons.1 hg with rfl | hg
          · have hx := (h.mem_objects_children ho).2 ⟨hxa, rest.2⟩
            exact ⟨x, hx, (ih hxa (kids x hx).2.2).2 ⟨open_, .inl rfl⟩⟩
          · obtain ⟨y, hy, hg⟩ := List.mem_flatMap.1 hg
            obtain ⟨hya, -, lt⟩ := kids y hy
            exact ⟨y, hy, (ih hya lt).2 ⟨open_, .inr ⟨hxa, g, hg, rest⟩⟩⟩
    · have shown : o.hides = false := by simp [Object.hides, group]
      constructor
      · intro hx
        cases List.mem_singleton.1 hx
        exact ⟨shown, .inl rfl⟩
      · rintro ⟨-, rfl | ⟨-, g, hg, hga, hm⟩⟩
        · exact List.mem_singleton_self _
        · cases List.mem_singleton.1 hg
          exact absurd (h.of_isMember hga hm).1 group

/-- An object is come to if it hides nothing and is at the top level, or in a group that is come
to. -/
theorem mem_visited {x : Object K} : x ∈ d.visited ↔ x ∈ d.registry.arena ∧ x.hides = false ∧
    (x.parent = none ∨ ∃ g ∈ d.visited, g ∈ d.registry.arena ∧ d.IsMember x.id g.id) := by
  have deep : ∀ o ∈ d.registry.arena, o.id < d.registry.arena.length := fun o ho =>
    (List.getElem?_eq_some_iff.1 (h.getElem?_id ho)).1
  have visited : ∀ {x}, x ∈ d.visited ↔ ∃ o ∈ d.objects,
      x ∈ d.registry.visitedWithin d.registry.arena.length o := List.mem_flatMap
  constructor
  · intro hx
    obtain ⟨o, top, hx⟩ := visited.1 hx
    obtain ⟨ho, none⟩ := (h.top o).1 top
    obtain ⟨shown, rfl | ⟨hxa, g, hg, rest⟩⟩ := (h.mem_visitedWithin ho (deep o ho)).1 hx
    · exact ⟨ho, shown, .inl none⟩
    · exact ⟨hxa, shown, .inr ⟨g, visited.2 ⟨o, top, hg⟩, rest⟩⟩
  · rintro ⟨hxa, shown, none | ⟨g, hg, rest⟩⟩
    · refine visited.2 ⟨x, (h.top x).2 ⟨hxa, none⟩, ?_⟩
      exact (h.mem_visitedWithin hxa (deep x hxa)).2 ⟨shown, .inl rfl⟩
    · obtain ⟨o, top, hg⟩ := visited.1 hg
      have ho := ((h.top o).1 top).1
      refine visited.2 ⟨o, top, (h.mem_visitedWithin ho (deep o ho)).2 ?_⟩
      exact ⟨shown, .inr ⟨hxa, g, hg, rest⟩⟩

/-- The group of a member. -/
theorem exists_parent {x : Object K} (hx : x ∈ d.registry.arena) {g : Nat} :
    d.IsMember x.id g ↔ x.parent = some g := by
  constructor
  · rintro ⟨x', hx', parent⟩
    cases (h.getElem?_id hx).symm.trans hx'
    exact parent
  · exact fun parent => ⟨x, h.getElem?_id hx, parent⟩

/-- Exactly those objects are come to that hide nothing and are in no invisible group, at any
depth. -/
theorem mem_visited_iff {x : Object K} :
    x ∈ d.visited ↔ x ∈ d.registry.arena ∧ d.IsReached x := by
  -- from the top level on, groups come before their members, and are numbered after them
  induction hn : d.registry.arena.length - x.id using Nat.strongRecOn generalizing x with
  | ind n ih =>
    have upward : ∀ g ∈ d.registry.arena, d.IsMember x.id g.id →
        (g ∈ d.visited ↔ g ∈ d.registry.arena ∧ d.IsReached g) := fun g hg hm => by
      have lt := (h.of_isMember hg hm).2
      have bound := (List.getElem?_eq_some_iff.1 (h.getElem?_id hg)).1
      exact ih _ (by omega) rfl
    constructor
    · intro hx
      obtain ⟨hxa, shown, none | ⟨g, hg, hga, hm⟩⟩ := h.mem_visited.1 hx
      · refine ⟨hxa, shown, fun o _ inside => ?_⟩
        obtain ⟨y, hm, -⟩ := Relation.TransGen.head'_iff.1 inside
        cases none.symm.trans ((h.exists_parent hxa).1 hm)
      · obtain ⟨-, open_, above⟩ := (upward g hga hm).1 hg
        refine ⟨hxa, shown, fun o ho inside => ?_⟩
        obtain ⟨y, hm', rest⟩ := Relation.TransGen.head'_iff.1 inside
        cases ((h.exists_parent hxa).1 hm).symm.trans ((h.exists_parent hxa).1 hm')
        rcases Relation.reflTransGen_iff_eq_or_transGen.1 rest with same | inside
        · cases (h.getElem?_id hga).symm.trans (same ▸ h.getElem?_id ho)
          simpa [Object.hides, (h.of_isMember hga hm).1] using open_
        · exact above o ho inside
    · rintro ⟨hxa, shown, above⟩
      refine h.mem_visited.2 ⟨hxa, shown, ?_⟩
      cases parent : x.parent with
      | none => exact .inl rfl
      | some i =>
        have hm := (h.exists_parent hxa).2 parent
        obtain ⟨g, hg, -⟩ := (h.members x.id i).2 hm
        cases h.id_of_getElem? hg
        have hga := List.mem_of_getElem? hg
        refine .inr ⟨g, (upward g hga hm).2 ⟨hga, ?_, fun o ho inside => ?_⟩, hga, hm⟩
        · simp [Object.hides, above g hga (.single hm)]
        · exact above o ho (.head hm inside)

end IsForest

end Diagram

end DiagramScript
