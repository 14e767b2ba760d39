import DiagramScript.Proofs.LaterStatements
import DiagramScript.Proofs.MirroredRuns

/-!
# Objects with a place of their own

An object that is said to lie somewhere does not take part in the flow: the next object is attached
where it would have been without it.  As long as nothing refers to it by counting, everything else
is drawn as if it were not there.

* `Drawing.draft_located` — what a clause for the place says is not forgotten.
* `declare_located` — such an object is added, and nothing else happens.
* `Renaming.past` — numbers and marks after one more object.
* `Object.beside` — an object as it is after one more object.
* `run_without_guest` — what is drawn without the object.
-/

namespace DiagramScript

variable {K : Type}

/-! ## Places that are given -/

/-- Whether a clause says where the object lies. -/
def Clause.locates : Clause → Bool
  | .located _ => true
  | .anchored .. => true
  | _ => false

namespace Draft

variable [Arith K] (d : Draft K) (v : View K)

/-- A clause gives a place, or leaves the place that is given. -/
theorem Effect.isSome_located {v : View K} {d d' : Draft K} {c : Clause} (h : d.Effect v c d')
    (given : (c.locates || d.located.isSome) = true) : d'.located.isSome = true := by
  cases h with
  | @size what value reference x usual given' =>
    obtain ⟨_, _, _, _, _, resized⟩ := d.exists_resize_eq what x
    rw [resized]
    exact given
  | flag what => cases what <;> exact given
  | style restyles keeps => cases c <;> first | exact given | cases restyles
  | path leads headings starts ends => cases c <;> first | exact given | cases leads
  | located | anchored => rfl
  | text | thickness | same => exact given

/-- One clause for the place is enough. -/
theorem applyAll_locates {as : List Attribute} (h : as.any (·.clause.locates) = true) :
    Ensures (fun d' : Draft K => d'.located.isSome) (Draft.applyAll v d as) := by
  intro full hf
  refine applyAll_induct v d (P := fun as d' => as.any (·.clause.locates) = true →
    d'.located.isSome = true) (fun none => nomatch none) (fun as a d d' hd _ effect some => ?_)
    as full hf h
  refine effect.isSome_located ?_
  rw [List.any_append, Bool.or_eq_true, List.any_cons, List.any_nil, Bool.or_false] at some
  rcases some with before | here
  · rw [hd before, Bool.or_true]
  · rw [here, Bool.true_or]

end Draft

namespace Drawing

variable [Arith K] {t : Resources K} {d : Drawing K}

/-- An object that is said to lie somewhere has a place of its own. -/
theorem draft_located {attributes : List Attribute}
    (h : attributes.any (·.clause.locates) = true) (id : Nat) (cls : ObjectClass) :
    Ensures (fun p => p.1.located.isSome) (d.draft t id cls attributes) := by
  refine .andThen fun plain => ?_
  refine .bind (plain.applyAll_locates _ h) fun full hf placed hp => ?_
  rw [(full.place_redraws _ placed hp).located]
  exact hf

/-- Such an object is added to the scope, and nothing else happens. -/
theorem declare_located {cls : ObjectClass} {attributes : List Attribute}
    (hl : attributes.any (·.clause.locates) = true) {e : Drawing K}
    (h : d.declare t cls none attributes = (.ok (), e)) :
    ∃ guest : Object K, guest.standing = d.registry.newcomer d.scope cls none ∧
      e = { d with registry := d.registry.enroll d.scope guest, serial := d.serial + 1 } := by
  unfold declare at h
  dsimp only at h
  cases hd : (d.create cls).2.draft t (d.create cls).1 cls attributes with
  | error f =>
    rw [hd] at h
    cases h
  | ok p =>
    obtain ⟨draft, exit⟩ := p
    rw [hd] at h
    let o := draft.object.stamp d.serial
    have standing : o.standing = { id := d.registry.arena.length, cls := cls } :=
      draft_standing _ _ _ _ hd
    have number : draft.object.id = d.registry.arena.length := congrArg Standing.id standing
    have written : ((d.create cls).2.store draft).registry = d.registry.append o :=
      store_create d cls number
    have latest := getElem?_store_create number cls
    obtain ⟨guest, new, enrolled⟩ := d.registry.exists_enroll_eq standing d.scope none
    obtain ⟨place, hp⟩ := Option.isSome_iff_exists.1 (draft_located hl _ cls _ hd)
    refine ⟨guest, new, ?_⟩
    unfold finish at h
    dsimp only at h
    rw [Registry.finalize_eq latest, written, number,
      show o.cls = cls from congrArg Standing.cls standing] at h
    dsimp only at h
    obtain ⟨-, rfl⟩ := Prod.mk.inj h
    rw [advance, Cursor.advance_of_located hp, ← enrolled]
    rfl

end Drawing

/-! ## Names after one more object -/

/-- What everything is called after one more object, if there were so many before it and so many
changes. -/
def Renaming.past (objects changes : Nat) : Renaming where
  index i := if i < objects then i else i + 1
  mark m :=
    { m with
      serial := if m.serial < changes then m.serial else m.serial + 1
      object := m.object.map fun i => if i < objects then i else i + 1 }
  index_strictMono i j hij := by
    dsimp only
    split_ifs <;> omega
  mark_injective := by
    rintro ⟨n, i, k⟩ ⟨n', i', k'⟩ h
    have serial := congrArg Mark.serial h
    have object := congrArg Mark.object h
    have slot := congrArg Mark.slot h
    dsimp only at serial object slot
    have index : Function.Injective fun i => if i < objects then i else i + 1 := fun i j hij => by
      dsimp only at hij
      split_ifs at hij <;> omega
    rw [Mark.mk.injEq]
    refine ⟨?_, Option.map_injective index object, slot⟩
    split_ifs at serial <;> omega

namespace Renaming

variable {objects changes : Nat}

theorem past_index_of_lt {i : Nat} (h : i < objects) : (past objects changes).index i = i :=
  if_pos h

theorem past_index_of_le {i : Nat} (h : objects ≤ i) : (past objects changes).index i = i + 1 :=
  if_neg (Nat.not_lt.2 h)

theorem past_writes_of_lt {n : Nat} (h : n < changes) : (past objects changes).Writes n n :=
  fun i k => congrArg (Mark.mk · (i.map _) k) (if_pos h)

theorem past_writes_of_le {n : Nat} (h : changes ≤ n) : (past objects changes).Writes n (n + 1) :=
  fun i k => congrArg (Mark.mk · (i.map _) k) (if_neg (Nat.not_lt.2 h))

end Renaming

namespace Drawing

variable [Arith K] {t : Resources (Marked K)}

/-! ## Before the object is added -/

/-- A script starts with nothing that has a name. -/
theorem initial_mirrors (ρ : Renaming) :
    (Drawing.initial : Drawing (Marked K)).Mirrors ⟨ρ, []⟩ Drawing.initial := by
  let r : Registry (Marked K) := .initial
  have empty : ∀ s, (r.scope s).members = [] ∧ ∀ cls, (r.scope s).ofClass cls = [] := fun s => by
    obtain ⟨bindings, hs⟩ := Registry.scope_initial (K := Marked K) s
    exact ⟨congrArg Scope.members hs, fun cls => congrArg (Scope.ofClass · cls) hs⟩
  have registry : r.Mirrors ⟨ρ, []⟩ r := by
    refine ⟨fun h => (nomatch h), rfl, fun _ => Nat.zero_le _, rfl, fun s => ?_, fun s => ?_,
      fun _ s cls => ?_, rfl⟩
    · cases s with
      | zero => exact ⟨rfl, rfl, rfl, rfl⟩
      | succ s => exact ⟨rfl, rfl, rfl, rfl⟩
    · refine ⟨[], [], (empty s).1, ?_⟩
      rw [(empty s).1, Detour.guestsIn, ite_self]
      rfl
    · rw [(empty s).2]
      rfl
  exact ⟨registry, rfl, rfl, rfl, rfl⟩

/-- What has been drawn so far has the same names after one more object. -/
theorem mirrors_self (ht : t.IgnoresMarks) {ss : List Statement} {d : Drawing (Marked K)}
    (h : run t Drawing.initial ss = (.ok (), d)) :
    d.Mirrors ⟨.past d.registry.arena.length d.serial, []⟩ d := by
  let ρ := Renaming.past d.registry.arena.length d.serial
  have covers : Detour.Covers ⟨ρ, []⟩ Drawing.initial d :=
    ⟨fun i _ hi => Renaming.past_index_of_lt hi, fun n _ hn => Renaming.past_writes_of_lt hn⟩
  obtain ⟨d', hd', same⟩ :=
    run_mirrors ht (initial_mirrors ρ) .initial (statementsByLabel_true ss) h covers
  cases h.symm.trans hd'
  exact same

end Drawing

/-! ## The object is added -/

/-- Scopes and objects are the same besides a guest at the top level. -/
theorem Registry.Mirrors.enroll {ρ : Renaming} {r : Registry (Marked K)} (h : r.Mirrors ⟨ρ, []⟩ r)
    {guest : Object (Marked K)} {cls : ObjectClass} (new : guest.standing = r.newcomer 0 cls none)
    (hs : 0 < r.scopes.length) (hlt : ∀ i < r.arena.length, ρ.index i = i)
    (hge : ∀ i, r.arena.length ≤ i → ρ.index i = i + 1) :
    r.Mirrors ⟨ρ, [r.arena.length]⟩ (r.enroll 0 guest) where
  objects {id o} ho := by
    have hid := (List.getElem?_eq_some_iff.1 ho).1
    obtain ⟨o', ho', same⟩ := h.objects ho
    refine ⟨o', ?_, same⟩
    rw [hlt id hid] at ho' ⊢
    exact (List.getElem?_append_left hid).trans ho'
  count := List.length_append
  beyond {id} hid := by
    rw [hge id hid, Registry.enroll, Registry.modifyScope, Registry.append, List.length_append]
    exact Nat.succ_le_succ hid
  scopes := List.length_modify ..
  scope s := by
    rcases r.scope_enroll_cases 0 guest s with ⟨hs, -⟩ | hs
    · have here := h.scope s
      rw [hs]
      refine ⟨here.parent, ?_, here.places, here.bindings⟩
      rw [show guest.label = none from congrArg Standing.label new]
      exact (List.append_nil _).trans here.labels
    · rw [hs]
      exact h.scope s
  members s := by
    have same := h.members_eq (s := s) (ite_self _)
    refine ⟨(r.scope s).members, [], (List.append_nil _).symm, ?_⟩
    rw [Registry.scope_enroll, List.map_nil, List.append_nil, ← same]
    by_cases hz : s = 0
    · subst hz
      rw [if_pos ⟨rfl, hs⟩, ← show guest.id = r.arena.length from congrArg Standing.id new]
      rfl
    · rw [if_neg fun e => hz e.1.symm, Detour.guestsIn, if_neg hz, List.append_nil]
  counted hg := nomatch hg
  attached := h.attached

/-! ## How the others are counted -/

theorem countP_le_of_getElem? {ids : List Nat} (h : ids.Pairwise (· < ·)) {k id : Nat}
    (hk : ids[k]? = some id) : ids.countP (· ≤ id) = k + 1 := by
  induction ids generalizing k with
  | nil => cases hk
  | cons x ids ih =>
    obtain ⟨hx, h⟩ := List.pairwise_cons.1 h
    cases k with
    | zero =>
      cases hk
      have later : ids.countP (· ≤ id) = 0 :=
        List.countP_eq_zero.2 fun i hi => by simpa using hx i hi
      rw [List.countP_cons_of_pos (by simp), later]
    | succ k =>
      have hlt := hx id (List.mem_of_getElem? hk)
      rw [List.countP_cons_of_pos (by simpa using Nat.le_of_lt hlt), ih h hk]

/-- The number of an object in its class says how many members of the class came up to it. -/
theorem Registry.Counted.ordinal_eq {r : Registry K} (h : r.Counted) {s id : Nat} {st : Standing}
    (hm : id ∈ (r.scope s).members) (hst : r.standing? id = some st) :
    st.ordinal = (r.scope s).members.countP fun i => r.isOfClass st.cls i && decide (i ≤ id) := by
  have sorted : ((r.scope s).ofClass st.cls).Pairwise (· < ·) := by
    rw [h.ofClass]
    exact (h.ascending s).filter _
  have mem : id ∈ (r.scope s).ofClass st.cls := by
    rw [h.ofClass, List.mem_filter, Registry.Counted.isOfClass_eq st.cls hst]
    exact ⟨hm, decide_eq_true rfl⟩
  obtain ⟨k, hk⟩ := List.mem_iff_getElem?.1 mem
  obtain ⟨st', hst', ranked⟩ := h.ranked hk
  cases hst.symm.trans hst'
  rw [ranked, ← countP_le_of_getElem? sorted hk, h.ofClass, List.countP_filter]
  exact List.countP_congr fun i _ => by rw [Bool.and_comm]

namespace Registry.Mirrors

variable {σ : Detour} {r r' : Registry (Marked K)} (h : r.Mirrors σ r')
include h

theorem isOfClass (cls : ObjectClass) {id : Nat} (hid : id < r.arena.length) :
    r'.isOfClass cls (σ.names.index id) = r.isOfClass cls id := by
  have ho := List.getElem?_eq_getElem hid
  obtain ⟨_, ho', n, rfl⟩ := h.objects ho
  rw [Registry.isOfClass, Registry.isOfClass, ho, ho']
  rfl

/-- The objects that were added before another are counted with it. -/
theorem ordinal_eq (hc : r.Counted) (hc' : r'.Counted) {s id : Nat} {o o' : Object (Marked K)}
    (hm : id ∈ (r.scope s).members) (ho : r.arena[id]? = some o)
    (ho' : r'.arena[σ.names.index id]? = some o') (same : o.Mirrors σ.names o') :
    o'.ordinal = o.ordinal + (σ.guestsIn s).countP fun i =>
      r'.isOfClass o.cls i && decide (i ≤ σ.names.index id) := by
  have cls : o'.cls = o.cls := by
    obtain ⟨n, rfl⟩ := same
    rfl
  obtain ⟨earlier, later, before, after⟩ := h.members s
  have hm' : σ.names.index id ∈ (r'.scope s).members := by
    rw [after, List.append_assoc, List.mem_append, List.mem_append]
    rw [before, List.mem_append] at hm
    exact hm.imp (List.mem_map_of_mem) fun hm => .inr (List.mem_map_of_mem hm)
  have counted : ∀ ids : List Nat, (∀ i ∈ ids, i < r.arena.length) →
      (ids.map σ.names.index).countP (fun i =>
        r'.isOfClass o.cls i && decide (i ≤ σ.names.index id)) =
          ids.countP fun i => r.isOfClass o.cls i && decide (i ≤ id) := fun ids hids => by
    rw [List.countP_map]
    refine List.countP_congr fun i hi => ?_
    rw [Function.comp_apply, h.isOfClass o.cls (hids i hi),
      decide_eq_decide.2 σ.names.index_strictMono.le_iff_le]
  have number : o.ordinal = (r.scope s).members.countP fun i =>
      r.isOfClass o.cls i && decide (i ≤ id) :=
    hc.ordinal_eq hm ((r.standing?_eq_some).2 ⟨o, ho, rfl⟩)
  have number' : o'.ordinal = (r'.scope s).members.countP fun i =>
      r'.isOfClass o.cls i && decide (i ≤ σ.names.index id) :=
    cls ▸ hc'.ordinal_eq hm' ((r'.standing?_eq_some).2 ⟨o', ho', rfl⟩)
  have lt : ∀ i ∈ earlier ++ later, i < r.arena.length := fun i hi => hc.lt (before ▸ hi)
  rw [number, number', before, after, List.countP_append, List.countP_append, List.countP_append,
    counted earlier fun i hi => lt i (List.mem_append_left _ hi),
    counted later fun i hi => lt i (List.mem_append_right _ hi)]
  omega

end Registry.Mirrors

/-! ## What is drawn without the object -/

/-- What is to be seen of an object. -/
def Object.shown (o : Object (Marked K)) : Object K := o.map Marked.value fun i => i

/-- What is to be seen of an object besides a guest at the top level: objects are numbered past the
guest, and so are those of its class at the top level. -/
def Object.beside (guest o : Object (Marked K)) : Object K :=
  { o.map Marked.value fun i => if i < guest.id then i else i + 1 with
    ordinal :=
      if o.parent = none ∧ o.cls = guest.cls ∧ guest.id ≤ o.id then o.ordinal + 1 else o.ordinal }

/-- Marks and the numbers of objects are not to be seen. -/
theorem Renaming.shown_object (ρ : Renaming) (o : Object (Marked K)) :
    (ρ.object o).shown = o.map Marked.value ρ.index := by
  unfold Object.shown Renaming.object Object.map
  simp [Style.map, Function.comp_def, Point.map, Renaming.number]

/-- What is known of the objects and scopes at the end of a script. -/
structure Drawing.Whole (d : Drawing K) : Prop where
  /-- Scopes count their members. -/
  counted : d.registry.Counted
  /-- Groups and members know each other. -/
  nested : d.registry.Nested
  /-- No group has the top level as its scope. -/
  isOpen : d.registry.IsOpen 0
  /-- The objects are the trees from the top level on. -/
  planted : Planted 0 d.registry.shape (d.registry.scope 0).members
  /-- The script stands at the top level. -/
  scope : d.scope = 0
  /-- The top level is there. -/
  scopes : 0 < d.registry.scopes.length

theorem run_whole [Arith K] {t : Resources K} {ss : List Statement} {d : Drawing K}
    (h : run t Drawing.initial ss = (.ok (), d)) : d.Whole := by
  obtain ⟨added, roots, grown⟩ := run_grows h Nat.one_pos
  have reached := Drawing.Reachable.of_run h
  obtain ⟨nested, isOpen⟩ := reached.nested
  have top : d.scope = 0 := grown.scope
  refine ⟨reached.counted, nested, top ▸ isOpen, ?_, top, top ▸ reached.scope_lt⟩
  rw [grown.shape, show (d.registry.scope 0).members = roots from grown.here]
  exact grown.planted

namespace Registry.Mirrors

variable {ρ : Renaming} {guest : Object (Marked K)} {d e : Drawing (Marked K)}
  (h : d.registry.Mirrors ⟨ρ, [guest.id]⟩ e.registry) (hd : d.Whole) (he : e.Whole)
  (hi : ρ.index = fun i => if i < guest.id then i else i + 1)
  (hg : e.registry.arena[guest.id]? = some guest)
include h hd he hi hg

/-- The guest is counted with objects of its class that come later at the top level. -/
theorem ordinal_guest {id : Nat} {o o' : Object (Marked K)} (ho : d.registry.arena[id]? = some o)
    (ho' : e.registry.arena[ρ.index id]? = some o') (same : o.Mirrors ρ o') :
    o'.ordinal = if o.parent = none ∧ o.cls = guest.cls ∧ guest.id ≤ o.id then o.ordinal + 1
      else o.ordinal := by
  have st := (d.registry.standing?_eq_some).2 ⟨o, ho, rfl⟩
  have number : o.id = id := hd.counted.numbered st
  have ofClass : e.registry.isOfClass o.cls guest.id = decide (o.cls = guest.cls) := by
    rw [Registry.isOfClass, hg]
    exact decide_eq_decide.2 eq_comm
  have later : decide (guest.id ≤ ρ.index id) = decide (guest.id ≤ id) := by
    refine decide_eq_decide.2 ?_
    rw [hi]
    dsimp only
    split_ifs <;> omega
  rcases Registry.top_or_member hd.nested hd.planted (d.registry.lt_of_standing? st) with
    top | ⟨st', g, hst, hp⟩
  · have free := (Registry.top_iff hd.counted hd.nested hd.planted hd.isOpen st).1 top
    have free : o.parent = none := free
    rw [h.ordinal_eq hd.counted he.counted top ho ho' same, Detour.guestsIn, if_pos rfl,
      List.countP_singleton, ofClass, later, number]
    by_cases hc : o.cls = guest.cls <;> by_cases hle : guest.id ≤ id <;> simp [free, hc, hle]
  · cases st.symm.trans hst
    obtain ⟨s, hs, hm⟩ := hd.nested.member st hp
    have inner : s ≠ 0 := fun e => hd.isOpen g (e ▸ hs)
    have parent : o.parent = some g := hp
    have held : o.parent ≠ none := by simp [parent]
    rw [h.ordinal_eq hd.counted he.counted hm ho ho' same, Detour.guestsIn, if_neg inner,
      if_neg fun e => held e.1]
    rfl

/-- Every other object looks as it would without the guest. -/
theorem shown_eq (id : Nat) : (e.registry.arena[ρ.index id]?).map Object.shown =
    (d.registry.arena[id]?).map (Object.beside guest) := by
  cases ho : d.registry.arena[id]? with
  | none =>
    rw [h.getElem?_eq_none ho]
    rfl
  | some o =>
    obtain ⟨o', ho', same⟩ := h.objects ho
    have ordinal := h.ordinal_guest hd he hi hg ho ho' same
    obtain ⟨n, rfl⟩ := same
    have looks := ρ.shown_object o
    rw [ho', Option.map_some, Option.map_some, Object.beside, ← ordinal]
    rw [hi] at looks
    exact congrArg (fun x : Object K => some { x with ordinal := n }) looks

end Registry.Mirrors

/-! ### Trees of objects -/

/-- Some objects, each followed by those it contains. -/
def Registry.trees (r : Registry K) (ids : List Nat) : List Nat :=
  ids.flatMap fun id => id :: r.descendants id

theorem Registry.trees_append (r : Registry K) (ids more : List Nat) :
    r.trees (ids ++ more) = r.trees ids ++ r.trees more :=
  List.flatMap_append

theorem Registry.objects_append (r : Registry K) (ids more : List Nat) :
    r.objects (ids ++ more) = r.objects ids ++ r.objects more :=
  List.filterMap_append

theorem Registry.descendants_of_childless {r : Registry K} {id : Nat} {o : Object K}
    (ho : r.arena[id]? = some o) (hn : o.children = []) : r.descendants id = [] := by
  unfold Registry.descendants
  cases r.arena.length with
  | zero => rfl
  | succ depth =>
    rw [Registry.descendantsWithin, ho]
    dsimp only
    rw [hn, List.flatMap_nil]

theorem Diagram.allObjects_ofDrawing (d : Drawing K) :
    (Diagram.ofDrawing d).allObjects =
      d.registry.objects (d.registry.trees (d.registry.scope 0).members) :=
  rfl

/-- Whether a drawing is another one with a guest at the top level, of which nothing else takes
notice. -/
structure Drawing.Hosts (guest : Object (Marked K)) (d e : Drawing (Marked K)) : Prop where
  /-- The objects are those of the other drawing, and the guest. -/
  objects : ∃ earlier later,
    (Diagram.ofDrawing e).allObjects = earlier ++ guest :: later ∧
    (earlier ++ later).map Object.shown =
      (Diagram.ofDrawing d).allObjects.map (Object.beside guest)
  /-- The same was printed. -/
  messages : e.messages = d.messages
  /-- The variables have the same values. -/
  bindings : (Diagram.ofDrawing e).bindings.map (fun v => (v.1, v.2.value)) =
    (Diagram.ofDrawing d).bindings.map fun v => (v.1, v.2.value)
  /-- The direction of travel is the same. -/
  direction : e.cursor.direction = d.cursor.direction

namespace Registry.Mirrors

variable {ρ : Renaming} {guest : Object (Marked K)} {d e : Drawing (Marked K)}
  (h : d.registry.Mirrors ⟨ρ, [guest.id]⟩ e.registry) (hd : d.Whole) (he : e.Whole)
  (hi : ρ.index = fun i => if i < guest.id then i else i + 1)
  (hg : e.registry.arena[guest.id]? = some guest)

section

include h hd

/-- The trees of the other objects hold the same, under other names. -/
theorem trees_map {ids : List Nat} (hids : ∀ i ∈ ids, i < d.registry.arena.length) :
    e.registry.trees (ids.map ρ.index) = (d.registry.trees ids).map ρ.index := by
  rw [Registry.trees, Registry.trees, List.flatMap_map, List.map_flatMap]
  refine List.flatMap_congr fun i hi => ?_
  rw [List.map_cons]
  exact congrArg (ρ.index i :: ·) (h.descendants hd.planted.isOrdered (hids i hi).le)

end

include h hd he hi hg

/-- The other objects look as they would without the guest. -/
theorem objects_shown (ids : List Nat) :
    (e.registry.objects (ids.map ρ.index)).map Object.shown =
      (d.registry.objects ids).map (Object.beside guest) := by
  rw [Registry.objects, Registry.objects, List.filterMap_map, List.map_filterMap,
    List.map_filterMap]
  exact List.filterMap_congr fun i _ => h.shown_eq hd he hi hg i

/-- Going through the trees meets the guest by itself, between the same others. -/
theorem hosts_objects (hn : guest.children = []) : ∃ earlier later,
    (Diagram.ofDrawing e).allObjects = earlier ++ guest :: later ∧
    (earlier ++ later).map Object.shown =
      (Diagram.ofDrawing d).allObjects.map (Object.beside guest) := by
  obtain ⟨earlier, later, before, after⟩ := h.members 0
  have lt : ∀ i ∈ earlier ++ later, i < d.registry.arena.length := fun i hi =>
    hd.counted.lt (before ▸ hi)
  have guests : Detour.guestsIn ⟨ρ, [guest.id]⟩ 0 = [guest.id] := rfl
  have alone : e.registry.trees [guest.id] = [guest.id] := by
    rw [Registry.trees, List.flatMap_singleton, Registry.descendants_of_childless hg hn]
  have itself : e.registry.objects [guest.id] = [guest] :=
    List.filterMap_cons_some (f := (e.registry.arena[·]?)) hg
  refine ⟨e.registry.objects ((d.registry.trees earlier).map ρ.index),
    e.registry.objects ((d.registry.trees later).map ρ.index), ?_, ?_⟩
  · rw [Diagram.allObjects_ofDrawing, after, guests, Registry.trees_append, Registry.trees_append,
      alone, h.trees_map hd fun i hi => lt i (List.mem_append_left _ hi),
      h.trees_map hd fun i hi => lt i (List.mem_append_right _ hi), Registry.objects_append,
      Registry.objects_append, itself, List.append_assoc, List.singleton_append]
  · rw [Diagram.allObjects_ofDrawing, before, List.map_append,
      h.objects_shown hd he hi hg, h.objects_shown hd he hi hg, ← List.map_append,
      Registry.trees_append, Registry.objects_append]

end Registry.Mirrors

variable [Arith K]

/-- What is drawn after a guest at the top level is drawn without it, too. -/
theorem exists_run_of_guest {t : Resources (Marked K)} (ht : t.IgnoresMarks) {b : List Statement}
    {d₀ e : Drawing (Marked K)} {guest : Object (Marked K)} {cls : ObjectClass} (hd : d₀.Whole)
    (hm : d₀.Mirrors ⟨.past d₀.registry.arena.length d₀.serial, []⟩ d₀)
    (new : guest.standing = d₀.registry.newcomer d₀.scope cls none)
    (hb : statementsByLabel false b = true)
    (h : run t { d₀ with
      registry := d₀.registry.enroll d₀.scope guest, serial := d₀.serial + 1 } b = (.ok (), e)) :
    ∃ d, run t d₀ b = (.ok (), d) ∧
      d.Mirrors ⟨.past d₀.registry.arena.length d₀.serial, [d₀.registry.arena.length]⟩ e := by
  have added := hm.registry.enroll (hd.scope ▸ new) hd.scopes
    (fun _ hi => Renaming.past_index_of_lt hi) fun _ hi => Renaming.past_index_of_le hi
  rw [← hd.scope] at added
  have guests : d₀.Mirrors ⟨.past d₀.registry.arena.length d₀.serial, [d₀.registry.arena.length]⟩
      { d₀ with registry := d₀.registry.enroll d₀.scope guest, serial := d₀.serial + 1 } :=
    ⟨added, rfl, hm.cursor, rfl, rfl⟩
  have sound : d₀.Sound := ⟨hd.scope.symm ▸ hd.scopes, _, hd.planted⟩
  exact run_mirrors ht guests sound hb h
    ⟨fun _ hi _ => Renaming.past_index_of_le hi, fun _ hn _ => Renaming.past_writes_of_le hn⟩

/-- Objects that are said to lie somewhere do not disturb the flow.  If a script succeeds in which
one is declared at the top level, without a label, and nothing refers to objects by counting from
then on, so does the script without it, and draws and prints the same. -/
theorem run_without_guest {a b : List Statement} {p : SourcePos} {cls : ObjectClass}
    {attributes : List Attribute} (hl : attributes.any (·.clause.locates) = true)
    (hb : statementsByLabel false b = true) {e : Drawing (Marked K)}
    (h : run .standard Drawing.initial (a ++ .object p cls none attributes :: b) = (.ok (), e)) :
    ∃ (before d : Drawing (Marked K)) (guest : Object (Marked K)),
      run .standard Drawing.initial a = (.ok (), before) ∧
      guest.id = before.registry.arena.length ∧ guest.cls = cls ∧
      run .standard Drawing.initial (a ++ b) = (.ok (), d) ∧ d.Hosts guest e := by
  obtain ⟨d₀, ha, hrest⟩ := run_append_eq_ok.1 h
  obtain ⟨e₁, hguest, hafter⟩ := exists_of_run_cons_eq_ok hrest
  rw [execute] at hguest
  obtain ⟨guest, new, rfl⟩ := Drawing.declare_located hl (Outcome.of_locate hguest)
  have whole := run_whole ha
  have ht := Resources.standard_ignoresMarks (K := K)
  obtain ⟨d, hd, same⟩ := exists_run_of_guest ht whole (Drawing.mirrors_self ht ha) new hb hafter
  have number : guest.id = d₀.registry.arena.length := congrArg Standing.id new
  have all : run .standard Drawing.initial (a ++ b) = (.ok (), d) :=
    run_append_eq_ok.2 ⟨d₀, ha, hd⟩
  have found : e.registry.arena[guest.id]? = some guest := by
    have latest : (d₀.registry.enroll d₀.scope guest).arena[guest.id]? = some guest := by
      rw [number]
      exact List.getElem?_concat_length
    have there : d₀.scope < (d₀.registry.enroll d₀.scope guest).scopes.length := by
      rw [Registry.enroll, Registry.modifyScope, List.length_modify, whole.scope]
      exact whole.scopes
    have frame := (run_evolves (t := .standard) (d := { d₀ with
      registry := d₀.registry.enroll d₀.scope guest, serial := d₀.serial + 1 }) b
        there).registry.frame
    rw [hafter] at frame
    exact (frame.objects _ (List.getElem?_eq_some_iff.1 latest).1).trans latest
  refine ⟨d₀, d, guest, ha, number, congrArg Standing.cls new, all, ?_⟩
  rw [← number] at same
  refine ⟨?_, same.messages, ?_, same.direction⟩
  · exact same.registry.hosts_objects (run_whole all) (run_whole h) rfl found
      (congrArg Standing.children new)
  · have values := (same.registry.scope 0).bindings
    unfold Diagram.bindings
    rw [show (Diagram.ofDrawing e).registry = e.registry from rfl, values, List.map_map]
    rfl

omit [Arith K] in
/-- A box and a circle; a box somewhere else; and after it a box, a group with a box in it and an
arrow from the circle. -/
theorem run_without_guest_box :
    let circle : Position := .object ⟨6, 12⟩ (.select ⟨6, 12⟩ (.label "C")) none
    let away : Position := .pair ⟨3, 8⟩ (.number ⟨3, 9⟩ ⟨3, 0⟩ none) (.number ⟨3, 12⟩ ⟨1, 0⟩ none)
    let a : List Statement := [.object ⟨1, 1⟩ .box none [], .object ⟨2, 1⟩ .circle (some "C") []]
    let b : List Statement :=
      [.object ⟨4, 1⟩ .box none [], .group ⟨5, 1⟩ [.object ⟨5, 2⟩ .box none []] none [],
        .object ⟨6, 1⟩ .arrow none [⟨⟨6, 7⟩, .start circle⟩], .print ⟨7, 1⟩ [.text "done"]]
    let guest : Statement := .object ⟨3, 1⟩ .box none [⟨⟨3, 5⟩, .located away⟩]
    ∃ e : Drawing MachineNumber, run .standard Drawing.initial (a ++ guest :: b) = (.ok (), e) ∧
      (Diagram.ofDrawing e).allObjects.map (fun o => (o.id, o.ordinal)) =
        [(0, 1), (1, 1), (2, 2), (3, 3), (5, 1), (4, 1), (6, 1)] ∧
      ∃ (before d : Drawing MachineNumber) (guest : Object MachineNumber),
        run .standard Drawing.initial a = (.ok (), before) ∧
        guest.id = before.registry.arena.length ∧ guest.cls = .box ∧
        run .standard Drawing.initial (a ++ b) = (.ok (), d) ∧ d.Hosts guest e := by
  intro circle away a b guest
  have drawn : ((Diagram.ofStatements (Resources.standard : Resources MachineNumber)
      (a ++ guest :: b)).toOption.map fun d => d.allObjects.map fun o => (o.id, o.ordinal)) =
        some [(0, 1), (1, 1), (2, 2), (3, 3), (5, 1), (4, 1), (6, 1)] := by
    decide +kernel
  obtain ⟨whole, succeeds, seen⟩ := Diagram.exists_ofStatements_eq_ok drawn
  obtain ⟨e, h, rfl⟩ := Diagram.ofStatements_eq_ok.1 succeeds
  exact ⟨e, h, seen, run_without_guest rfl (by decide) h⟩

end DiagramScript
