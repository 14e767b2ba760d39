import DiagramScript.Proofs.MirroredDrafts
import DiagramScript.Proofs.MirroredRegistries
import DiagramScript.Proofs.RunCounts

/-!
# Runs after a detour

Statements that mean objects by their labels do the same after a detour as without it, and so do all
statements if nothing was added on the detour.

* `Statement.byLabel` — whether a statement means objects by their labels only.
* `Resources.IgnoresMarks` — that measuring has no use for marks.
* `Drawing.Mirrors` — two drawings that are the same apart from a detour.
* `Detour.Covers` — the names of what is added later.
* `run_mirrors` — what succeeds after a detour also succeeds without it, with the same effect.
-/

namespace DiagramScript

variable {K : Type}

/-! ## References by label -/

section

variable (counting : Bool)

/-- Whether something to print means objects by labels only, or also by counting if that is
allowed. -/
def PrintItem.byLabel : PrintItem → Bool
  | .text _ => true
  | .value e => e.byLabel counting

mutual

/-- Whether a statement means objects by labels only, or also by counting if that is allowed. -/
def Statement.byLabel : Statement → Bool
  | .object _ _ _ attributes => attributes.all (·.clause.byLabel counting)
  | .group _ body _ attributes =>
    statementsByLabel body && attributes.all (·.clause.byLabel counting)
  | .assign _ _ _ e => e.byLabel counting
  | .direction .. => true
  | .print _ items => items.all (·.byLabel counting)
  | .assertScalars _ left right => left.byLabel counting && right.byLabel counting
  | .assertPositions _ left right => left.byLabel counting && right.byLabel counting
  | .place _ _ q => q.byLabel counting

/-- The same for some statements. -/
def statementsByLabel : List Statement → Bool
  | [] => true
  | s :: ss => s.byLabel && statementsByLabel ss

end

end

@[simp] theorem PrintItem.byLabel_true (item : PrintItem) : item.byLabel true = true := by
  cases item <;> simp [PrintItem.byLabel]

mutual

/-- If counting is allowed, there is nothing to ask of a statement. -/
theorem Statement.byLabel_true (s : Statement) : s.byLabel true = true := by
  cases s with
  | group p body label attributes => simp [Statement.byLabel, statementsByLabel_true body]
  | _ => simp [Statement.byLabel]

/-- The same for some statements. -/
theorem statementsByLabel_true (ss : List Statement) : statementsByLabel true ss = true := by
  cases ss with
  | nil => rfl
  | cons s ss => rw [statementsByLabel, s.byLabel_true, statementsByLabel_true ss, Bool.and_self]

end

/-! ## Resources -/

/-- Whether lengths and texts are measured without a look at marks. -/
structure Resources.IgnoresMarks (t : Resources (Marked K)) : Prop where
  /-- Lengths are. -/
  units : ∀ (ρ : Renaming) x unit, Alike ρ.number (t.units x unit) (t.units (ρ.number x) unit)
  /-- Texts are. -/
  measures : ∀ ρ : Renaming, ρ.Measures t.measure

/-- The usual resources have no use for marks. -/
theorem Resources.standard_ignoresMarks [Arith K] :
    (Resources.standard : Resources (Marked K)).IgnoresMarks where
  units ρ x unit := by
    cases unit <;> exact .ok _
  measures ρ := ρ.measures_standard

/-! ## Drawings -/

/-- Whether one drawing is another after a detour. -/
structure Drawing.Mirrors (σ : Detour) (d e : Drawing (Marked K)) : Prop where
  /-- The objects and scopes are the same, but for those added. -/
  registry : d.registry.Mirrors σ e.registry
  /-- Statements work in the same scope. -/
  scope : e.scope = d.scope
  /-- The next object is attached at the same place. -/
  cursor : e.cursor = σ.names.cursor d.cursor
  /-- The same was printed. -/
  messages : e.messages = d.messages
  /-- Every object that was added was a change. -/
  serial : e.serial = d.serial + σ.guests.length

/-- Whether the names of all that is added from one drawing to another are those it gets after a
detour.  The second drawing is counted with the detour. -/
structure Detour.Covers (σ : Detour) (d e : Drawing (Marked K)) : Prop where
  /-- Objects are counted on. -/
  index : ∀ i, d.registry.arena.length ≤ i → i + σ.guests.length < e.registry.arena.length →
    σ.names.index i = i + σ.guests.length
  /-- Changes are counted on. -/
  writes : ∀ n, d.serial ≤ n → n + σ.guests.length < e.serial →
    σ.names.Writes n (n + σ.guests.length)

theorem Detour.Covers.mono {σ : Detour} {d d' e e' : Drawing (Marked K)} (h : σ.Covers d e)
    (hd : d.Before d') (he : e'.Before e) : σ.Covers d' e' where
  index i hi hlt := h.index i (hd.objects.trans hi) (hlt.trans_le he.objects)
  writes n hn hlt := h.writes n (hd.changes.trans hn) (hlt.trans_le he.changes)

namespace Renaming

variable [Arith K] (ρ : Renaming)

theorem numberText_number (x : Marked K) : numberText (ρ.number x) = numberText x := by
  unfold numberText Arith.compact
  rw [ρ.nearest_number]
  rfl

theorem pointText_point (p : Point (Marked K)) :
    Drawing.pointText (ρ.point p) = Drawing.pointText p := by
  unfold Drawing.pointText
  rw [show (ρ.point p).x = ρ.number p.x from rfl, show (ρ.point p).y = ρ.number p.y from rfl,
    ρ.numberText_number, ρ.numberText_number]

end Renaming

theorem View.Mirrors.itemText [Arith K] {ρ : Renaming} {counting : Bool} {v w : View (Marked K)}
    (h : v.Mirrors ρ counting w) {item : PrintItem} (hi : item.byLabel counting = true) :
    Alike id (Drawing.itemText v item) (Drawing.itemText w item) := by
  cases item with
  | text s => exact .ok s
  | value e => exact .bind (h.scalar hi) fun x _ => ρ.numberText_number x ▸ .refl _

namespace Drawing.Mirrors

variable [Arith K] {σ : Detour} {t : Resources (Marked K)} {d e : Drawing (Marked K)}
  (h : d.Mirrors σ e)
include h

omit [Arith K] in
theorem direction : e.cursor.direction = d.cursor.direction := by
  rw [h.cursor, σ.names.cursor_direction]

omit [Arith K] in
/-- The same with other objects and scopes. -/
theorem withRegistry {r r' : Registry (Marked K)} (hr : r.Mirrors σ r') :
    ({ d with registry := r } : Drawing _).Mirrors σ { e with registry := r' } :=
  { h with registry := hr }

omit [Arith K] in
/-- The same with one more change. -/
theorem counted {r r' : Registry (Marked K)} (hr : r.Mirrors σ r') :
    ({ d with registry := r, serial := d.serial + 1 } : Drawing _).Mirrors σ
      { e with registry := r', serial := e.serial + 1 } :=
  ⟨hr, h.scope, h.cursor, h.messages, by rw [h.serial, Nat.add_right_comm]⟩

omit [Arith K] in
/-- The next object gets the name that it has after the detour. -/
theorem index_eq {e' : Drawing (Marked K)} (hc : σ.Covers d e')
    (hlt : e.registry.arena.length < e'.registry.arena.length) :
    σ.names.index d.registry.arena.length = e.registry.arena.length := by
  rw [h.registry.count] at hlt ⊢
  exact hc.index _ (Nat.le_refl _) hlt

omit [Arith K] in
/-- The next change gets the marks that it has after the detour. -/
theorem writes {e' : Drawing (Marked K)} (hc : σ.Covers d e') (hlt : e.serial < e'.serial) :
    σ.names.Writes d.serial e.serial := by
  rw [h.serial] at hlt ⊢
  exact hc.writes _ (Nat.le_refl _) hlt

variable (ht : t.IgnoresMarks)
include ht

omit [Arith K] in
theorem view : (d.view t).Mirrors σ.names σ.guests.isEmpty (e.view t) := by
  unfold Drawing.view
  rw [h.scope]
  exact h.registry.view d.scope t.colors (ht.units σ.names)

theorem setting (hw : σ.names.Writes d.serial e.serial) :
    (d.setting t).Mirrors σ.names σ.guests.isEmpty (e.setting t) where
  view := h.view ht
  cursor := h.cursor
  measure := rfl
  measures := ht.measures σ.names
  serial := hw

/-! ### Statements that draw nothing -/

theorem assign (name : String) (op : AssignOp) {value : Scalar}
    (hv : value.byLabel σ.guests.isEmpty = true) :
    Together (Drawing.Mirrors σ) (d.assign t name op value) (e.assign t name op value) := by
  have assigned : ∀ x, Alike σ.names.number (Drawing.assigned (d.view t) name op x)
      (Drawing.assigned (e.view t) name op (σ.names.number x)) := by
    intro x
    unfold Drawing.assigned
    cases op.operation? with
    | none => exact .ok x
    | some f =>
      rw [(h.view ht).lookup]
      cases (d.view t).registry.lookupVariable (d.view t).scope name with
      | none => exact .error _ _
      | some current =>
        exact .bind (View.Mirrors.operate f current x) fun y _ =>
          .ite Iff.rfl (fun _ => .ok y) fun _ => .error _ _
  refine ((h.view ht).scalar hv).bindTogether fun x _ => (assigned x).bindTogether fun y _ => .ok ?_
  refine h.withRegistry ?_
  rw [h.scope]
  exact h.registry.setVariable d.scope name y

theorem print {items : List PrintItem} (hi : items.all (·.byLabel σ.guests.isEmpty) = true) :
    Together (Drawing.Mirrors σ) (d.print t items) (e.print t items) := by
  have texts : Alike id (items.mapM (Drawing.itemText (d.view t)))
      (items.mapM (Drawing.itemText (e.view t))) := by
    induction items with
    | nil => exact .ok []
    | cons item items ih =>
      rw [List.all_cons, Bool.and_eq_true] at hi
      rw [List.mapM_cons, List.mapM_cons]
      exact .bind ((h.view ht).itemText hi.1) fun s _ => .bind (ih hi.2) fun ss _ => .ok (s :: ss)
  refine texts.bindTogether fun ss _ => .ok { h with messages := ?_ }
  rw [h.messages]
  rfl

theorem assertScalars {left right : Scalar} (hl : left.byLabel σ.guests.isEmpty = true)
    (hr : right.byLabel σ.guests.isEmpty = true) :
    Together (Drawing.Mirrors σ) (d.assertScalars t left right) (e.assertScalars t left right) := by
  refine ((h.view ht).scalar hl).bindTogether fun a _ => ?_
  refine ((h.view ht).scalar hr).bindTogether fun b _ => ?_
  rw [σ.names.numberText_number, σ.names.numberText_number]
  refine (Alike.refl (numberText a)).bindTogether fun _ _ => ?_
  refine (Alike.refl (numberText b)).bindTogether fun _ _ => ?_
  have same : Drawing.nearlyEqual (σ.names.number a) (σ.names.number b) =
    Drawing.nearlyEqual a b := rfl
  rw [same]
  split_ifs
  · exact .ok h
  · exact .error _ _

theorem assertPositions {left right : Position} (hl : left.byLabel σ.guests.isEmpty = true)
    (hr : right.byLabel σ.guests.isEmpty = true) :
    Together (Drawing.Mirrors σ) (d.assertPositions t left right)
      (e.assertPositions t left right) := by
  refine ((h.view ht).position hl).bindTogether fun a _ => ?_
  refine ((h.view ht).position hr).bindTogether fun b _ => ?_
  rw [σ.names.pointText_point, σ.names.pointText_point]
  refine (Alike.refl (Drawing.pointText a)).bindTogether fun _ _ => ?_
  refine (Alike.refl (Drawing.pointText b)).bindTogether fun _ _ => ?_
  have same : (Drawing.nearlyEqual (σ.names.point a).x (σ.names.point b).x &&
      Drawing.nearlyEqual (σ.names.point a).y (σ.names.point b).y) =
    (Drawing.nearlyEqual a.x b.x && Drawing.nearlyEqual a.y b.y) := rfl
  rw [same]
  split_ifs
  · exact .ok h
  · exact .error _ _

theorem bindPlace (hw : σ.names.Writes d.serial e.serial) (label : String) {q : Position}
    (hq : q.byLabel σ.guests.isEmpty = true) :
    Together (Drawing.Mirrors σ) (d.bindPlace t label q) (e.bindPlace t label q) := by
  refine ((h.view ht).position hq).bindTogether fun p _ => ?_
  have stamped : (σ.names.point p).stamp ⟨e.serial, none, 0⟩ =
      σ.names.point (p.stamp ⟨d.serial, none, 0⟩) := by
    rw [← σ.names.stamp_point, hw]
    rfl
  have bound : ∀ p, Together (Registry.Mirrors σ) (d.registry.bindPlace d.scope label p)
      (e.registry.bindPlace e.scope label (σ.names.point p)) := fun p => by
    rw [h.scope]
    exact h.registry.bindPlace d.scope label p
  rw [stamped]
  exact (bound _).bind fun r r' _ hr => .ok (h.counted hr)

/-! ### Declarations -/

omit ht in
theorem create (cls : ObjectClass)
    (hi : σ.names.index d.registry.arena.length = e.registry.arena.length) :
    (d.create cls).2.Mirrors σ (e.create cls).2 := by
  unfold Drawing.create
  rw [h.direction]
  exact h.withRegistry (h.registry.create cls d.cursor.direction hi)

/-- An object is drawn in the same way. -/
theorem draft (hw : σ.names.Writes d.serial e.serial) (id : Nat) (cls : ObjectClass)
    {attributes : List Attribute}
    (ha : attributes.all (·.clause.byLabel σ.guests.isEmpty) = true) :
    Alike σ.names.placed (d.draft t id cls attributes)
      (e.draft t (σ.names.index id) cls attributes) := by
  unfold Drawing.draft
  rw [h.direction]
  refine .bind ((h.view ht).begin id cls _) fun plain _ => ?_
  refine .bind ((h.view ht).applyAll ha plain) fun full _ => ?_
  exact (h.setting ht hw).place full

omit ht in
theorem store (hw : σ.names.Writes d.serial e.serial) (draft : Draft (Marked K)) :
    (d.store draft).Mirrors σ (e.store (σ.names.draft draft)) := by
  refine h.counted ?_
  exact h.registry.modifyObject draft.object.id fun _ _ _ => ⟨_, hw.stamp_object draft.object⟩

omit ht in
theorem advance (draft : Draft (Marked K)) (exit : Option Direction) :
    (d.advance draft exit).Mirrors σ (e.advance (σ.names.draft draft) exit) := by
  have cursor : e.cursor.advance (σ.names.draft draft) exit =
      σ.names.cursor (d.cursor.advance draft exit) := by
    rw [h.cursor, σ.names.advance_cursor]
  exact { h with cursor := cursor }

omit ht in
/-- An object is finished in the same way. -/
theorem finish {draft : Draft (Marked K)} {exit : Option Direction} {label : Option String}
    {e' : Drawing (Marked K)} (he : e.finish (σ.names.draft draft) exit label = (.ok (), e')) :
    ∃ d', d.finish draft exit label = (.ok (), d') ∧ d'.Mirrors σ e' := by
  have finalized := h.registry.finalize d.scope draft.object.id
  unfold Drawing.finish at he ⊢
  rw [h.scope] at he
  cases hf : e.registry.finalize d.scope (σ.names.draft draft).object.id with
  | error f =>
    rw [hf] at he
    cases he
  | ok r' =>
    obtain ⟨r, hr, same⟩ := finalized.exists_eq_ok hf
    rw [hf] at he
    rw [hr]
    cases label with
    | none =>
      cases he
      exact ⟨_, rfl, (h.scope ▸ h.withRegistry same).advance draft exit⟩
    | some l =>
      have labelled := same.bindLabel d.scope l draft.object.id
      dsimp only at he ⊢
      rcases hb : r'.bindLabel d.scope l (σ.names.draft draft).object.id with ⟨_ | _, after'⟩
      · rw [hb] at he
        cases he
      rw [show r'.bindLabel d.scope l (σ.names.index draft.object.id) = _ from hb] at labelled
      obtain ⟨after, ha, same⟩ := labelled.exists_eq_ok rfl
      rcases hd : r.bindLabel d.scope l draft.object.id with ⟨_ | _, x⟩
      · rw [hd] at ha
        cases ha
      rw [hb] at he
      rw [hd] at ha
      cases ha
      cases he
      exact ⟨_, rfl, (h.scope ▸ h.withRegistry same).advance draft exit⟩

/-- An object that is declared after a detour is declared in the same way without it. -/
theorem declare {cls : ObjectClass} {label : Option String} {attributes : List Attribute}
    (ha : attributes.all (·.clause.byLabel σ.guests.isEmpty) = true) {e' : Drawing (Marked K)}
    (he : e.declare t cls label attributes = (.ok (), e')) (hc : σ.Covers d e') :
    ∃ d', d.declare t cls label attributes = (.ok (), d') ∧ d'.Mirrors σ e' := by
  obtain ⟨objects, changes⟩ := e.declare_counts t he
  have hi := h.index_eq hc (by omega)
  have hw := h.writes hc (by omega)
  have created := h.create cls hi
  have drawn := created.draft ht hw (d.create cls).1 cls ha
  unfold Drawing.declare at he ⊢
  dsimp only at he ⊢
  rw [show σ.names.index (d.create cls).1 = (e.create cls).1 from hi] at drawn
  cases hd : (e.create cls).2.draft t (e.create cls).1 cls attributes with
  | error f =>
    rw [hd] at he
    cases he
  | ok p =>
    rw [hd] at he
    obtain ⟨⟨draft, exit⟩, hd', rfl⟩ := drawn.exists_eq_ok hd
    rw [hd']
    exact (created.store hw draft).finish he

/-! ### Groups -/

omit [Arith K] ht in
theorem enter (origin : Point (Marked K)) (hlt : d.scope < d.registry.scopes.length) :
    (d.enter origin).Mirrors σ (e.enter (σ.names.point origin)) := by
  have opened := h.registry.openScope d.scope (Nat.zero_lt_of_lt hlt)
  refine ⟨?_, h.registry.scopes, ?_, h.messages, h.serial⟩
  · unfold Drawing.enter
    rw [h.scope]
    exact opened
  · unfold Drawing.enter
    rw [h.direction]
    rfl

omit [Arith K] ht in
theorem leave {inside inside' : Drawing (Marked K)} (hi : inside.Mirrors σ inside') :
    (inside.leave d).Mirrors σ (inside'.leave e) :=
  ⟨hi.registry, h.scope, h.cursor, hi.messages, hi.serial⟩

omit ht in
theorem scopeBox {s : Nat} (hs : s ≠ 0) :
    Drawing.scopeBox e.registry s = (Drawing.scopeBox d.registry s).map σ.names.box := by
  have boxes : ∀ ids : List Nat,
      ((e.registry.objects (ids.map σ.names.index)).filter (!·.style.invisible)).map (·.box) =
        (((d.registry.objects ids).filter (!·.style.invisible)).map (·.box)).map σ.names.box := by
    intro ids
    induction ids with
    | nil => rfl
    | cons c ids ih =>
      unfold Registry.objects at ih ⊢
      rw [List.map_cons, List.filterMap_cons, List.filterMap_cons]
      cases hc : d.registry.arena[c]? with
      | none =>
        rw [h.registry.getElem?_eq_none hc]
        exact ih
      | some o =>
        obtain ⟨_, ho, n, rfl⟩ := h.registry.objects hc
        have seen : ({ σ.names.object o with ordinal := n } : Object _).style.invisible =
          o.style.invisible := rfl
        have box : ({ σ.names.object o with ordinal := n } : Object _).box = σ.names.box o.box :=
          σ.names.box_object o
        rw [ho]
        dsimp only
        rw [List.filter_cons, List.filter_cons, seen]
        cases o.style.invisible with
        | true => exact ih
        | false => exact congrArg₂ List.cons box ih
  unfold Drawing.scopeBox
  dsimp only
  rw [h.registry.members_eq (if_neg hs), boxes, ← σ.names.mergeAll_box]
  rfl

omit h ht in
theorem enclose_draft (draft : Draft (Marked K)) (origin : Point (Marked K))
    (b : Option (Box (Marked K))) :
    Drawing.enclose (σ.names.draft draft) (σ.names.point origin) (b.map σ.names.box) =
      σ.names.draft (Drawing.enclose draft origin b) := by
  cases b <;> rfl

theorem groupDraft (hw : σ.names.Writes d.serial e.serial) (id : Nat) {inner : Nat}
    (hs : inner ≠ 0) (origin : Point (Marked K))
    {attributes : List Attribute}
    (ha : attributes.all (·.clause.byLabel σ.guests.isEmpty) = true) :
    Alike (fun p => (σ.names.draft p.1, σ.names.draft p.2))
      (d.groupDraft t id inner origin attributes)
      (e.groupDraft t (σ.names.index id) inner (σ.names.point origin) attributes) := by
  unfold Drawing.groupDraft
  rw [h.direction, h.scopeBox hs]
  refine .bind ((h.view ht).begin id .container _) fun plain _ => ?_
  dsimp only
  rw [enclose_draft]
  refine .bind ((h.view ht).applyAll ha _) fun full _ => ?_
  exact .bind ((h.setting ht hw).placeFramed full) fun placed _ => .ok (full, placed)

omit ht in
/-- Members follow their group in the same way. -/
theorem moveMembers {id : Nat} (hid : id ≤ d.registry.arena.length)
    (ho : d.registry.shape.IsOrdered) (dx dy : Marked K)
    (hw : e.serial < (e.moveMembers (σ.names.index id) (σ.names.number dx)
      (σ.names.number dy)).serial → σ.names.Writes d.serial e.serial) :
    (d.moveMembers id dx dy).Mirrors σ
      (e.moveMembers (σ.names.index id) (σ.names.number dx) (σ.names.number dy)) := by
  have same : (Arith.isZero (σ.names.number dx) && Arith.isZero (σ.names.number dy)) =
      (Arith.isZero dx && Arith.isZero dy) := rfl
  unfold Drawing.moveMembers at hw ⊢
  rw [same] at hw ⊢
  split_ifs at hw ⊢
  · exact h
  · have writes := hw (Nat.lt_succ_self _)
    rw [h.registry.descendants ho hid]
    refine h.counted (h.registry.modifyObjects ?_ _)
    rintro o _ ⟨n, rfl⟩
    have moved : ((σ.names.object o).translate (σ.names.number dx) (σ.names.number dy)).stamp
        e.serial = σ.names.object ((o.translate dx dy).stamp d.serial) := by
      rw [σ.names.translate_object, writes.stamp_object]
    exact ⟨n, congrArg (fun o => { o with ordinal := n }) moved⟩

omit ht in
/-- A group gets the same members, and these follow it. -/
theorem assemble (hi : σ.names.index d.registry.arena.length = e.registry.arena.length)
    (hw : σ.names.Writes d.serial e.serial) {inner : Nat} (hs : inner ≠ 0)
    (full placed : Draft (Marked K))
    (ho : (((d.create .container).2.store placed).registry.attachScope
      (d.create .container).1 inner).shape.IsOrdered)
    (hm : e.serial + 1 < (e.assemble inner (σ.names.draft full) (σ.names.draft placed)).serial →
      σ.names.Writes (d.serial + 1) (e.serial + 1)) :
    (d.assemble inner full placed).Mirrors σ
      (e.assemble inner (σ.names.draft full) (σ.names.draft placed)) := by
  have latest : σ.names.index (d.create .container).1 = (e.create .container).1 := hi
  have stored := (h.create .container hi).store hw placed
  have owned := stored.withRegistry (stored.registry.attachScope (d.create .container).1 hs)
  have deep : (d.create .container).1 ≤ (((d.create .container).2.store placed).registry.attachScope
      (d.create .container).1 inner).arena.length := by
    rw [attachScope_length, store_create_length]
    exact Nat.le_succ _
  have moved := owned.moveMembers deep ho (placed.object.center.x - full.object.center.x)
    (placed.object.center.y - full.object.center.y)
  rw [latest] at moved
  exact moved hm

/-- A group that is made after a detour is made in the same way without it. -/
theorem group {inner : Nat} (hs : inner ≠ 0) {origin : Point (Marked K)} {label : Option String}
    {attributes : List Attribute}
    (ha : attributes.all (·.clause.byLabel σ.guests.isEmpty) = true)
    (ho : Shape.IsOrdered (d.registry.shape ++
      [(d.registry.arena.length, (d.registry.scope inner).members)])) {e' : Drawing (Marked K)}
    (he : e.group t inner (σ.names.point origin) label attributes = (.ok (), e'))
    (hc : σ.Covers d e') :
    ∃ d', d.group t inner origin label attributes = (.ok (), d') ∧ d'.Mirrors σ e' := by
  obtain ⟨full', placed', hd, hf⟩ := exists_of_group_eq_ok he
  obtain ⟨objects, changes⟩ := e.assemble_counts inner full' placed'
  obtain ⟨finished, serial⟩ := finish_counts (e.assemble inner full' placed') placed' none label
  rw [hf] at finished serial
  dsimp only at finished serial
  have hi := h.index_eq hc (by omega)
  have hw := h.writes hc (by omega)
  have drawn := (h.create .container hi).groupDraft ht hw (d.create .container).1 hs origin ha
  rw [show σ.names.index (d.create .container).1 = (e.create .container).1 from hi] at drawn
  obtain ⟨⟨full, placed⟩, hd', same⟩ := drawn.exists_eq_ok hd
  obtain ⟨rfl, rfl⟩ := Prod.mk.inj same
  have ordered := ho
  rw [← attached_shape hd'] at ordered
  have assembled := h.assemble hi hw hs full placed ordered fun hlt => by
    have later := hc.writes (d.serial + 1) (Nat.le_succ _)
    rw [Nat.add_right_comm, ← h.serial] at later
    exact later (by rw [serial]; exact hlt)
  obtain ⟨d', hd'', same⟩ := assembled.finish hf
  refine ⟨d', ?_, same⟩
  unfold Drawing.group
  dsimp only
  rw [hd']
  exact hd''

end Drawing.Mirrors

/-! ## Runs -/

/-- Whether the scope of a drawing is there, and its objects are trees. -/
structure Drawing.Sound (d : Drawing K) : Prop where
  /-- The scope is there. -/
  scope_lt : d.scope < d.registry.scopes.length
  /-- The objects are trees. -/
  planted : ∃ roots, Planted 0 d.registry.shape roots

namespace Drawing.Sound

theorem initial [Arith K] : (Drawing.initial : Drawing K).Sound := ⟨Nat.one_pos, [], .nil 0⟩

variable {d d' : Drawing K} (h : d.Sound)
include h

theorem grows {added : Shape} {roots : List Nat} (hg : d.Grows d' added roots) : d'.Sound := by
  obtain ⟨before, hp⟩ := h.planted
  refine ⟨hg.scope.symm ▸ h.scope_lt.trans_le hg.count, before ++ roots, ?_⟩
  rw [hg.shape]
  refine hp.append ?_
  rw [Nat.zero_add, Registry.length_shape]
  exact hg.planted

theorem enter (origin : Point K) : (d.enter origin).Sound :=
  ⟨d.registry.lt_openScope d.scope, h.planted⟩

/-- A group that is put around what was drawn inside comes after all of it. -/
theorem isOrdered_group {inside : Drawing K} {origin : Point K} {added : Shape} {roots : List Nat}
    (grown : (d.enter origin).Grows inside added roots) :
    Shape.IsOrdered ((inside.leave d).registry.shape ++
      [((inside.leave d).registry.arena.length,
        ((inside.leave d).registry.scope d.registry.scopes.length).members)]) := by
  have shape : inside.registry.shape = d.registry.shape ++ added := grown.shape
  have count : inside.registry.arena.length = d.registry.arena.length + added.length := by
    rw [← Registry.length_shape, shape, List.length_append, Registry.length_shape]
  have members : (inside.registry.scope d.registry.scopes.length).members = roots := by
    refine grown.here.trans ?_
    rw [show (d.enter origin).registry = (d.registry.openScope d.scope).2 from rfl,
      show (d.enter origin).scope = d.registry.scopes.length from rfl, Registry.members_openScope,
      List.nil_append]
  have group := grown.planted.group
  rw [show (d.enter origin).registry.arena.length = 0 + d.registry.shape.length by
    rw [Nat.zero_add, Registry.length_shape]; rfl] at group
  obtain ⟨before, hp⟩ := h.planted
  have whole := hp.append group
  rw [Nat.zero_add, Registry.length_shape] at whole
  rw [← List.append_assoc, ← shape, ← count, ← members] at whole
  exact whole.isOrdered

end Drawing.Sound

open Drawing

variable [Arith K] {σ : Detour} {t : Resources (Marked K)}

mutual

/-- What succeeds after a detour also succeeds without it, with the same effect. -/
theorem execute_mirrors (ht : t.IgnoresMarks) {d e e' : Drawing (Marked K)} {s : Statement}
    (h : d.Mirrors σ e) (hd : d.Sound) (hs : s.byLabel σ.guests.isEmpty = true)
    (he : execute t e s = (.ok (), e')) (hc : σ.Covers d e') :
    ∃ d', execute t d s = (.ok (), d') ∧ d'.Mirrors σ e' := by
  cases s with
  | object p cls label attributes =>
    rw [execute] at he ⊢
    obtain ⟨d', hd', same⟩ := h.declare ht hs (Outcome.of_locate he) hc
    exact ⟨d', by rw [hd']; rfl, same⟩
  | group p body label attributes =>
    rw [Statement.byLabel, Bool.and_eq_true] at hs
    obtain ⟨origin', inside', ho', hr', hg'⟩ := exists_of_execute_group_eq_ok he
    obtain ⟨objects, changes⟩ := group_counts hg'
    have within : inside'.Before e' := ⟨objects.symm ▸ Nat.le_succ _, Nat.le_of_lt changes⟩
    have hw := h.writes hc ((run_before hr').changes.trans_lt changes)
    obtain ⟨origin, ho, rfl⟩ := ((h.setting ht hw).stackingStart true).exists_eq_ok ho'
    obtain ⟨inside, hr, same⟩ := run_mirrors ht (h.enter origin hd.scope_lt) (hd.enter origin)
      hs.1 hr' (hc.mono ⟨Nat.le_refl _, Nat.le_refl _⟩ within)
    obtain ⟨added, roots, grown⟩ := run_grows hr (hd.enter origin).scope_lt
    have ordered := hd.isOrdered_group grown
    rw [h.registry.scopes] at hg'
    have inner : d.registry.scopes.length ≠ 0 := Nat.ne_of_gt (Nat.zero_lt_of_lt hd.scope_lt)
    have drawn := run_before hr
    obtain ⟨d', hg, same⟩ := (h.leave same).group ht inner hs.2 ordered hg'
      (hc.mono ⟨drawn.objects, drawn.changes⟩ (.refl e'))
    refine ⟨d', ?_, same⟩
    rw [execute_group ho, hr]
    exact congrArg (Outcome.locate · p) hg
  | assign p name op value =>
    rw [execute] at he ⊢
    obtain ⟨d', hd', same⟩ :=
      (h.assign ht name op hs).exists_eq_ok (of_attempt (Outcome.of_locate he))
    exact ⟨d', by rw [hd']; rfl, same⟩
  | direction p dir =>
    rw [execute] at he ⊢
    cases he
    refine ⟨_, rfl, ?_⟩
    exact { h with cursor := by rw [h.cursor]; rfl }
  | print p items =>
    rw [execute] at he ⊢
    obtain ⟨d', hd', same⟩ := (h.print ht hs).exists_eq_ok (of_attempt (Outcome.of_locate he))
    exact ⟨d', by rw [hd']; rfl, same⟩
  | assertScalars p left right =>
    rw [execute] at he ⊢
    rw [Statement.byLabel, Bool.and_eq_true] at hs
    obtain ⟨d', hd', same⟩ :=
      (h.assertScalars ht hs.1 hs.2).exists_eq_ok (of_attempt (Outcome.of_locate he))
    exact ⟨d', by rw [hd']; rfl, same⟩
  | assertPositions p left right =>
    rw [execute] at he ⊢
    rw [Statement.byLabel, Bool.and_eq_true] at hs
    obtain ⟨d', hd', same⟩ :=
      (h.assertPositions ht hs.1 hs.2).exists_eq_ok (of_attempt (Outcome.of_locate he))
    exact ⟨d', by rw [hd']; rfl, same⟩
  | place p label q =>
    rw [execute] at he ⊢
    have bound := of_attempt (Outcome.of_locate he)
    have changed : Ensures (fun e' => e'.serial = e.serial + 1) (e.bindPlace t label q) :=
      .andThen fun _ => .andThen fun _ => .ok rfl
    have hw := h.writes hc (by rw [changed _ bound]; exact Nat.lt_succ_self _)
    obtain ⟨d', hd', same⟩ := (h.bindPlace ht hw label hs).exists_eq_ok bound
    exact ⟨d', by rw [hd']; rfl, same⟩

/-- What succeeds after a detour also succeeds without it, and leads to the same. -/
theorem run_mirrors (ht : t.IgnoresMarks) {d e e' : Drawing (Marked K)} {ss : List Statement}
    (h : d.Mirrors σ e) (hd : d.Sound) (hs : statementsByLabel σ.guests.isEmpty ss = true)
    (he : run t e ss = (.ok (), e')) (hc : σ.Covers d e') :
    ∃ d', run t d ss = (.ok (), d') ∧ d'.Mirrors σ e' := by
  cases ss with
  | nil =>
    rw [run] at he ⊢
    cases he
    exact ⟨d, rfl, h⟩
  | cons s ss =>
    rw [statementsByLabel, Bool.and_eq_true] at hs
    obtain ⟨mid', hmid', hrest⟩ := exists_of_run_cons_eq_ok he
    obtain ⟨mid, hmid, same⟩ :=
      execute_mirrors ht h hd hs.1 hmid' (hc.mono (.refl d) (run_before hrest))
    obtain ⟨added, roots, grown⟩ := execute_grows hmid hd.scope_lt
    obtain ⟨d', hd', same⟩ :=
      run_mirrors ht same (hd.grows grown) hs.2 hrest (hc.mono (execute_before hmid) (.refl e'))
    refine ⟨d', ?_, same⟩
    rw [run, hmid]
    exact hd'

end

end DiagramScript
