import DiagramScript.Proofs.Forest
import DiagramScript.Proofs.MirroredViews
import DiagramScript.Proofs.Standing
import Mathlib.Data.List.Forall2

/-!
# Registries under other names

One run may have made a detour that another has not: it has added objects at the top level to which
nothing refers.  What both know besides is the same under other names, and stays so as long as both
do the same.

* `Detour` — what the one run has more, and the names that the other things have there.
* `Scope.Mirrors`, `Registry.Mirrors` — scopes and registries that are the same apart from a detour.
* `Registry.Mirrors.view` — the same can be looked up in both.
* `Registry.Mirrors.append`, `Registry.Mirrors.finalize` and so on — every change keeps them so.
-/

namespace DiagramScript

variable {K : Type}

/-- What a run has done in between that another run has not done. -/
structure Detour where
  /-- What everything else is called after it. -/
  names : Renaming
  /-- The objects that were added to the top level. -/
  guests : List Nat

/-- The objects that were added to a scope. -/
def Detour.guestsIn (σ : Detour) (s : Nat) : List Nat := if s = 0 then σ.guests else []

/-! ## Tables under other names -/

theorem Variables.set_map {L : Type} (f : K → L) (vs : Variables K) (name : String) (x : K) :
    Variables.set (vs.map fun e => (e.1, f e.2)) name (f x) =
      (Variables.set vs name x).map fun e => (e.1, f e.2) := by
  induction vs with
  | nil => rfl
  | cons e vs ih =>
    rw [List.map_cons, Variables.set, Variables.set, ih]
    split_ifs <;> rfl

/-! ## Scopes -/

/-- Whether one scope knows the same as another under other names.  What they count is left out. -/
structure Scope.Mirrors (ρ : Renaming) (sc sc' : Scope (Marked K)) : Prop where
  /-- The scopes around them are the same. -/
  parent : sc'.parent = sc.parent
  /-- Labels name the same objects. -/
  labels : sc'.labels = sc.labels.map fun e => (e.1, ρ.index e.2)
  /-- Labels name the same points. -/
  places : sc'.places = sc.places.map fun e => (e.1, ρ.point e.2)
  /-- Variables have the same values. -/
  bindings : sc'.bindings = sc.bindings.map fun e => (e.1, ρ.number e.2)

namespace Scope.Mirrors

variable {ρ : Renaming} {sc sc' : Scope (Marked K)} (h : sc.Mirrors ρ sc')
include h

theorem lookup_labels (label : String) :
    sc'.labels.lookup label = (sc.labels.lookup label).map ρ.index := by
  rw [h.labels]
  exact lookup_map Function.injective_id ρ.index sc.labels label

theorem lookup_places (label : String) :
    sc'.places.lookup label = (sc.places.lookup label).map ρ.point := by
  rw [h.places]
  exact lookup_map Function.injective_id ρ.point sc.places label

theorem isTaken (label : String) : sc'.isTaken label = sc.isTaken label := by
  rw [Scope.isTaken, Scope.isTaken, h.lookup_labels, h.lookup_places, Option.isSome_map,
    Option.isSome_map]

theorem get? (name : String) :
    Variables.get? sc'.bindings name = (Variables.get? sc.bindings name).map ρ.number := by
  rw [h.bindings]
  exact lookup_map Function.injective_id ρ.number sc.bindings name

end Scope.Mirrors

namespace Registry

theorem findLabel_alike {ρ : Renaming} {scs scs' : List (Scope (Marked K))}
    (h : List.Forall₂ (Scope.Mirrors ρ) scs scs') (label : String) :
    Alike ρ.index (findLabel label scs) (findLabel label scs') := by
  induction h with
  | nil => exact .error _ _
  | cons hs _ ih =>
    rw [findLabel, findLabel, hs.lookup_labels, hs.lookup_places]
    cases List.lookup label _ with
    | some id => exact .ok id
    | none =>
      cases List.lookup label _ with
      | some p => exact .error _ _
      | none => exact ih

theorem findPlace_map {ρ : Renaming} {scs scs' : List (Scope (Marked K))}
    (h : List.Forall₂ (Scope.Mirrors ρ) scs scs') (label : String) :
    findPlace label scs' = (findPlace label scs).map ρ.point := by
  induction h with
  | nil => rfl
  | cons hs _ ih =>
    rw [findPlace, findPlace, hs.lookup_labels, hs.lookup_places, ih]
    cases List.lookup label _ with
    | some id => rfl
    | none => cases List.lookup label _ <;> rfl

/-! ## Registries -/

/-- Whether one registry is another after a detour. -/
structure Mirrors (σ : Detour) (r r' : Registry (Marked K)) : Prop where
  /-- The objects are the same. -/
  objects : ∀ {id o}, r.arena[id]? = some o →
    ∃ o', r'.arena[σ.names.index id]? = some o' ∧ o.Mirrors σ.names o'
  /-- There are as many others as were added in between. -/
  count : r'.arena.length = r.arena.length + σ.guests.length
  /-- New objects come after all of them. -/
  beyond : ∀ {id}, r.arena.length ≤ id → r'.arena.length ≤ σ.names.index id
  /-- There are as many scopes. -/
  scopes : r'.scopes.length = r.scopes.length
  /-- Scopes know the same. -/
  scope : ∀ s, (r.scope s).Mirrors σ.names (r'.scope s)
  /-- Scopes have the same members, and those that were added. -/
  members : ∀ s, ∃ earlier later, (r.scope s).members = earlier ++ later ∧
    (r'.scope s).members =
      earlier.map σ.names.index ++ σ.guestsIn s ++ later.map σ.names.index
  /-- Unless some were added, the members are counted alike. -/
  counted : σ.guests = [] → ∀ s cls,
    (r'.scope s).ofClass cls = ((r.scope s).ofClass cls).map σ.names.index
  /-- Groups have the same scopes. -/
  attached : r'.attached = r.attached.map fun e => (σ.names.index e.1, e.2)

namespace Mirrors

variable {σ : Detour} {r r' : Registry (Marked K)} (h : r.Mirrors σ r')
include h

/-! ### What is looked up -/

theorem getElem?_eq_none {id : Nat} (hid : r.arena[id]? = none) :
    r'.arena[σ.names.index id]? = none :=
  List.getElem?_eq_none (h.beyond (List.getElem?_eq_none_iff.1 hid))

theorem object (id : Nat) :
    Together (Object.Mirrors σ.names) (r.object id) (r'.object (σ.names.index id)) := by
  unfold Registry.object
  cases hid : r.arena[id]? with
  | none =>
    rw [h.getElem?_eq_none hid]
    exact .error _ _
  | some o =>
    obtain ⟨o', ho', same⟩ := h.objects hid
    rw [ho']
    exact .ok same

theorem lt_iff (id : Nat) : σ.names.index id < r'.arena.length ↔ id < r.arena.length := by
  constructor
  · intro hlt
    exact Nat.lt_of_not_le fun hle => Nat.not_lt.2 (h.beyond hle) hlt
  · intro hlt
    obtain ⟨o', ho', -⟩ := h.objects (List.getElem?_eq_getElem hlt)
    exact (List.getElem?_eq_some_iff.1 ho').1

theorem enclosing (s : Nat) :
    List.Forall₂ (Scope.Mirrors σ.names) (r.enclosing s) (r'.enclosing s) := by
  induction s using Nat.strongRecOn with
  | ind s ih =>
    rw [Registry.enclosing, Registry.enclosing]
    have here := h.scope s
    unfold Registry.scope at here
    by_cases hs : s < r.scopes.length
    · have hs' : s < r'.scopes.length := h.scopes ▸ hs
      rw [List.getElem?_eq_getElem hs, List.getElem?_eq_getElem hs'] at here ⊢
      dsimp only [Option.getD_some] at here ⊢
      rw [here.parent]
      cases r.scopes[s].parent with
      | none => exact .cons here .nil
      | some p =>
        dsimp only
        split_ifs with hp
        · exact .cons here (ih p hp)
        · exact .cons here .nil
    · have hs' : r'.scopes.length ≤ s := h.scopes ▸ Nat.le_of_not_lt hs
      rw [List.getElem?_eq_none (Nat.le_of_not_lt hs), List.getElem?_eq_none hs']
      exact .nil

theorem resolveLabel (s : Nat) (label : String) ( localOnly : Bool) :
    Alike σ.names.index (r.resolveLabel s label localOnly) (r'.resolveLabel s label localOnly) := by
  unfold Registry.resolveLabel
  refine (findLabel_alike ?_ label).mapError _ _
  cases localOnly with
  | true => exact .cons (h.scope s) .nil
  | false => exact h.enclosing s

theorem scopeOf (id : Nat) : Alike (fun s => s) (r.scopeOf id) (r'.scopeOf (σ.names.index id)) := by
  unfold Registry.scopeOf
  rw [h.attached, lookup_map σ.names.index_strictMono.injective (fun s => s) r.attached id]
  cases r.attached.lookup id with
  | some s => exact .ok s
  | none => exact (h.object id).bindAlike fun _ _ _ => .error _ _

theorem members_eq {s : Nat} (hs : σ.guestsIn s = []) :
    (r'.scope s).members = (r.scope s).members.map σ.names.index := by
  obtain ⟨earlier, later, before, after⟩ := h.members s
  rw [before, after, hs, List.append_nil, List.map_append]

theorem resolveOrdinal (hg : σ.guests = []) (s : Nat) (cls : ObjectClass) (n : Int)
    (fromLast : Bool) : Alike σ.names.index (r.resolveOrdinal s cls n fromLast)
      (r'.resolveOrdinal s cls n fromLast) := by
  have counted : (if fromLast then ((r'.scope s).ofClass cls).reverse else
      (r'.scope s).ofClass cls) = (if fromLast then ((r.scope s).ofClass cls).reverse else
        (r.scope s).ofClass cls).map σ.names.index := by
    rw [h.counted hg, apply_ite (List.map _), List.map_reverse]
  unfold Registry.resolveOrdinal
  dsimp only
  rw [counted]
  by_cases hn : 1 ≤ n
  · rw [if_pos hn, if_pos hn, List.getElem?_map]
    cases (if fromLast then ((r.scope s).ofClass cls).reverse else
      (r.scope s).ofClass cls)[(n - 1).toNat]? with
    | none => exact .error _ _
    | some id => exact .ok id
  · rw [if_neg hn, if_neg hn]
    exact .error _ _

theorem previous (hg : σ.guests = []) (s : Nat) :
    Alike σ.names.index (r.previous s) (r'.previous s) := by
  have idle : σ.guestsIn s = [] := by
    rw [Detour.guestsIn, hg, ite_self]
  unfold Registry.previous
  rw [h.members_eq idle, List.getLast?_map]
  cases (r.scope s).members.getLast? with
  | none => exact .error _ _
  | some id => exact .ok id

theorem select (s : Nat) ( localOnly : Bool) {sel : Selector}
    (hs : sel.byLabel σ.guests.isEmpty = true) :
    Alike σ.names.index (View.select r s localOnly sel) (View.select r' s localOnly sel) := by
  cases sel with
  | label name => exact h.resolveLabel s name localOnly
  | ordinal cls n fromLast => exact h.resolveOrdinal (List.isEmpty_iff.1 hs) s cls n fromLast

theorem follow (s : Nat) {ref : ObjectRef} (hr : ref.byLabel σ.guests.isEmpty = true) :
    Alike σ.names.index (View.follow r s ref) (View.follow r' s ref) := by
  induction ref with
  | previous p => exact h.previous (List.isEmpty_iff.1 hr) s
  | select p sel => exact h.select s false hr
  | member p group q sel ih =>
    rw [ObjectRef.byLabel, Bool.and_eq_true] at hr
    exact .bind (ih hr.1) fun id _ => .bind (h.scopeOf id) fun inner _ => h.select inner true hr.2

/-- The same can be looked up in both. -/
theorem view (s : Nat) (colors : ColorTable) {units : UnitConverter (Marked K)}
    (hu : ∀ x unit, Alike σ.names.number (units x unit) (units (σ.names.number x) unit)) :
    View.Mirrors σ.names σ.guests.isEmpty ⟨r, s, colors, units⟩ ⟨r', s, colors, units⟩ where
  follow := h.follow s
  place label := findPlace_map (h.enclosing s) label
  object := h.object
  lookup name := (h.scope s).get? name
  colors := rfl
  units := hu

/-- What an object holds is the same at every depth. -/
theorem descendantsWithin (depth id : Nat) :
    r'.descendantsWithin depth (σ.names.index id) =
      (r.descendantsWithin depth id).map σ.names.index := by
  induction depth generalizing id with
  | zero => rfl
  | succ depth ih =>
    rw [Registry.descendantsWithin, Registry.descendantsWithin]
    cases hid : r.arena[id]? with
    | none =>
      rw [h.getElem?_eq_none hid]
      rfl
    | some o =>
      obtain ⟨_, ho', n, rfl⟩ := h.objects hid
      rw [ho']
      change (o.children.map σ.names.index).flatMap _ = _
      rw [List.flatMap_map, List.map_flatMap]
      exact List.flatMap_congr fun c _ => by rw [ih]; rfl

/-- What an object holds is the same. -/
theorem descendants (ho : r.shape.IsOrdered) {id : Nat} (hid : id ≤ r.arena.length) :
    r'.descendants (σ.names.index id) = (r.descendants id).map σ.names.index := by
  rw [Registry.descendants, h.descendantsWithin, Registry.descendants, descendantsWithin_eq_below,
    descendantsWithin_eq_below, Shape.below_of_le ho hid, Shape.below_of_le ho]
  rw [h.count]
  exact hid.trans (Nat.le_add_right _ _)

/-! ### What is changed -/

theorem append {o o' : Object (Marked K)} (ho : o.Mirrors σ.names o')
    (hi : σ.names.index r.arena.length = r'.arena.length) :
    (r.append o).Mirrors σ (r'.append o') where
  objects {id x} hx := by
    rcases Nat.lt_or_ge id r.arena.length with hlt | hge
    · rw [Registry.append, List.getElem?_append_left hlt] at hx
      rw [Registry.append, List.getElem?_append_left ((h.lt_iff id).2 hlt)]
      exact h.objects hx
    · have here := (List.getElem?_eq_some_iff.1 hx).1
      rw [Registry.append, List.length_append, List.length_singleton] at here
      obtain rfl : id = r.arena.length := by omega
      rw [Registry.append, List.getElem?_concat_length] at hx
      rw [Registry.append, hi, List.getElem?_concat_length]
      cases hx
      exact ⟨o', rfl, ho⟩
  count := by
    rw [Registry.append, Registry.append, List.length_append, List.length_append, h.count]
    simp only [List.length_singleton]
    omega
  beyond {id} hid := by
    rw [Registry.append, List.length_append, List.length_singleton] at hid ⊢
    exact hi ▸ σ.names.index_strictMono hid
  scopes := h.scopes
  scope := h.scope
  members := h.members
  counted := h.counted
  attached := h.attached

theorem create [Arith K] (cls : ObjectClass) (direction : Direction)
    (hi : σ.names.index r.arena.length = r'.arena.length) :
    (r.create cls direction).2.Mirrors σ (r'.create cls direction).2 := by
  refine h.append ⟨0, ?_⟩ hi
  rw [← hi]
  rfl

theorem modifyObject {f f' : Object (Marked K) → Object (Marked K)} (id : Nat)
    (hf : ∀ o o', o.Mirrors σ.names o' → (f o).Mirrors σ.names (f' o')) :
    (r.modifyObject id f).Mirrors σ (r'.modifyObject (σ.names.index id) f') where
  objects {i x} hx := by
    rw [Registry.modifyObject, List.getElem?_modify] at hx ⊢
    obtain ⟨o, ho, rfl⟩ := Option.map_eq_some_iff.1 hx
    obtain ⟨o', ho', same⟩ := h.objects ho
    rw [ho']
    refine ⟨_, rfl, ?_⟩
    by_cases hid : id = i
    · subst hid
      simpa using hf o o' same
    · simpa [hid, σ.names.index_strictMono.injective.eq_iff] using same
  count := by
    rw [Registry.modifyObject, Registry.modifyObject, List.length_modify, List.length_modify,
      h.count]
  beyond {i} hi := by
    rw [Registry.modifyObject, List.length_modify] at hi ⊢
    exact h.beyond hi
  scopes := h.scopes
  scope := h.scope
  members := h.members
  counted := h.counted
  attached := h.attached

theorem modifyObjects {f f' : Object (Marked K) → Object (Marked K)}
    (hf : ∀ o o', o.Mirrors σ.names o' → (f o).Mirrors σ.names (f' o')) (ids : List Nat) :
    (ids.foldl (fun r c => r.modifyObject c f) r).Mirrors σ
      ((ids.map σ.names.index).foldl (fun r c => r.modifyObject c f') r') := by
  induction ids generalizing r r' with
  | nil => exact h
  | cons c ids ih => exact ih (h.modifyObject c hf)

/-- Changes of a scope that add members to it. -/
theorem modifyScope {f f' : Scope (Marked K) → Scope (Marked K)} (s : Nat) (new : List Nat)
    (hf : ∀ sc sc', sc.Mirrors σ.names sc' → (f sc).Mirrors σ.names (f' sc'))
    (hm : ∀ sc, (f sc).members = sc.members ++ new)
    (hm' : ∀ sc, (f' sc).members = sc.members ++ new.map σ.names.index)
    (hc : ∀ sc sc', (∀ cls, sc'.ofClass cls = (sc.ofClass cls).map σ.names.index) →
      ∀ cls, (f' sc').ofClass cls = ((f sc).ofClass cls).map σ.names.index) :
    (r.modifyScope s f).Mirrors σ (r'.modifyScope s f') where
  objects := h.objects
  count := h.count
  beyond := h.beyond
  scopes := by
    rw [Registry.modifyScope, Registry.modifyScope, List.length_modify, List.length_modify,
      h.scopes]
  scope i := by
    rw [scope_modifyScope, scope_modifyScope, h.scopes]
    split_ifs
    · exact hf _ _ (h.scope i)
    · exact h.scope i
  members i := by
    rw [scope_modifyScope, scope_modifyScope, h.scopes]
    obtain ⟨earlier, later, before, after⟩ := h.members i
    split_ifs
    · refine ⟨earlier, later ++ new, ?_, ?_⟩
      · rw [hm, before, List.append_assoc]
      · rw [hm', after, List.map_append, List.append_assoc _ _ (new.map _)]
    · exact ⟨earlier, later, before, after⟩
  counted hg i := by
    rw [scope_modifyScope, scope_modifyScope, h.scopes]
    split_ifs
    · exact hc _ _ (h.counted hg i)
    · exact h.counted hg i
  attached := h.attached

/-- Changes of a scope that add no members to it. -/
theorem modifyNames {f f' : Scope (Marked K) → Scope (Marked K)} (s : Nat)
    (hf : ∀ sc sc', sc.Mirrors σ.names sc' → (f sc).Mirrors σ.names (f' sc'))
    (hm : ∀ sc, (f sc).members = sc.members ∧ (f sc).ordinals = sc.ordinals)
    (hm' : ∀ sc, (f' sc).members = sc.members ∧ (f' sc).ordinals = sc.ordinals) :
    (r.modifyScope s f).Mirrors σ (r'.modifyScope s f') := by
  refine h.modifyScope s [] hf (fun sc => ?_) (fun sc => ?_) fun sc sc' same cls => ?_
  · rw [(hm sc).1, List.append_nil]
  · rw [(hm' sc).1, List.map_nil, List.append_nil]
  · have alike := same cls
    unfold Scope.ofClass at alike ⊢
    rw [(hm sc).2, (hm' sc').2, alike]

theorem setVariable (s : Nat) (name : String) (x : Marked K) :
    (r.setVariable s name x).Mirrors σ (r'.setVariable s name (σ.names.number x)) := by
  refine h.modifyNames s (fun sc sc' same => ?_) (fun _ => ⟨rfl, rfl⟩) fun _ => ⟨rfl, rfl⟩
  refine ⟨same.parent, same.labels, same.places, ?_⟩
  dsimp only
  rw [same.bindings, Variables.set_map]

theorem openScope (s : Nat) (hlt : 0 < r.scopes.length) :
    (r.openScope s).2.Mirrors σ (r'.openScope s).2 where
  objects := h.objects
  count := h.count
  beyond := h.beyond
  scopes := by rw [length_openScope, length_openScope, h.scopes]
  scope i := by
    by_cases hi : i = r.scopes.length
    · rw [hi, scope_openScope_self, ← h.scopes, scope_openScope_self]
      exact ⟨rfl, rfl, rfl, (h.scope s).bindings⟩
    · rw [scope_openScope_of_ne r s hi, scope_openScope_of_ne r' s (h.scopes ▸ hi)]
      exact h.scope i
  members i := by
    by_cases hi : i = r.scopes.length
    · rw [hi, scope_openScope_self, ← h.scopes, scope_openScope_self, Detour.guestsIn,
        if_neg (h.scopes ▸ Nat.ne_of_gt hlt)]
      exact ⟨[], [], rfl, rfl⟩
    · rw [scope_openScope_of_ne r s hi, scope_openScope_of_ne r' s (h.scopes ▸ hi)]
      exact h.members i
  counted hg i := by
    by_cases hi : i = r.scopes.length
    · rw [hi, scope_openScope_self, ← h.scopes, scope_openScope_self]
      exact fun _ => rfl
    · rw [scope_openScope_of_ne r s hi, scope_openScope_of_ne r' s (h.scopes ▸ hi)]
      exact h.counted hg i
  attached := h.attached

/-- A group gets the same members. -/
theorem attachScope (id : Nat) {s : Nat} (hs : s ≠ 0) :
    (r.attachScope id s).Mirrors σ (r'.attachScope (σ.names.index id) s) := by
  have members := h.members_eq (s := s) (if_neg hs)
  have attached : ({ r with attached := (id, s) :: r.attached } : Registry _).Mirrors σ
      { r' with attached := (σ.names.index id, s) :: r'.attached } :=
    { h with attached := congrArg ((σ.names.index id, s) :: ·) h.attached }
  rw [Registry.attachScope, Registry.attachScope, members, Registry.adopt, Registry.adopt]
  by_cases hid : id < r.arena.length
  · rw [if_pos hid, if_pos ((h.lt_iff id).2 hid)]
    refine (attached.modifyObject id ?_).modifyObjects ?_ _
    · rintro o _ ⟨n, rfl⟩
      exact ⟨n, rfl⟩
    · rintro o _ ⟨n, rfl⟩
      exact ⟨n, rfl⟩
  · rw [if_neg hid, if_neg fun e => hid ((h.lt_iff id).1 e)]
    exact attached

/-- An object is found in both from then on. -/
theorem finalize (s id : Nat) :
    Together (Mirrors σ) (r.finalize s id) (r'.finalize s (σ.names.index id)) := by
  refine (h.object id).bind fun o o' _ same => .ok ?_
  obtain ⟨n, rfl⟩ := same
  refine (h.modifyObject id ?_).modifyScope s [id] (fun sc sc' same => ?_) (fun _ => rfl)
    (fun _ => rfl) fun sc sc' alike cls => ?_
  · rintro o _ ⟨n, rfl⟩
    exact ⟨_, rfl⟩
  · exact ⟨same.parent, same.labels, same.places, same.bindings⟩
  · have added : ∀ sc : Scope (Marked K), ∀ i, (sc.addMember i o.cls).ofClass cls =
        if cls = o.cls then sc.ofClass cls ++ [i] else sc.ofClass cls := fun sc i => by
      unfold Scope.ofClass
      rw [show (sc.addMember i o.cls).ordinals = Scope.addOrdinal i o.cls sc.ordinals from rfl]
      by_cases hc : cls = o.cls
      · subst hc
        rw [if_pos rfl, Scope.lookup_addOrdinal_self]
        rfl
      · rw [if_neg hc, Scope.lookup_addOrdinal_of_ne hc]
    change (sc'.addMember _ o.cls).ofClass cls = _
    rw [added, added, alike, apply_ite (List.map _), List.map_append]
    rfl

theorem requireFree (s : Nat) (label : String) :
    r'.requireFree s label = r.requireFree s label := by
  rw [Registry.requireFree, Registry.requireFree, (h.scope s).isTaken]

theorem recordLabel (s : Nat) (label : String) (id : Nat) :
    (r.recordLabel s label id).Mirrors σ (r'.recordLabel s label (σ.names.index id)) := by
  have labels :
      (r.modifyScope s fun sc => { sc with labels := sc.labels ++ [(label, id)] }).Mirrors σ
        (r'.modifyScope s fun sc =>
          { sc with labels := sc.labels ++ [(label, σ.names.index id)] }) := by
    refine h.modifyNames s (fun sc sc' same => ?_) (fun _ => ⟨rfl, rfl⟩) fun _ => ⟨rfl, rfl⟩
    refine ⟨same.parent, ?_, same.places, same.bindings⟩
    dsimp only
    rw [same.labels, List.map_append]
    rfl
  refine labels.modifyObject id ?_
  rintro o _ ⟨n, rfl⟩
  exact ⟨n, rfl⟩

/-- An object gets its label in both, unless the label is taken. -/
theorem bindLabel [Arith K] (s : Nat) (label : String) (id : Nat) :
    Together (Mirrors σ)
      ((r.bindLabel s label id).1.map fun _ => (r.bindLabel s label id).2)
      ((r'.bindLabel s label (σ.names.index id)).1.map fun _ =>
        (r'.bindLabel s label (σ.names.index id)).2) := by
  unfold Registry.bindLabel
  rw [h.requireFree]
  cases r.requireFree s label with
  | error e => exact .error _ _
  | ok u =>
    exact ((h.object id).map (S := fun _ _ => True) fun _ _ _ => trivial).map fun _ _ _ =>
      h.recordLabel s label id

theorem bindPlace [Arith K] (s : Nat) (label : String) (p : Point (Marked K)) :
    Together (Mirrors σ) (r.bindPlace s label p) (r'.bindPlace s label (σ.names.point p)) := by
  unfold Registry.bindPlace
  rw [h.requireFree]
  cases r.requireFree s label with
  | error e => exact .error _ _
  | ok u =>
    refine .ok (h.modifyNames s (fun sc sc' same => ?_) (fun _ => ⟨rfl, rfl⟩)
      fun _ => ⟨rfl, rfl⟩)
    refine ⟨same.parent, same.labels, ?_, same.bindings⟩
    dsimp only
    rw [same.places, List.map_append]
    rfl

end Mirrors

end Registry

end DiagramScript
