import DiagramScript.Proofs.RunEvolution

/-!
# Counting objects and changes

Every new object gets the next number, and every change that writes coordinates down the next serial
number.

* `Drawing.Before` — how far both have been counted.
* `Drawing.declare_counts`, `Drawing.assemble_counts` — declarations and groups count on.
* `Drawing.exists_of_group_eq_ok` — a group that succeeds, step by step.
* `run_before` — runs never count back.
-/

namespace DiagramScript

variable {K : Type}

/-! ## Drawings -/

/-- Whether a drawing has no more objects than another, and has been changed no more often. -/
structure Drawing.Before (d e : Drawing K) : Prop where
  /-- It has no more objects. -/
  objects : d.registry.arena.length ≤ e.registry.arena.length
  /-- No more changes were written down. -/
  changes : d.serial ≤ e.serial

namespace Drawing

theorem Before.refl (d : Drawing K) : d.Before d := ⟨Nat.le_refl _, Nat.le_refl _⟩

theorem Before.trans {d e f : Drawing K} (h : d.Before e) (h' : e.Before f) : d.Before f :=
  ⟨h.objects.trans h'.objects, h.changes.trans h'.changes⟩

variable [Arith K] (d : Drawing K) (t : Resources K)

omit [Arith K] in
theorem attachScope_length (r : Registry K) (id s : Nat) :
    (r.attachScope id s).arena.length = r.arena.length := by
  unfold Registry.attachScope Registry.adopt
  split_ifs
  · dsimp only
    rw [Registry.length_foldl_modifyObject, Registry.modifyObject, List.length_modify]
  · rfl

theorem finish_counts (draft : Draft K) (exit : Option Direction) (label : Option String) :
    (d.finish draft exit label).2.registry.arena.length = d.registry.arena.length ∧
      (d.finish draft exit label).2.serial = d.serial := by
  have finalized : ∀ {r : Registry K} {s id}, d.registry.finalize s id = .ok r →
      r.arena.length = d.registry.arena.length := fun hf => by
    rw [← Registry.length_shape, (Registry.finalize_members _ hf).1, Registry.length_shape]
  have labelled : ∀ (r : Registry K) (s id : Nat) (l : String),
      (r.bindLabel s l id).2.arena.length = r.arena.length := fun r s id l => by
    unfold Registry.bindLabel
    split
    · rfl
    · exact List.length_modify ..
  unfold finish
  split
  · exact ⟨rfl, rfl⟩
  · rename_i r hr
    split
    · exact ⟨finalized hr, rfl⟩
    · rename_i l
      have same := labelled r d.scope draft.object.id l
      split <;> rename_i hb <;> rw [hb] at same <;> exact ⟨same.trans (finalized hr), rfl⟩

theorem store_create_length (cls : ObjectClass) (draft : Draft K) :
    ((d.create cls).2.store draft).registry.arena.length = d.registry.arena.length + 1 := by
  rw [store, Registry.modifyObject, List.length_modify, create, Registry.create,
    List.length_append]
  rfl

/-- A declaration adds one object and changes the drawing once, if it succeeds. -/
theorem declare_counts {cls : ObjectClass} {label : Option String} {attributes : List Attribute}
    {d' : Drawing K} (h : d.declare t cls label attributes = (.ok (), d')) :
    d'.registry.arena.length = d.registry.arena.length + 1 ∧ d'.serial = d.serial + 1 := by
  unfold declare at h
  dsimp only at h
  split at h
  · cases h
  · rename_i draft exit _
    have counts := finish_counts ((d.create cls).2.store draft) draft exit label
    rw [h] at counts
    exact ⟨counts.1.trans (d.store_create_length cls draft), counts.2⟩

theorem moveMembers_counts (id : Nat) (dx dy : K) :
    (d.moveMembers id dx dy).registry.arena.length = d.registry.arena.length ∧
      d.serial ≤ (d.moveMembers id dx dy).serial := by
  unfold moveMembers
  split_ifs
  · exact ⟨rfl, Nat.le_refl _⟩
  · exact ⟨Registry.length_foldl_modifyObject _ _ _, Nat.le_succ _⟩

/-- A group before it is finished: written down, with its members, which have followed it. -/
def assemble (inner : Nat) (full placed : Draft K) : Drawing K :=
  let stored := (d.create .container).2.store placed
  let owned : Drawing K :=
    { stored with registry := stored.registry.attachScope (d.create .container).1 inner }
  owned.moveMembers (d.create .container).1 (placed.object.center.x - full.object.center.x)
    (placed.object.center.y - full.object.center.y)

variable {d t} in
theorem exists_of_group_eq_ok {inner : Nat} {origin : Point K} {label : Option String}
    {attributes : List Attribute} {d' : Drawing K}
    (h : d.group t inner origin label attributes = (.ok (), d')) :
    ∃ full placed, (d.create .container).2.groupDraft t (d.create .container).1 inner origin
      attributes = .ok (full, placed) ∧
        (d.assemble inner full placed).finish placed none label = (.ok (), d') := by
  unfold group at h
  dsimp only at h
  split at h
  · cases h
  · rename_i full placed hd
    exact ⟨full, placed, hd, h⟩

theorem assemble_counts (inner : Nat) (full placed : Draft K) :
    (d.assemble inner full placed).registry.arena.length = d.registry.arena.length + 1 ∧
      d.serial < (d.assemble inner full placed).serial := by
  have moved := moveMembers_counts
    { (d.create .container).2.store placed with
      registry := ((d.create .container).2.store placed).registry.attachScope
        (d.create .container).1 inner }
    (d.create .container).1 (placed.object.center.x - full.object.center.x)
    (placed.object.center.y - full.object.center.y)
  refine ⟨moved.1.trans ?_, moved.2⟩
  dsimp only
  rw [attachScope_length, store_create_length]

variable {d t} in
/-- A group adds one object and changes the drawing, if it succeeds. -/
theorem group_counts {inner : Nat} {origin : Point K} {label : Option String}
    {attributes : List Attribute} {d' : Drawing K}
    (h : d.group t inner origin label attributes = (.ok (), d')) :
    d'.registry.arena.length = d.registry.arena.length + 1 ∧ d.serial < d'.serial := by
  obtain ⟨full, placed, -, hf⟩ := exists_of_group_eq_ok h
  obtain ⟨objects, changes⟩ := d.assemble_counts inner full placed
  obtain ⟨finished, serial⟩ := finish_counts (d.assemble inner full placed) placed none label
  rw [hf] at finished serial
  exact ⟨finished.trans objects, serial.symm ▸ changes⟩

end Drawing

/-! ## Runs -/

open Drawing

variable [Arith K] {t : Resources K}

theorem Drawing.Notes.before {d d' : Drawing K} {s : Statement} (h : d.Notes t s d') :
    d.Before d' := by
  cases h with
  | place => exact ⟨Nat.le_refl _, Nat.le_succ _⟩
  | _ => exact ⟨Nat.le_refl _, Nat.le_refl _⟩

mutual

theorem execute_before {d d' : Drawing K} {s : Statement} (h : execute t d s = (.ok (), d')) :
    d.Before d' := by
  cases s with
  | object p cls label attributes =>
    rw [execute] at h
    obtain ⟨objects, changes⟩ := d.declare_counts t (Outcome.of_locate h)
    exact ⟨by omega, by omega⟩
  | group p body label attributes =>
    obtain ⟨origin, inside, -, hr, hg⟩ := exists_of_execute_group_eq_ok h
    have within := run_before hr
    obtain ⟨objects, changes⟩ := group_counts hg
    exact ⟨within.objects.trans (objects.symm ▸ Nat.le_succ _),
      within.changes.trans (Nat.le_of_lt changes)⟩
  | _ => exact (Notes.of_execute h rfl).before

/-- Objects and changes are counted upward. -/
theorem run_before {d d' : Drawing K} {ss : List Statement} (h : run t d ss = (.ok (), d')) :
    d.Before d' := by
  cases ss with
  | nil =>
    rw [run] at h
    cases h
    exact .refl d
  | cons s ss =>
    obtain ⟨e, hs, hr⟩ := exists_of_run_cons_eq_ok h
    exact (execute_before hs).trans (run_before hr)

end

end DiagramScript
