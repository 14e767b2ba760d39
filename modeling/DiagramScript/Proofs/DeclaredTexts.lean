import DiagramScript.Proofs.ClauseEffects
import DiagramScript.Proofs.Declarations
import DiagramScript.Proofs.MirroredDrafts

/-!
# The texts of objects

The text of an object are the lines that its declaration gives it, in their order.  Placing an
object may change its size, but not its text, and being taken along by a group changes neither.

* `Declaration.lines` — the lines that a declaration gives its object.
* `Draft.applyAll_text` — the text of a draft.
* `Object.figure` — class, size and text of an object; `Drawing.Wraps.exists_figure` says that a
  group leaves them alone.
* `Registry.hasLines_settles` — the text of an object stays what it was declared as.
-/

namespace DiagramScript

variable {K : Type}

/-! ## Lines -/

/-- The line of text that a clause is. -/
def Clause.line? : Clause → Option TextLine
  | .text line => some line
  | _ => none

/-- The lines of text among some clauses. -/
def linesOf (as : List Attribute) : List TextLine := as.filterMap (·.clause.line?)

theorem linesOf_concat (as : List Attribute) (a : Attribute) :
    linesOf (as ++ [a]) = linesOf as ++ a.clause.line?.toList := by
  unfold linesOf
  rw [List.filterMap_append]
  cases h : a.clause.line? <;> simp [h]

/-- The lines of text that a declaration gives its object. -/
def Declaration.lines (decl : Declaration) : List TextLine := linesOf decl.attributes

/-- Class, size and text of an object. -/
def Object.figure (o : Object K) : ObjectClass × K × K × K × List TextLine :=
  (o.cls, o.width, o.height, o.radius, o.text)

variable [Arith K]

/-! ## Drafts -/

namespace Draft

variable {v : View K} {d d' : Draft K} {c : Clause}

theorem resize_text (d : Draft K) (what : Dimension) (x : K) :
    (d.resize what x).object.text = d.object.text := by
  obtain ⟨_, _, _, _, _, h⟩ := d.exists_resize_eq what x
  rw [h]

/-- A clause adds the line that it is. -/
theorem Effect.text_eq (h : d.Effect v c d') :
    d'.object.text = d.object.text ++ c.line?.toList := by
  have same : ∀ {d' : Draft K} {c : Clause}, d'.object.text = d.object.text → c.line? = none →
      d'.object.text = d.object.text ++ c.line?.toList := by
    intro d' c text none
    rw [text, none, Option.toList_none, List.append_nil]
  cases h with
  | text line => rfl
  | size usual given => exact same (d.resize_text _ _) rfl
  | flag what => cases what <;> exact same rfl rfl
  | style restyles keeps => exact same rfl (by cases c <;> first | rfl | cases restyles)
  | path leads headings starts ends =>
    exact same rfl (by cases c <;> first | rfl | cases leads)
  | thickness usual given => exact same rfl rfl
  | same source => exact same rfl rfl
  | located place => exact same rfl rfl
  | anchored place => exact same rfl rfl

/-- All clauses together add their lines. -/
theorem applyAll_text (v : View K) (d : Draft K) (as : List Attribute) :
    Ensures (fun d' => d'.object.text = d.object.text ++ linesOf as) (Draft.applyAll v d as) := by
  refine applyAll_induct v d (P := fun as d' => d'.object.text = d.object.text ++ linesOf as)
    (List.append_nil _).symm ?_ as
  intro as a next last hn _ effect
  rw [effect.text_eq, hn, linesOf_concat, List.append_assoc]

theorem placeFramed_figure (d : Draft K) (s : Setting K) :
    Ensures (fun placed => placed.object.figure = d.object.figure) (d.placeFramed s) := by
  intro placed h
  obtain ⟨center, rfl⟩ := d.placeFramed_recenters s placed h
  rfl

/-- A new object has no text. -/
theorem begin_text (v : View K) (id : Nat) (cls : ObjectClass) (direction : Direction) :
    Ensures (fun d => d.object.text = []) (Draft.begin v id cls direction) := by
  refine .andThen fun radius => .andThen fun width => .andThen fun height => ?_
  exact .andThen fun style => .ite (.andThen fun unit => .ok rfl) (.ok rfl)

end Draft

/-! ## Runs -/

/-- Being taken along by a group changes neither class nor size nor text of an object. -/
theorem Object.enclosed_figure (o : Object K) (dx dy : K) (serial group : Nat) (roots : List Nat) :
    (o.enclosed dx dy serial group roots).figure = o.figure := by
  unfold enclosed carry
  split_ifs <;> rfl

/-- So nothing that is there before a group is put around some of it looks different afterwards. -/
theorem Drawing.Wraps.exists_figure {after d' : Drawing K} {first serial j : Nat}
    {group o : Object K} {dx dy : K} (wraps : after.Wraps d' first group dx dy serial)
    (ho : after.registry.arena[j]? = some o) :
    ∃ o', d'.registry.arena[j]? = some o' ∧ o'.figure = o.figure := by
  rcases Nat.lt_or_ge j first with hj | hj
  · exact ⟨o, (wraps.older j hj).trans ho, rfl⟩
  · have known := (List.getElem?_eq_some_iff.1 ho).1
    exact ⟨_, (wraps.moved j hj known).trans (congrArg _ ho), o.enclosed_figure ..⟩

namespace Registry

/-- Whether the text of an object is what a declaration says. -/
def HasLines (r : Registry K) (i : Nat) (decl : Declaration) : Prop :=
  ∃ o, r.arena[i]? = some o ∧ o.text = decl.lines

/-- Objects have the text that they are declared with, and keep it. -/
theorem hasLines_settles (t : Resources K) : Declaration.Settles t (HasLines (K := K)) where
  declared {d r draft exit n cls label attributes} _ drafted _ found := by
    refine ⟨_, found, ?_⟩
    have text : Ensures (fun p => p.1.object.text = linesOf attributes)
        ((d.create cls).2.draft t (d.create cls).1 cls attributes) := by
      refine .bind (Draft.begin_text _ _ cls _) fun plain hb => ?_
      refine .bind (plain.applyAll_text _ attributes) fun full hf => ?_
      intro p hp
      rw [(full.place_redraws _ p hp).text, hf, hb, List.nil_append]
    exact text _ drafted
  grouped {after d' inner first n origin full placed label attributes} drafted wraps := by
    refine ⟨_, wraps.found, ?_⟩
    have text : Ensures (fun p => p.2.object.text = linesOf attributes)
        ((after.create .container).2.groupDraft t after.registry.arena.length inner origin
          attributes) := by
      refine .bind (Draft.begin_text _ _ .container _) fun plain hb => ?_
      refine .bind (Draft.applyAll_text _ _ attributes) fun full hf => ?_
      refine .bind (full.placeFramed_figure _) fun placed hp => .ok ?_
      have same : placed.object.text = full.object.text := congrArg (·.2.2.2.2) hp
      have plain : ∀ box, (Drawing.enclose plain origin box).object.text = [] := fun box => by
        cases box <;> exact hb
      rw [same, hf, plain, List.nil_append]
    exact text _ drafted
  wrapped {after d' first group dx dy serial i decl} wraps _ _ := by
    rintro ⟨o, ho, text⟩
    obtain ⟨o', ho', same⟩ := wraps.exists_figure ho
    exact ⟨o', ho', (congrArg (·.2.2.2.2) same).trans text⟩
  later {r r' i decl} same := by
    rintro ⟨o, ho, text⟩
    exact ⟨o, (same i (Nat.le_refl i)).trans ho, text⟩

end Registry

end DiagramScript
