import DiagramScript.Proofs.GuestObjects
import DiagramScript.Proofs.Labels
import DiagramScript.Proofs.ScanSteps
import DiagramScript.Proofs.VisitedObjects

/-!
# Names of elements

The element of an object has the label of the object as its name.  No two objects of one block have
the same label, but objects of different blocks may have, and then two elements have the same name.

* `Markup.names` — the names in a document.
* `Svg.nameOf` — the name that an object gives to its element.
* `Svg.document_names` — the names in a document are those of the objects that are come to, in the
  same order.
* `Diagram.compile_labels_apart` — labels differ within a block.
* `Diagram.compile_namesElements` — which names there are in the document of a script, and when they
  are all different.
-/

namespace DiagramScript

variable {K : Type}

/-! ## Names -/

/-- The names among some elements. -/
def namesAmong (elements : List (String × List (String × String))) : List String :=
  elements.filterMap fun e => e.2.lookup "id"

/-- The names in a document. -/
def Markup.names (m : Markup) : List String := namesAmong m.flatten

theorem namesAmong_append (es more : List (String × List (String × String))) :
    namesAmong (es ++ more) = namesAmong es ++ namesAmong more :=
  List.filterMap_append

/-- Parts of a document without names. -/
theorem namesAmong_flattenAll_eq_nil {ms : List Markup} (h : ∀ m ∈ ms, m.names = []) :
    namesAmong (Markup.flattenAll ms) = [] := by
  induction ms with
  | nil => rfl
  | cons m ms ih =>
    rw [Markup.flattenAll, namesAmong_append, show namesAmong m.flatten = [] from
      h m List.mem_cons_self, ih fun x hx => h x (List.mem_cons_of_mem _ hx), List.append_nil]

namespace Svg

/-- The name of the element of an object, if it has one.  Texts and moves have no element that could
be named, and neither have invisible objects; groups have. -/
def nameOf (o : Object K) : Option String :=
  if o.cls = .container || (!o.style.invisible && o.cls ≠ .text && o.cls ≠ .move) then o.label
  else none

theorem label_of_nameOf {o : Object K} {l : String} (h : nameOf o = some l) : o.label = some l := by
  unfold nameOf at h
  split_ifs at h
  exact h

/-! ### Attributes -/

/-- Whether there is no name among some attributes. -/
def Unnamed (attributes : List (String × String)) : Prop := ∀ a ∈ attributes, a.1 ≠ "id"

theorem Unnamed.append {as more : List (String × String)} (h : Unnamed as) (h' : Unnamed more) :
    Unnamed (as ++ more) := fun a ha =>
  (List.mem_append.1 ha).elim (h a) (h' a)

theorem Unnamed.lookup {as : List (String × String)} (h : Unnamed as) : as.lookup "id" = none := by
  induction as with
  | nil => rfl
  | cons a as ih =>
    have other : ("id" == a.1) = false := beq_false_of_ne (h a List.mem_cons_self).symm
    rw [List.lookup_cons, other]
    exact ih fun x hx => h x (List.mem_cons_of_mem _ hx)

/-- An element without a name adds none. -/
theorem Unnamed.namesAmong_cons {as : List (String × String)} (h : Unnamed as) (tag : String)
    (es : List (String × List (String × String))) :
    namesAmong ((tag, as) :: es) = namesAmong es :=
  List.filterMap_cons_none h.lookup

/-- Whether some attributes name an object. -/
def Names (o : Object K) (attributes : List (String × String)) : Prop :=
  ∃ rest, attributes = nameAttribute o ++ rest ∧ Unnamed rest

theorem Names.self (o : Object K) : Names o (nameAttribute o) :=
  ⟨[], (List.append_nil _).symm, fun _ h => nomatch h⟩

theorem Names.append {o : Object K} {as more : List (String × String)} (h : Names o as)
    (h' : Unnamed more) : Names o (as ++ more) := by
  obtain ⟨rest, rfl, unnamed⟩ := h
  exact ⟨rest ++ more, List.append_assoc .., unnamed.append h'⟩

theorem Names.lookup {o : Object K} {as : List (String × String)} (h : Names o as) :
    as.lookup "id" = o.label := by
  obtain ⟨rest, rfl, unnamed⟩ := h
  unfold nameAttribute
  cases o.label with
  | none => exact unnamed.lookup
  | some l => rfl

/-- Whether an element has the label of an object as its name, and holds no others. -/
def Carries (o : Object K) (m : Markup) : Prop := ∃ tag as, m = .node tag as [] ∧ Names o as

theorem Carries.names {o : Object K} {m : Markup} (h : Carries o m) :
    namesAmong (Markup.flattenAll [m]) = o.label.toList := by
  obtain ⟨tag, as, rfl, named⟩ := h
  show [(tag, as)].filterMap (fun e => e.2.lookup "id") = _
  rw [List.filterMap_cons, named.lookup]
  cases o.label <;> rfl

variable [Arith K] (c : Canvas K) (o : Object K)

theorem numberAttributes_unnamed {pairs : List (String × K)} (h : ∀ p ∈ pairs, p.1 ≠ "id") :
    Ensures Unnamed (numberAttributes pairs) :=
  .mapM fun p hp => .map (P := fun _ => True) (fun _ _ => trivial) fun _ _ => h p hp

theorem dashAttributes_unnamed (s : Style K) : Ensures Unnamed (dashAttributes c s) := by
  unfold dashAttributes
  split
  · exact .andThen fun _ => .ok (by simp [Unnamed])
  · exact .andThen fun _ => .andThen fun _ => .ok (by simp [Unnamed])
  · exact .ok (by simp [Unnamed])

/-- The name of an object stands before its outline. -/
theorem strokeAttributes_names (filled : Bool) :
    Ensures (Names o) (strokeAttributes c o filled) := by
  refine .andThen fun width => .bind (dashAttributes_unnamed c o.style) fun dashes hd => .ok ?_
  exact ((Names.self o).append (by simp [Unnamed])).append hd

/-! ### Shapes -/

theorem rectangle_carries : Ensures (Carries o) (rectangle c o) := by
  refine .bind (strokeAttributes_names c o true) fun stroke hs => ?_
  refine .bind (numberAttributes_unnamed (by simp)) fun sides hsides => ?_
  refine .ite (.bind (numberAttributes_unnamed (by simp)) fun corners hc => ?_) ?_
  · exact .ok ⟨_, _, rfl, (hs.append hsides).append hc⟩
  · exact .bind (P := Unnamed) (.ok fun _ h => nomatch h) fun corners hc =>
      .ok ⟨_, _, rfl, (hs.append hsides).append hc⟩

theorem ellipse_carries : Ensures (Carries o) (ellipse c o) := by
  refine .bind (strokeAttributes_names c o true) fun stroke hs => ?_
  refine .bind (numberAttributes_unnamed (by simp)) fun middle hm => .ite ?_ ?_
  · exact .bind (numberAttributes_unnamed (by simp)) fun radii hr =>
      .ok ⟨_, _, rfl, (hs.append hm).append hr⟩
  · exact .bind (numberAttributes_unnamed (by simp)) fun radius hr =>
      .ok ⟨_, _, rfl, (hs.append hm).append hr⟩

theorem diamond_carries : Ensures (Carries o) (diamond c o) :=
  .bind (strokeAttributes_names c o true) fun _ hs => .andThen fun _ =>
    .ok ⟨_, _, rfl, hs.append (by simp [Unnamed])⟩

theorem outlined_carries (filled : Bool) (pieces : List (PathPiece K)) :
    Ensures (Carries o) (outlined c o filled pieces) :=
  .andThen fun _ => .bind (strokeAttributes_names c o filled) fun _ hs =>
    .ok ⟨_, _, rfl, hs.append (by simp [Unnamed])⟩

theorem cylinder_carries : Ensures (Carries o) (cylinder c o) :=
  .andThen fun _ => outlined_carries c o _ _

theorem polyline_carries : Ensures (Carries o) (polyline c o) :=
  .bind (strokeAttributes_names c o _) fun _ hs => .andThen fun _ =>
    .ok ⟨_, _, rfl, hs.append (by simp [Unnamed])⟩

theorem spline_carries : Ensures (Carries o) (spline c o) := by
  unfold spline
  split
  · exact outlined_carries c o _ _
  · exact polyline_carries c o

theorem arc_carries : Ensures (Carries o) (arc c o) :=
  .bind (strokeAttributes_names c o _) fun _ hs => .andThen fun _ =>
    .ok ⟨_, _, rfl, hs.append (by simp [Unnamed])⟩

/-- The shape of an object has its label as its name. -/
theorem shape_names : Ensures (fun ms => namesAmong (Markup.flattenAll ms) =
    if o.cls = .text ∨ o.cls = .move ∨ o.cls = .container then [] else o.label.toList)
      (shape c o) := by
  have single : ∀ {r : Except Fault Markup}, Ensures (Carries o) r →
      Ensures (fun ms => namesAmong (Markup.flattenAll ms) = o.label.toList) (r.map ([·])) :=
    fun h => h.map fun _ hm => hm.names
  unfold shape
  cases o.cls with
  | box => exact single (rectangle_carries c o)
  | oval => exact single (rectangle_carries c o)
  | circle => exact single (ellipse_carries c o)
  | dot => exact single (ellipse_carries c o)
  | ellipse => exact single (ellipse_carries c o)
  | diamond => exact single (diamond_carries c o)
  | cylinder => exact single (cylinder_carries c o)
  | file => exact single (outlined_carries c o _ _)
  | line => exact single (polyline_carries c o)
  | arrow => exact single (polyline_carries c o)
  | spline => exact single (spline_carries c o)
  | arc => exact single (arc_carries c o)
  | text => exact .ok rfl
  | move => exact .ok rfl
  | container => exact .ok rfl

/-! ### Heads and texts -/

/-- The heads of arrows have no names. -/
theorem arrowheads_names :
    Ensures (fun ms => namesAmong (Markup.flattenAll ms) = []) (arrowheads c o) := by
  have head : ∀ tail tip, Ensures (∀ m ∈ ·, m.names = []) (arrowhead c o tail tip) := by
    intro tail tip
    unfold arrowhead
    split
    · exact .ok fun m hm => nomatch hm
    · refine .andThen fun _ => .ok fun m hm => ?_
      cases List.mem_singleton.1 hm
      rfl
  have headAt : ∀ asked points, Ensures (∀ m ∈ ·, m.names = []) (headAt c o asked points) := by
    intro asked points
    unfold Svg.headAt
    split
    · exact .ite (head _ _) (.ok fun m hm => nomatch hm)
    · exact .ok fun m hm => nomatch hm
  refine .ite (.bind (headAt _ _) fun atEnd he => .bind (headAt _ _) fun atStart hs => .ok ?_)
    (.ok rfl)
  refine namesAmong_flattenAll_eq_nil fun m hm => ?_
  exact (List.mem_append.1 hm).elim (he m) (hs m)

theorem fontMarks_unnamed (line : TextLine) : Unnamed (fontMarks line) := by
  unfold fontMarks
  split_ifs <;> simp [Unnamed]

/-- Lines of text have no names. -/
theorem caption_names :
    Ensures (fun ms => namesAmong (Markup.flattenAll ms) = []) (caption c o) := by
  have line : ∀ e : TextLine × K, Ensures (·.names = []) (lineElement c o e.1 e.2) := fun e => by
    refine .andThen fun x => .andThen fun y => .andThen fun size => .ok ?_
    have unnamed : Unnamed ([("x", x), ("y", y), ("text-anchor", textAnchor e.1.justification),
        ("dominant-baseline", "central"), ("font-family", fontFamily e.1), ("font-size", size),
        ("fill", textPaint o.style.color)] ++ fontMarks e.1) :=
      Unnamed.append (by simp [Unnamed]) (fontMarks_unnamed e.1)
    exact unnamed.namesAmong_cons "text" []
  intro ms hm
  exact namesAmong_flattenAll_eq_nil (Ensures.mapM (fun e _ => line e) ms hm)

/-! ## Documents -/

/-- The name that comes from an object that is no group. -/
theorem ownElements_names (single : o.cls ≠ .container) :
    Ensures (fun ms => namesAmong (Markup.flattenAll ms) = (nameOf o).toList)
      (ownElements c o) := by
  have withCaption : ∀ drawn : List Markup,
      namesAmong (Markup.flattenAll drawn) = (nameOf o).toList →
      Ensures (fun ms => namesAmong (Markup.flattenAll ms) = (nameOf o).toList)
        (caption c o >>= fun lines => .ok (drawn ++ lines)) := fun drawn hd => by
    refine .bind (caption_names c o) fun lines hl => .ok ?_
    rw [Markup.flattenAll_append, namesAmong_append, hd, hl, List.append_nil]
  unfold ownElements
  by_cases hidden : o.style.invisible = true
  · rw [if_pos hidden]
    exact withCaption [] (by simp [nameOf, single, hidden, Markup.flattenAll, namesAmong])
  · rw [if_neg hidden]
    refine .bind (shape_names c o) fun body hb => ?_
    refine .bind (arrowheads_names c o) fun heads hh => withCaption _ ?_
    rw [Markup.flattenAll_append, namesAmong_append, hb, hh, List.append_nil]
    by_cases unshaped : o.cls = .text ∨ o.cls = .move
    · rcases unshaped with h | h <;> simp [nameOf, h]
    · obtain ⟨text, move⟩ := not_or.1 unshaped
      simp [nameOf, single, hidden, text, move]

/-- The name that comes from an object, apart from its members. -/
theorem ownTags_names :
    Ensures (fun tags => namesAmong tags = (nameOf o).toList) (ownTags c o) := by
  unfold ownTags
  split_ifs with group
  · refine .ok ?_
    have named : nameOf o = o.label := by simp [nameOf, group]
    rw [namesAmong, List.filterMap_cons, (Names.self o).lookup, named]
    cases o.label <;> rfl
  · exact (ownElements_names c o group).map fun _ h => h

theorem tagsOf_names (os : List (Object K)) :
    Ensures (fun tags => namesAmong tags = os.filterMap nameOf) (tagsOf c os) := by
  induction os with
  | nil => exact .ok rfl
  | cons o os ih =>
    refine .bind (ownTags_names c o) fun first hf => .bind ih fun others ho => .ok ?_
    rw [namesAmong_append, hf, ho, List.filterMap_cons]
    cases nameOf o <;> rfl

/-- The names in a document are those of the objects it comes to, in the same order. -/
theorem document_names (d : Diagram K) (scale margin : K) :
    Ensures (fun m => m.names = d.visited.filterMap nameOf) (document d scale margin) := by
  intro m hm
  obtain ⟨attributes, tags, shown, elements, keys⟩ := document_shows d scale margin m hm
  have unnamed : Unnamed attributes := fun a ha => by
    have := keys ▸ List.mem_map_of_mem (f := Prod.fst) ha
    rintro id
    rw [id] at this
    simp at this
  rw [Markup.names, elements, unnamed.namesAmong_cons]
  exact tagsOf_names _ d.visited tags shown

end Svg

/-! ## Labels -/

/-- Values are different if no two elements give the same. -/
theorem nodup_filterMap_iff {α β : Type} {f : α → Option β} {xs : List α} (h : xs.Nodup) :
    (xs.filterMap f).Nodup ↔ ∀ x ∈ xs, ∀ y ∈ xs, ∀ b, f x = some b → f y = some b → x = y := by
  rw [List.Nodup, List.pairwise_filterMap]
  constructor
  · intro apart x hx y hy b hfx hfy
    by_contra different
    have symmetric : Std.Symm fun x y => ∀ b, f x = some b → ∀ b', f y = some b' → b ≠ b' :=
      ⟨fun _ _ h b hb b' hb' => (h b' hb' b hb).symm⟩
    exact apart.forall hx hy different b hfx b hfy rfl
  · intro same
    refine h.pairwise_of_forall_ne fun x hx y hy different b hfx b' hfy => ?_
    rintro rfl
    exact different (same x hx y hy b hfx hfy)

namespace Drawing.Whole

variable {d : Drawing K} (hd : d.Whole)

include hd

/-- The objects of one block are members of one scope. -/
theorem exists_scope {o o' : Object K} (ho : o ∈ d.registry.arena) (ho' : o' ∈ d.registry.arena)
    (block : o.parent = o'.parent) :
    ∃ s, o.id ∈ (d.registry.scope s).members ∧ o'.id ∈ (d.registry.scope s).members := by
  have standing := fun {x} => hd.counted.standing?_eq (o := x)
  have top : ∀ {x}, x ∈ d.registry.arena → x.parent = none → x.id ∈ (d.registry.scope 0).members :=
    fun h => (Registry.top_iff hd.counted hd.nested hd.planted hd.isOpen (standing h)).2
  cases parent : o.parent with
  | none => exact ⟨0, top ho parent, top ho' (block.symm.trans parent)⟩
  | some g =>
    obtain ⟨s, hs, hm⟩ := hd.nested.member (standing ho) parent
    obtain ⟨s', hs', hm'⟩ := hd.nested.member (standing ho') (block.symm.trans parent)
    obtain ⟨st, hst, -, members⟩ := hd.nested.group hs
    obtain ⟨st', hst', -, members'⟩ := hd.nested.group hs'
    cases hst.symm.trans hst'
    exact ⟨s, hm, members ▸ members' ▸ hm'⟩

end Drawing.Whole

namespace Diagram

/-- Whether an object gives a name to an element of the document. -/
def IsNamed (d : Diagram K) (o : Object K) (l : String) : Prop :=
  o ∈ d.visited ∧ Svg.nameOf o = some l

/-- Which names there are in a document. -/
structure NamesElements (d : Diagram K) (m : Markup) : Prop where
  /-- They are those of the objects that the document comes to, in the same order. -/
  names : m.names = d.visited.filterMap Svg.nameOf
  /-- The document comes to all objects that are no invisible groups and lie in none. -/
  visited : ∀ o, o ∈ d.visited ↔ o ∈ d.allObjects ∧ d.IsReached o
  /-- It keeps the order of the diagram. -/
  order : d.visited.Sublist d.allObjects
  /-- Objects of one block have different labels. -/
  apart : ∀ o ∈ d.allObjects, ∀ o' ∈ d.allObjects, o.parent = o'.parent →
    ∀ l, o.label = some l → o'.label = some l → o = o'
  /-- All names are different exactly if none comes from two blocks. -/
  different : m.names.Nodup ↔
    ∀ o o' l, d.IsNamed o l → d.IsNamed o' l → o.parent = o'.parent

variable [Arith K] {t : Resources K} {source : String} {d : Diagram K}

/-- Two objects of one block have different labels. -/
theorem compile_labels_apart (h : compile t source = .ok d) {o o' : Object K}
    (ho : o ∈ d.registry.arena) (ho' : o' ∈ d.registry.arena) (block : o.parent = o'.parent)
    {l : String} (hl : o.label = some l) (hl' : o'.label = some l) : o = o' := by
  obtain ⟨ss, e, -, hr, rfl⟩ := compile_eq_ok.1 h
  have whole := run_whole hr
  have labelled := (Drawing.Reachable.of_run hr).labelled
  obtain ⟨s, hm, hm'⟩ := whole.exists_scope ho ho' block
  have here := labelled.known hm (whole.counted.standing?_eq ho) hl
  have there := labelled.known hm' (whole.counted.standing?_eq ho') hl'
  have number : o.id = o'.id := Option.some.inj (here.symm.trans there)
  have found := whole.counted.mem_arena.1 ho'
  rw [← number, whole.counted.mem_arena.1 ho] at found
  exact Option.some.inj found

/-- The names in the document of a script are the labels of the objects that it comes to.  They are
different within every block. -/
theorem compile_namesElements (h : compile t source = .ok d) (scale margin : K) {m : Markup}
    (hm : Svg.document d scale margin = .ok m) : d.NamesElements m := by
  have forest : d.IsForest := by
    obtain ⟨_, _, -, hr, rfl⟩ := compile_eq_ok.1 h
    exact isForest_of_run hr
  have names := Svg.document_names d scale margin m hm
  have reached : ∀ o, o ∈ d.visited ↔ o ∈ d.allObjects ∧ d.IsReached o := fun o => by
    rw [forest.mem_visited_iff, forest.each.mem_iff]
  have once : d.visited.Nodup := d.visited_sublist.nodup forest.nodup_allObjects
  have apart : ∀ o ∈ d.allObjects, ∀ o' ∈ d.allObjects, o.parent = o'.parent →
      ∀ l, o.label = some l → o'.label = some l → o = o' := fun o ho o' ho' block l hl hl' =>
    compile_labels_apart h (forest.each.mem_iff.1 ho) (forest.each.mem_iff.1 ho') block hl hl'
  refine ⟨names, reached, d.visited_sublist, apart, ?_⟩
  rw [names, nodup_filterMap_iff once]
  constructor
  · rintro same o o' l ⟨ho, hl⟩ ⟨ho', hl'⟩
    rw [same o ho o' ho' l hl hl']
  · intro block o ho o' ho' l hl hl'
    refine apart o ((reached o).1 ho).1 o' ((reached o').1 ho').1 ?_ l ?_ ?_
    · exact block o o' l ⟨ho, hl⟩ ⟨ho', hl'⟩
    · exact Svg.label_of_nameOf hl
    · exact Svg.label_of_nameOf hl'

/-- The names in the document of a diagram, at the scale and with the margin of its script. -/
def documentNames (d : Diagram K) : Option (List String) :=
  (Svg.document d (d.variableOr "scale" 1 0) (d.variableOr "margin" 0 0)).toOption.map Markup.names

theorem exists_document_of_names {names : List String} (h : d.documentNames = some names) :
    ∃ m, Svg.document d (d.variableOr "scale" 1 0) (d.variableOr "margin" 0 0) = .ok m ∧
      m.names = names := by
  obtain ⟨m, hm, named⟩ := Option.map_eq_some_iff.1 h
  exact ⟨m, eq_ok_of_toOption hm, named⟩

/-- A box, and a group with a dot of the same label and a text. -/
theorem compile_namesElements_nested : ∃ (d : Diagram MachineNumber) (m : Markup),
    compile Resources.standard "A: box; G: [A: dot; B: text]" = .ok d ∧
    Svg.document d (d.variableOr "scale" 1 0) (d.variableOr "margin" 0 0) = .ok m ∧
    m.names = ["A", "G", "A"] ∧ d.NamesElements m := by
  let ss : List Statement := [.object ⟨1, 1⟩ .box (some "A") [],
    .group ⟨1, 9⟩ [.object ⟨1, 13⟩ .dot (some "A") [], .object ⟨1, 21⟩ .text (some "B") []]
      (some "G") []]
  let tokens : List Token := [⟨.label, "A", ⟨1, 1⟩⟩, ⟨.colon, ":", ⟨1, 2⟩⟩, ⟨.word, "box", ⟨1, 4⟩⟩,
    ⟨.eol, ";", ⟨1, 7⟩⟩, ⟨.label, "G", ⟨1, 9⟩⟩, ⟨.colon, ":", ⟨1, 10⟩⟩, ⟨.lbracket, "[", ⟨1, 12⟩⟩,
    ⟨.label, "A", ⟨1, 13⟩⟩, ⟨.colon, ":", ⟨1, 14⟩⟩, ⟨.word, "dot", ⟨1, 16⟩⟩, ⟨.eol, ";", ⟨1, 19⟩⟩,
    ⟨.label, "B", ⟨1, 21⟩⟩, ⟨.colon, ":", ⟨1, 22⟩⟩, ⟨.word, "text", ⟨1, 24⟩⟩,
    ⟨.rbracket, "]", ⟨1, 28⟩⟩, ⟨.eof, "", ⟨1, 29⟩⟩]
  have scanned : tokenize .standard "A: box; G: [A: dot; B: text]" = .ok tokens := by
    rw [tokenize_eq_steps]
    decide +kernel
  have parsed : Program.ofTokens .standard tokens = .ok ss := by
    cbv
  have statements := (Program.ofSource_eq_ok scanned (by decide)).2 parsed
  have drawn : ((ofStatements (Resources.standard : Resources MachineNumber) ss).toOption.map
      documentNames) = some (some ["A", "G", "A"]) := by
    decide +kernel
  obtain ⟨d, compiled, listed⟩ :=
    exists_compile_eq_ok (t := Resources.standard) statements drawn
  obtain ⟨m, written, names⟩ := exists_document_of_names listed
  exact ⟨d, m, compiled, written, names, compile_namesElements compiled _ _ written⟩

/-- Two groups, each with a box of the same label. -/
theorem compile_repeats_name : ∃ (d : Diagram MachineNumber) (m : Markup),
    compile Resources.standard "[ A: box ]\n[ A: box ]" = .ok d ∧
    Svg.document d (d.variableOr "scale" 1 0) (d.variableOr "margin" 0 0) = .ok m ∧
    m.names = ["A", "A"] ∧ ¬m.names.Nodup := by
  let group (line : Nat) : Statement :=
    .group ⟨line, 1⟩ [.object ⟨line, 3⟩ .box (some "A") []] none []
  let tokens (line : Nat) (kind : TokenKind) (text : String) : List Token :=
    [⟨.lbracket, "[", ⟨line, 1⟩⟩, ⟨.label, "A", ⟨line, 3⟩⟩, ⟨.colon, ":", ⟨line, 4⟩⟩,
      ⟨.word, "box", ⟨line, 6⟩⟩, ⟨.rbracket, "]", ⟨line, 10⟩⟩, ⟨kind, text, ⟨line, 11⟩⟩]
  have scanned : tokenize .standard "[ A: box ]\n[ A: box ]" =
      .ok (tokens 1 .eol "\n" ++ tokens 2 .eof "") := by
    rw [tokenize_eq_steps]
    decide +kernel
  have parsed : Program.ofTokens .standard (tokens 1 .eol "\n" ++ tokens 2 .eof "") =
      .ok [group 1, group 2] := by
    cbv
  have statements := (Program.ofSource_eq_ok scanned (by decide)).2 parsed
  have drawn : ((ofStatements (Resources.standard : Resources MachineNumber)
      [group 1, group 2]).toOption.map documentNames) = some (some ["A", "A"]) := by
    decide +kernel
  obtain ⟨d, compiled, listed⟩ :=
    exists_compile_eq_ok (t := Resources.standard) statements drawn
  obtain ⟨m, written, names⟩ := exists_document_of_names listed
  exact ⟨d, m, compiled, written, names, names ▸ by decide⟩

end Diagram

end DiagramScript
