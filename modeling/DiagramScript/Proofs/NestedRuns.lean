import DiagramScript.Proofs.Agreement
import DiagramScript.Proofs.ReadingSteps

/-!
# Statements inside of a group

What statements do does not depend on whether they stand at the top level or in a group around
them: in the group they work in a scope of their own, and find in the scope around it no more than
they would find at the top level.

* `Drawing.nested` — a drawing as it looks from inside a group at the start of a script.
* `Drawing.nested_agrees` — everything that can be looked up is the same there.
* `run_nested` — so is what statements do.
-/

namespace DiagramScript

variable {K : Type} [Arith K]

/-! ## Registries -/

/-- A scope with one more scope around all scopes. -/
def Scope.nested (sc : Scope K) : Scope K :=
  { sc with parent := some (sc.parent.elim 0 (· + 1)) }

namespace Registry

/-- A registry with one more scope around all scopes, as a script starts with it. -/
def nested (r : Registry K) : Registry K where
  arena := r.arena
  scopes := { bindings := Variables.initial } :: r.scopes.map Scope.nested
  attached := r.attached.map fun a => (a.1, a.2 + 1)

variable (r : Registry K) (s : Nat)

theorem nested_getElem? : r.nested.scopes[s + 1]? = (r.scopes[s]?).map Scope.nested := by
  rw [nested, List.getElem?_cons_succ, List.getElem?_map]

/-- The scopes differ only in the scopes around them. -/
theorem nested_scope : ∃ p, r.nested.scope (s + 1) = { r.scope s with parent := p } := by
  rw [scope, scope, nested_getElem?]
  cases r.scopes[s]? with
  | none => exact ⟨none, rfl⟩
  | some sc => exact ⟨_, rfl⟩

theorem nested_members : (r.nested.scope (s + 1)).members = (r.scope s).members := by
  obtain ⟨p, h⟩ := r.nested_scope s
  rw [h]

theorem nested_ofClass (cls : ObjectClass) :
    (r.nested.scope (s + 1)).ofClass cls = (r.scope s).ofClass cls := by
  obtain ⟨p, h⟩ := r.nested_scope s
  rw [h]
  rfl

theorem nested_bindings : (r.nested.scope (s + 1)).bindings = (r.scope s).bindings := by
  obtain ⟨p, h⟩ := r.nested_scope s
  rw [h]

theorem nested_isTaken (label : String) :
    (r.nested.scope (s + 1)).isTaken label = (r.scope s).isTaken label := by
  obtain ⟨p, h⟩ := r.nested_scope s
  rw [h]
  rfl

theorem nested_modifyScope {f : Scope K → Scope K} (h : ∀ sc, f sc.nested = (f sc).nested) :
    r.nested.modifyScope (s + 1) f = (r.modifyScope s f).nested := by
  have scopes : ∀ (scs : List (Scope K)) (s : Nat),
      (scs.map Scope.nested).modify s f = (scs.modify s f).map Scope.nested := by
    intro scs s
    refine List.ext_getElem? fun i => ?_
    rw [List.getElem?_modify, List.getElem?_map, List.getElem?_map, List.getElem?_modify]
    cases scs[i]? with
    | none => rfl
    | some sc =>
      by_cases hi : s = i
      · simp [hi, h]
      · simp [hi]
  rw [modifyScope, modifyScope, nested, nested, List.modify_succ_cons, scopes]

/-! ### Labels -/

/-- Around all scopes there is at most one more, without labels. -/
theorem nested_enclosing : ∃ more : List (Scope K), (∀ sc ∈ more, sc.labels = [] ∧ sc.places = []) ∧
    r.nested.enclosing (s + 1) = (r.enclosing s).map Scope.nested ++ more := by
  induction s using Nat.strongRecOn with
  | ind s ih =>
    rw [enclosing, nested_getElem?, enclosing]
    cases r.scopes[s]? with
    | none => exact ⟨[], by simp, rfl⟩
    | some sc =>
      cases hp : sc.parent with
      | none =>
        refine ⟨[{ bindings := Variables.initial }], by simp, ?_⟩
        have around : r.nested.enclosing 0 = [{ bindings := Variables.initial }] := by
          rw [enclosing]
          rfl
        simp [Scope.nested, hp, around]
      | some p =>
        by_cases hlt : p < s
        · obtain ⟨more, hmore, he⟩ := ih p hlt
          refine ⟨more, hmore, ?_⟩
          simp [Scope.nested, hp, hlt, he]
        · exact ⟨[], by simp, by simp [Scope.nested, hp, hlt]⟩

omit [Arith K] in
theorem findLabel_of_empty (label : String) {scs : List (Scope K)}
    (h : ∀ sc ∈ scs, sc.labels = [] ∧ sc.places = []) :
    findLabel label scs = .error (.unknownLabel label) := by
  induction scs with
  | nil => rfl
  | cons sc scs ih =>
    rw [List.forall_mem_cons] at h
    rw [findLabel, h.1.1, h.1.2]
    exact ih h.2

omit [Arith K] in
theorem findPlace_of_empty (label : String) {scs : List (Scope K)}
    (h : ∀ sc ∈ scs, sc.labels = [] ∧ sc.places = []) : findPlace label scs = none := by
  induction scs with
  | nil => rfl
  | cons sc scs ih =>
    rw [List.forall_mem_cons] at h
    rw [findPlace, h.1.1, h.1.2]
    exact ih h.2

theorem nested_findLabel (label : String) :
    findLabel label (r.nested.enclosing (s + 1)) = findLabel label (r.enclosing s) := by
  obtain ⟨more, hmore, h⟩ := r.nested_enclosing s
  rw [h]
  induction r.enclosing s with
  | nil => exact findLabel_of_empty label hmore
  | cons sc scs ih =>
    rw [List.map_cons, List.cons_append, findLabel, findLabel, ih]
    rfl

theorem nested_findPlace (label : String) :
    findPlace label (r.nested.enclosing (s + 1)) = findPlace label (r.enclosing s) := by
  obtain ⟨more, hmore, h⟩ := r.nested_enclosing s
  rw [h]
  induction r.enclosing s with
  | nil => exact findPlace_of_empty label hmore
  | cons sc scs ih =>
    rw [List.map_cons, List.cons_append, findPlace, findPlace, ih]
    rfl

theorem nested_resolveLabel (label : String) ( localOnly : Bool) :
    r.nested.resolveLabel (s + 1) label localOnly = r.resolveLabel s label localOnly := by
  rw [resolveLabel, resolveLabel]
  cases localOnly with
  | false => rw [if_neg Bool.false_ne_true, if_neg Bool.false_ne_true, nested_findLabel]
  | true =>
    obtain ⟨p, h⟩ := r.nested_scope s
    rw [if_pos rfl, if_pos rfl, h]
    rfl

theorem nested_resolveOrdinal (cls : ObjectClass) (n : Int) (fromLast : Bool) :
    r.nested.resolveOrdinal (s + 1) cls n fromLast = r.resolveOrdinal s cls n fromLast := by
  rw [resolveOrdinal, resolveOrdinal, nested_ofClass]

theorem nested_previous : r.nested.previous (s + 1) = r.previous s := by
  rw [previous, previous, nested_members]

theorem nested_scopeOf (id : Nat) : r.nested.scopeOf id = (r.scopeOf id).map (· + 1) := by
  have found : ∀ attached : List (Nat × Nat),
      (attached.map fun a => (a.1, a.2 + 1)).lookup id = (attached.lookup id).map (· + 1) := by
    intro attached
    induction attached with
    | nil => rfl
    | cons a attached ih =>
      rw [List.map_cons, List.lookup_cons, List.lookup_cons, ih]
      cases id == a.1 <;> rfl
  rw [scopeOf, scopeOf, nested, found]
  cases r.attached.lookup id with
  | some s => rfl
  | none =>
    rw [show object { r with
      scopes := { bindings := Variables.initial } :: r.scopes.map Scope.nested
      attached := r.attached.map fun a => (a.1, a.2 + 1) : Registry K } id = r.object id from rfl]
    cases r.object id <;> rfl

theorem nested_follow (ref : ObjectRef) :
    View.follow r.nested (s + 1) ref = View.follow r s ref := by
  induction ref with
  | previous p => exact r.nested_previous s
  | select p sel =>
    cases sel with
    | label name => exact r.nested_resolveLabel s name false
    | ordinal cls n fromLast => exact r.nested_resolveOrdinal s cls n fromLast
  | member p group q sel ih =>
    rw [View.follow, View.follow, ih]
    cases View.follow r s group with
    | error e => rfl
    | ok id =>
      rw [ok_bind, ok_bind, nested_scopeOf]
      cases r.scopeOf id with
      | error e => rfl
      | ok inner =>
        cases sel with
        | label name => exact r.nested_resolveLabel inner name true
        | ordinal cls n fromLast => exact r.nested_resolveOrdinal inner cls n fromLast

/-! ### Changes -/

theorem nested_setVariable (name : String) (value : K) :
    r.nested.setVariable (s + 1) name value = (r.setVariable s name value).nested :=
  r.nested_modifyScope s fun _ => rfl

theorem nested_finalize (id : Nat) :
    r.nested.finalize (s + 1) id = (r.finalize s id).map nested := by
  rw [finalize, finalize]
  change (r.object id >>= _) = _
  cases r.object id with
  | error e => rfl
  | ok o =>
    rw [ok_bind, ok_bind, nested_ofClass]
    exact congrArg Except.ok (nested_modifyScope (r.modifyObject id _) s fun _ => rfl)

theorem nested_bindLabel (label : String) (id : Nat) : r.nested.bindLabel (s + 1) label id =
    ((r.bindLabel s label id).1, (r.bindLabel s label id).2.nested) := by
  rw [bindLabel, bindLabel, requireFree, requireFree, nested_isTaken]
  by_cases ht : (r.scope s).isTaken label = true
  · rw [if_pos ht]
  · rw [if_neg ht]
    have labels := r.nested_modifyScope s
      (f := fun sc => { sc with labels := sc.labels ++ [(label, id)] }) fun _ => rfl
    dsimp only
    rw [recordLabel, labels]
    rfl

theorem nested_bindPlace (label : String) (p : Point K) :
    r.nested.bindPlace (s + 1) label p = (r.bindPlace s label p).map nested := by
  rw [bindPlace, bindPlace, requireFree, requireFree, nested_isTaken]
  by_cases ht : (r.scope s).isTaken label = true
  · rw [if_pos ht]
    rfl
  · rw [if_neg ht, ok_bind, ok_bind]
    exact congrArg Except.ok (r.nested_modifyScope s fun _ => rfl)

theorem nested_openScope : r.nested.openScope (s + 1) =
    ((r.openScope s).1 + 1, (r.openScope s).2.nested) := by
  rw [openScope, openScope, nested_bindings]
  simp [nested, Scope.nested]

theorem nested_foldl {f : Registry K → Nat → Registry K} (h : ∀ r c, f r.nested c = (f r c).nested)
    (ids : List Nat) : ids.foldl f r.nested = (ids.foldl f r).nested := by
  induction ids generalizing r with
  | nil => rfl
  | cons c ids ih => rw [List.foldl_cons, List.foldl_cons, h, ih]

theorem nested_adopt (id : Nat) (children : List Nat) :
    r.nested.adopt id children = (r.adopt id children).nested := by
  unfold adopt
  by_cases hlt : id < r.arena.length
  · rw [if_pos hlt]
    refine (if_pos hlt).trans (nested_foldl (r.modifyObject id _) (fun r c => ?_) children)
    rfl
  · rw [if_neg hlt]
    exact if_neg hlt

theorem nested_attachScope (id : Nat) :
    r.nested.attachScope id (s + 1) = (r.attachScope id s).nested := by
  rw [attachScope, attachScope, nested_members]
  exact nested_adopt { r with attached := (id, s) :: r.attached } id _

theorem nested_descendants (id : Nat) : r.nested.descendants id = r.descendants id := by
  have within : ∀ depth id, r.nested.descendantsWithin depth id = r.descendantsWithin depth id := by
    intro depth
    induction depth with
    | zero => exact fun _ => rfl
    | succ depth ih =>
      intro id
      rw [descendantsWithin, descendantsWithin]
      simp only [ih]
      rfl
  exact within _ id

end Registry

/-! ## Drawings -/

/-- A drawing as it looks from inside a group at the start of a script. -/
def Drawing.nested (d : Drawing K) : Drawing K :=
  { d with registry := d.registry.nested, scope := d.scope + 1 }

/-- What a statement leads to, inside of that group. -/
def Outcome.nested (o : Outcome K) : Outcome K := (o.1, o.2.nested)

theorem Outcome.nested_locate (o : Outcome K) (p : SourcePos) :
    (o.locate p).nested = o.nested.locate p := rfl

theorem Outcome.nested_andThen {o : Outcome K} {next next' : Drawing K → Outcome K}
    (h : ∀ d, next' d.nested = (next d).nested) :
    o.nested.andThen next' = (o.andThen next).nested := by
  obtain ⟨_ | _, d⟩ := o
  · rfl
  · exact h d

namespace Drawing

variable (d : Drawing K) (t : Resources K)

/-- Everything that can be looked up is the same inside of the group. -/
theorem nested_agrees : (d.view t).Agrees (d.nested.view t) where
  follow := d.registry.nested_follow d.scope
  place := d.registry.nested_findPlace d.scope
  ordinal := d.registry.nested_resolveOrdinal d.scope
  object _ := rfl
  lookup name := congrArg (Variables.get? · name) (d.registry.nested_bindings d.scope)
  colors := rfl
  units := rfl

theorem nested_setting : (d.setting t).Agrees (d.nested.setting t) :=
  ⟨d.nested_agrees t, rfl, rfl, rfl⟩

theorem nested_attempt {r r' : Except Failure (Drawing K)} (h : r' = r.map nested) :
    d.nested.attempt r' = (d.attempt r).nested := by
  subst h
  cases r <;> rfl

theorem nested_finish (draft : Draft K) (exit : Option Direction) (label : Option String) :
    d.nested.finish draft exit label = (d.finish draft exit label).nested := by
  have key := d.registry.nested_finalize d.scope draft.object.id
  unfold finish
  cases hf : d.registry.finalize d.scope draft.object.id with
  | error e =>
    rw [hf] at key
    rw [show d.nested.registry.finalize d.nested.scope draft.object.id = .error e from key]
    rfl
  | ok r =>
    rw [hf] at key
    rw [show d.nested.registry.finalize d.nested.scope draft.object.id = .ok r.nested from key]
    cases label with
    | none => rfl
    | some l =>
      have bound := r.nested_bindLabel d.scope l draft.object.id
      dsimp only
      rw [show d.nested.scope = d.scope + 1 from rfl, bound]
      rcases r.bindLabel d.scope l draft.object.id with ⟨_ | _, r'⟩ <;> rfl

theorem nested_draft (id : Nat) (cls : ObjectClass) (attributes : List Attribute) :
    d.nested.draft t id cls attributes = d.draft t id cls attributes := by
  simp only [draft, (d.nested_agrees t).begin, (d.nested_agrees t).applyAll,
    (d.nested_setting t).place]
  rfl

theorem nested_declare (cls : ObjectClass) (label : Option String) (attributes : List Attribute) :
    d.nested.declare t cls label attributes = (d.declare t cls label attributes).nested := by
  unfold declare
  dsimp only
  rw [show d.nested.create cls = ((d.create cls).1, (d.create cls).2.nested) from rfl]
  dsimp only
  rw [nested_draft]
  cases (d.create cls).2.draft t (d.create cls).1 cls attributes with
  | error e => rfl
  | ok p => exact ((d.create cls).2.store p.1).nested_finish p.1 p.2 label

theorem nested_enter (origin : Point K) : d.nested.enter origin = (d.enter origin).nested := by
  have opened := d.registry.nested_openScope d.scope
  unfold enter
  rw [show d.nested.registry.openScope d.nested.scope = _ from opened]
  rfl

theorem nested_groupDraft (id inner : Nat) (origin : Point K) (attributes : List Attribute) :
    d.nested.groupDraft t id (inner + 1) origin attributes =
      d.groupDraft t id inner origin attributes := by
  have box : scopeBox d.nested.registry (inner + 1) = scopeBox d.registry inner := by
    unfold scopeBox
    rw [show d.nested.registry = d.registry.nested from rfl, Registry.nested_members]
    rfl
  simp only [groupDraft, (d.nested_agrees t).begin, (d.nested_agrees t).applyAll,
    (d.nested_setting t).placeFramed, box]
  rfl

theorem nested_moveMembers (id : Nat) (dx dy : K) :
    d.nested.moveMembers id dx dy = (d.moveMembers id dx dy).nested := by
  unfold moveMembers
  split_ifs
  · rfl
  · rw [show d.nested.registry = d.registry.nested from rfl, Registry.nested_descendants,
      Registry.nested_foldl _ fun _ _ => ?_]
    · rfl
    · rfl

theorem nested_group (inner : Nat) (origin : Point K) (label : Option String)
    (attributes : List Attribute) :
    d.nested.group t (inner + 1) origin label attributes =
      (d.group t inner origin label attributes).nested := by
  unfold group
  dsimp only
  rw [show d.nested.create .container = ((d.create .container).1, (d.create .container).2.nested)
    from rfl]
  dsimp only
  rw [nested_groupDraft]
  cases (d.create .container).2.groupDraft t (d.create .container).1 inner origin attributes with
  | error e => rfl
  | ok p =>
    have attached := ((d.create .container).2.store p.2).registry.nested_attachScope inner
      (d.create .container).1
    dsimp only
    rw [show ((d.create .container).2.nested.store p.2).registry =
      ((d.create .container).2.store p.2).registry.nested from rfl, attached]
    refine Eq.trans ?_ (nested_finish _ p.2 none label)
    rw [← nested_moveMembers]
    rfl

theorem nested_assign (name : String) (op : AssignOp) (e : Scalar) :
    d.nested.assign t name op e = (d.assign t name op e).map nested := by
  have value : ∀ x, assigned (d.nested.view t) name op x = assigned (d.view t) name op x := by
    intro x
    simp only [assigned, (d.nested_agrees t).lookup]
  simp only [assign, (d.nested_agrees t).scalar, value]
  cases (d.view t).scalar e with
  | error e => rfl
  | ok x =>
    rw [ok_bind, ok_bind]
    cases assigned (d.view t) name op x with
    | error e => rfl
    | ok y =>
      have changed := d.registry.nested_setVariable d.scope name y
      rw [ok_bind, ok_bind,
        show d.nested.registry.setVariable d.nested.scope name y = _ from changed]
      rfl

theorem nested_print (items : List PrintItem) :
    d.nested.print t items = (d.print t items).map nested := by
  have text : itemText (d.nested.view t) = itemText (d.view t) := by
    funext i
    cases i with
    | text s => rfl
    | value e => simp only [itemText, (d.nested_agrees t).scalar]
  simp only [print, text]
  cases items.mapM (itemText (d.view t)) <;> rfl

theorem nested_assertScalars (left right : Scalar) :
    d.nested.assertScalars t left right = (d.assertScalars t left right).map nested := by
  change _ = nested <$> d.assertScalars t left right
  simp only [assertScalars, (d.nested_agrees t).scalar, map_bind, apply_ite (nested <$> ·)]
  rfl

theorem nested_assertPositions (left right : Position) :
    d.nested.assertPositions t left right = (d.assertPositions t left right).map nested := by
  change _ = nested <$> d.assertPositions t left right
  simp only [assertPositions, (d.nested_agrees t).position, map_bind, apply_ite (nested <$> ·)]
  rfl

theorem nested_bindPlace (label : String) (q : Position) :
    d.nested.bindPlace t label q = (d.bindPlace t label q).map nested := by
  simp only [bindPlace, (d.nested_agrees t).position]
  cases (d.view t).position q with
  | error e => rfl
  | ok p =>
    let stamped := p.stamp ⟨d.serial, none, 0⟩
    have bound := d.registry.nested_bindPlace d.scope label stamped
    rw [ok_bind, ok_bind, show d.nested.registry.bindPlace d.nested.scope label (p.stamp
      ⟨d.nested.serial, none, 0⟩) = _ from bound]
    cases d.registry.bindPlace d.scope label stamped <;> rfl

end Drawing

/-! ## Statements -/

variable (t : Resources K)

mutual

/-- A statement does the same inside of the group. -/
theorem execute_nested (d : Drawing K) (s : Statement) :
    execute t d.nested s = (execute t d s).nested := by
  cases s with
  | object p cls label attributes =>
    rw [execute, execute, Drawing.nested_declare, Outcome.nested_locate]
  | group p body label attributes =>
    rw [execute, execute, (d.nested_setting t).stackingStart]
    cases stackingStart (d.setting t) true with
    | error e => rfl
    | ok origin =>
      dsimp only
      rw [d.nested_enter, run_nested (d.enter origin) body, Outcome.nested_locate]
      congr 1
      refine Outcome.nested_andThen (o := ((run t (d.enter origin) body).1,
        (run t (d.enter origin) body).2.leave d)) fun after => ?_
      exact after.nested_group t (d.enter origin).scope origin label attributes
  | assign p name op value =>
    rw [execute, execute, d.nested_attempt (d.nested_assign t name op value), Outcome.nested_locate]
  | direction p dir =>
    rw [execute, execute]
    rfl
  | print p items =>
    rw [execute, execute, d.nested_attempt (d.nested_print t items), Outcome.nested_locate]
  | assertScalars p left right =>
    rw [execute, execute, d.nested_attempt (d.nested_assertScalars t left right),
      Outcome.nested_locate]
  | assertPositions p left right =>
    rw [execute, execute, d.nested_attempt (d.nested_assertPositions t left right),
      Outcome.nested_locate]
  | place p label q =>
    rw [execute, execute, d.nested_attempt (d.nested_bindPlace t label q), Outcome.nested_locate]

/-- So do several statements. -/
theorem run_nested (d : Drawing K) (ss : List Statement) :
    run t d.nested ss = (run t d ss).nested := by
  cases ss with
  | nil =>
    rw [run, run]
    rfl
  | cons s ss =>
    rw [run, run, execute_nested d s]
    rcases execute t d s with ⟨_ | _, e⟩
    · rfl
    · exact run_nested e ss

end

end DiagramScript
