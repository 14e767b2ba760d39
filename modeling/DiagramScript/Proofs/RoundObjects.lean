import DiagramScript.Proofs.DeclaredTexts
import DiagramScript.Proofs.ExactNumbers
import DiagramScript.Proofs.FoundObjects
import DiagramScript.Proofs.VisitedObjects

/-!
# Circles and dots

A circle has one size, and the clauses that give it one keep its width, height and radius together.
Two things can take them apart: a circle may copy the sizes of an object that is no circle, and a
circle whose size is given keeps it when it is to fit its text, although its radius follows the
text.

* `Object.IsCircular` — whether width, height and radius belong together.
* `Declaration.sizing`, `Declaration.fitsText` — the clause that has the last word about the size,
  and whether the text has one.
* `Draft.Sized`, `Draft.applyAll_sized` — what the clauses of a circle make of its size.
* `Registry.sizesCircle_settles` — so it stays, whatever happens to the circle afterwards.
* `Diagram.compile_roundAsDeclared` — the circles and dots of every diagram.
-/

namespace DiagramScript

variable {K : Type}

/-! ## Clauses about the size -/

/-- Whether a clause gives a circle its size. -/
def Clause.givesSize : Clause → Bool
  | .size _ _ => true
  | .same _ => true
  | _ => false

/-- Whether a clause asks for a frame that fits the text. -/
def Clause.asksFit : Clause → Bool
  | .flag .fit => true
  | _ => false

/-- Whether a clause is a line of text. -/
def Clause.isText : Clause → Bool
  | .text _ => true
  | _ => false

/-- The last of some clauses that gives a circle its size. -/
def lastSizing (as : List Attribute) : Option Clause :=
  ((as.map (·.clause)).filter Clause.givesSize).getLast?

theorem lastSizing_concat (as : List Attribute) (a : Attribute) : lastSizing (as ++ [a]) =
    if a.clause.givesSize then some a.clause else lastSizing as := by
  unfold lastSizing
  rw [List.map_append, List.filter_append]
  by_cases h : a.clause.givesSize = true
  · simp [h]
  · simp [h]

/-- The clause of a declaration that has the last word about the size of a circle. -/
def Declaration.sizing (decl : Declaration) : Option Clause := lastSizing decl.attributes

/-- Whether the object of a declaration is to fit a text that it has. -/
def Declaration.fitsText (decl : Declaration) : Bool :=
  decl.attributes.any (·.clause.asksFit) && decl.attributes.any (·.clause.isText)

/-- Whether nothing in a declaration can take width, height and radius of a circle apart. -/
def Declaration.KeepsRound (decl : Declaration) : Prop :=
  (∀ ref, decl.sizing ≠ some (.same (some ref))) ∧
    (decl.fitsText = true → decl.sizing = none)

variable [Arith K]

/-- Whether width and height are equal, and are twice the radius. -/
def Object.IsCircular (o : Object K) : Prop :=
  o.width = o.height ∧ (o.radius = Arith.half o.width ∨ o.width = Arith.twice o.radius)

/-- Whether the text of an object asks for a circle of some diameter. -/
def Object.AsksDiameter (measure : Measurer K) (o : Object K) (diameter : K) : Prop :=
  ∃ charWidth charHeight fontScale block,
    textBlockSize measure o.text charHeight fontScale = .ok block ∧
    diameter = Arith.greatest (block.1 + Arith.twice charWidth * fontScale)
      (block.2 + charHeight * fontScale)

/-- What the declaration of a circle or dot makes of its size, where it may copy some objects. -/
structure Object.RoundAs (measure : Measurer K) (decl : Declaration)
    (source : Option ObjectRef → Object K → Prop) (o : Object K) : Prop where
  /-- A circle whose size no clause gives is circular. -/
  free : decl.sizing = none → o.IsCircular
  /-- If its size is given, width and height are equal, and the radius goes with them unless the
  circle is to fit its text. -/
  sized : ∀ what value, decl.sizing = some (.size what value) →
    o.width = o.height ∧ (decl.fitsText = false → o.IsCircular)
  /-- If it copies an object, it is as wide and high as this, and has its radius unless it is to fit
  its text. -/
  copied : ∀ ref, decl.sizing = some (.same ref) → ∃ s, source ref s ∧
    o.width = s.width ∧ o.height = s.height ∧ (decl.fitsText = false → o.radius = s.radius)
  /-- If it is to fit its text, it has the radius that the text asks for. -/
  fitted : decl.fitsText = true → ∃ diameter, o.AsksDiameter measure diameter ∧
    o.radius = Arith.half diameter ∧ (decl.sizing = none → o.width = diameter)

theorem givesSize_of_lastSizing {as : List Attribute} {c : Clause} (h : lastSizing as = some c) :
    c.givesSize = true :=
  (List.mem_filter.1 (List.mem_of_getLast? h)).2

/-- A circle is circular if nothing takes it apart and what it copies is circular. -/
theorem Object.RoundAs.isCircular {measure : Measurer K} {decl : Declaration} {o : Object K}
    {source : Option ObjectRef → Object K → Prop} (h : o.RoundAs measure decl source)
    (keeps : decl.KeepsRound) (copies : ∀ s, source none s → s.IsCircular) : o.IsCircular := by
  cases hc : decl.sizing with
  | none => exact h.free hc
  | some c =>
    have apart : decl.fitsText = false := Bool.eq_false_iff.2 fun fits => by
      cases hc.symm.trans (keeps.2 fits)
    have gives := givesSize_of_lastSizing hc
    cases c with
    | size what value => exact (h.sized what value hc).2 apart
    | same ref =>
      cases ref with
      | some ref => exact absurd hc (keeps.1 ref)
      | none =>
        obtain ⟨s, hs, width, height, radius⟩ := h.copied none hc
        unfold IsCircular
        rw [width, height, radius apart]
        exact copies s hs
    | _ => cases gives

theorem Object.RoundAs.of_figure {measure : Measurer K} {decl : Declaration} {o o' : Object K}
    {source source' : Option ObjectRef → Object K → Prop} (h : o.RoundAs measure decl source)
    (same : o'.figure = o.figure)
    (copies : ∀ ref s, source ref s → ∃ s', source' ref s' ∧ s'.figure = s.figure) :
    o'.RoundAs measure decl source' := by
  simp only [figure, Prod.mk.injEq] at same copies
  obtain ⟨-, width, height, radius, text⟩ := same
  constructor
  · unfold IsCircular
    rw [width, height, radius]
    exact h.free
  · unfold IsCircular
    rw [width, height, radius]
    exact h.sized
  · intro ref hs
    obtain ⟨s, hs, copied⟩ := h.copied ref hs
    obtain ⟨s', hs', -, width', height', radius', -⟩ := copies ref s hs
    rw [width, height, radius]
    exact ⟨s', hs', width' ▸ height' ▸ radius' ▸ copied⟩
  · unfold AsksDiameter
    rw [width, radius, text]
    exact h.fitted

/-! ## Drafts -/

namespace Draft

/-- What some clauses have made of the size of a circle. -/
structure Sized (v : View K) (as : List Attribute) (d : Draft K) : Prop where
  /-- It is a circle or a dot. -/
  aspect : d.object.cls.keepsAspect = true
  /-- It has a text if a clause says so. -/
  text : d.object.text.isEmpty = !as.any (·.clause.isText)
  /-- It is to fit its text if a clause says so. -/
  fit : d.fit = as.any (·.clause.asksFit)
  /-- Its size is given if a clause says so. -/
  given : d.explicitWidth = (lastSizing as).isSome ∧ d.explicitHeight = (lastSizing as).isSome
  /-- It is circular unless it copies another object. -/
  circular : (∀ ref, lastSizing as ≠ some (.same ref)) → d.object.IsCircular
  /-- Otherwise it is as large as that object. -/
  copied : ∀ ref, lastSizing as = some (.same ref) → ∃ o, d.sourceOf v ref = .ok o ∧
    d.object.width = o.width ∧ d.object.height = o.height ∧ d.object.radius = o.radius

variable {v : View K} {as : List Attribute} {d : Draft K}

/-- A new circle is circular. -/
theorem begin_sized (id : Nat) {cls : ObjectClass} (h : cls.keepsAspect = true)
    (direction : Direction) : Ensures (Sized v []) (Draft.begin v id cls direction) := by
  refine .andThen fun radius => .andThen fun width => .andThen fun height => ?_
  refine .andThen fun style => ?_
  have plain : cls.isLine = false := by
    cases cls <;> first | rfl | cases h
  rw [plain]
  refine .ok ⟨h, rfl, rfl, ⟨rfl, rfl⟩, fun _ => ?_, fun _ h => nomatch h⟩
  refine ⟨?_, .inr ?_⟩
  · simp only [h, if_true]
  · simp only [h, if_true]

/-- What a clause leaves alone that does not speak of the size. -/
structure Aside (c : Clause) (d d' : Draft K) : Prop where
  /-- The class stays. -/
  cls : d'.object.cls = d.object.cls := by rfl
  /-- So does the size. -/
  width : d'.object.width = d.object.width := by rfl
  /-- So does the size. -/
  height : d'.object.height = d.object.height := by rfl
  /-- So does the size. -/
  radius : d'.object.radius = d.object.radius := by rfl
  /-- A size that is given stays given. -/
  explicit : d'.explicitWidth = d.explicitWidth ∧ d'.explicitHeight = d.explicitHeight := by
    exact ⟨rfl, rfl⟩
  /-- There is a text from the first line on. -/
  text : d'.object.text.isEmpty = (d.object.text.isEmpty && !c.isText) := by
    exact (Bool.and_true _).symm
  /-- The text is fitted as soon as a clause says so. -/
  fit : d'.fit = (d.fit || c.asksFit) := by exact (Bool.or_false _).symm

theorem Sized.aside (h : d.Sized v as) {a : Attribute} (ha : a.clause.givesSize = false)
    {d' : Draft K} (same : d.Aside a.clause d') : d'.Sized v (as ++ [a]) := by
  have last : lastSizing (as ++ [a]) = lastSizing as := by
    rw [lastSizing_concat, ha]
    rfl
  refine ⟨same.cls ▸ h.aspect, ?_, ?_, ?_, fun none => ?_, fun ref copies => ?_⟩
  · rw [same.text, h.text, List.any_append]
    simp [Bool.not_or]
  · rw [same.fit, h.fit, List.any_append]
    simp
  · rw [last, same.explicit.1, same.explicit.2]
    exact h.given
  · have circular := h.circular (last ▸ none)
    unfold Object.IsCircular
    rw [same.width, same.height, same.radius]
    exact circular
  · obtain ⟨o, source, copy⟩ := h.copied ref (last ▸ copies)
    refine ⟨o, ?_, ?_⟩
    · unfold sourceOf
      rw [same.cls]
      exact source
    · rw [same.width, same.height, same.radius]
      exact copy

/-- A clause that does not speak of the size leaves it alone. -/
theorem Effect.aside {c : Clause} {d' : Draft K} (h : d.Effect v c d')
    (hc : c.givesSize = false) : d.Aside c d' := by
  have text : ∀ {c : Clause}, c.isText = false →
      d.object.text.isEmpty = (d.object.text.isEmpty && !c.isText) := fun plain => by
    rw [plain, Bool.not_false, Bool.and_true]
  have fit : ∀ {c : Clause}, c.asksFit = false → d.fit = (d.fit || c.asksFit) := fun plain => by
    rw [plain, Bool.or_false]
  cases h with
  | text line => exact { text := by simp [Clause.isText] }
  | size usual given => cases hc
  | same source => cases hc
  | thickness usual given => exact {}
  | flag what =>
    cases what with
    | fit => exact { fit := (Bool.or_true _).symm }
    | _ => exact {}
  | style restyles keeps =>
    have plain : c.isText = false ∧ c.asksFit = false := by
      cases c <;> first | exact ⟨rfl, rfl⟩ | cases restyles
    exact { text := text plain.1, fit := fit plain.2 }
  | located place => exact {}
  | anchored place => exact {}
  | path leads headings starts ends =>
    have plain : c.isText = false ∧ c.asksFit = false := by
      cases c <;> first | exact ⟨rfl, rfl⟩ | cases leads
    exact { text := text plain.1, fit := fit plain.2 }

/-- A clause that gives the circle a size of its own. -/
theorem Sized.resized (h : d.Sized v as) {a : Attribute} {what : Dimension} {value : Scalar}
    (ha : a.clause = .size what value) {d' : Draft K} (cls : d'.object.cls = d.object.cls)
    (text : d'.object.text = d.object.text) (fit : d'.fit = d.fit)
    (explicit : d'.explicitWidth = true ∧ d'.explicitHeight = true)
    (circular : d'.object.IsCircular) : d'.Sized v (as ++ [a]) := by
  have last : lastSizing (as ++ [a]) = some (.size what value) := by
    rw [lastSizing_concat, ha]
    rfl
  refine ⟨cls ▸ h.aspect, ?_, ?_, ?_, fun _ => circular, fun ref copies => ?_⟩
  · rw [text, h.text, List.any_append]
    simp [ha, Clause.isText]
  · rw [fit, h.fit, List.any_append]
    simp [ha, Clause.asksFit]
  · rw [last]
    exact explicit
  · cases last.symm.trans copies

/-- Each dimension that a circle is given sets the others. -/
theorem resize_sized (h : d.Sized v as) {a : Attribute} {what : Dimension} {value : Scalar}
    (ha : a.clause = .size what value) (x : K) : (d.resize what x).Sized v (as ++ [a]) := by
  have aspect := h.aspect
  cases what with
  | width =>
    rw [Draft.resize, setWidth, if_pos aspect]
    exact h.resized ha rfl rfl rfl ⟨rfl, rfl⟩ ⟨rfl, .inl rfl⟩
  | height =>
    rw [Draft.resize, setHeight, if_pos aspect]
    exact h.resized ha rfl rfl rfl ⟨rfl, rfl⟩ ⟨rfl, .inl rfl⟩
  | radius =>
    rw [Draft.resize, setRadius, if_pos aspect]
    exact h.resized ha rfl rfl rfl ⟨rfl, rfl⟩ ⟨rfl, .inr rfl⟩
  | diameter => exact h.resized ha rfl rfl rfl ⟨rfl, rfl⟩ ⟨rfl, .inl rfl⟩

/-- A clause that copies the sizes of another object. -/
theorem copyFrom_sized (h : d.Sized v as) {a : Attribute} {ref : Option ObjectRef}
    (ha : a.clause = .same ref) {o : Object K} (source : d.sourceOf v ref = .ok o) :
    (d.copyFrom o).Sized v (as ++ [a]) := by
  have last : lastSizing (as ++ [a]) = some (.same ref) := by
    rw [lastSizing_concat, ha]
    rfl
  refine ⟨h.aspect, ?_, ?_, ?_, fun own => ?_, fun other copies => ?_⟩
  · rw [List.any_append, show (d.copyFrom o).object.text = d.object.text from rfl, h.text]
    simp [ha, Clause.isText]
  · rw [List.any_append, show (d.copyFrom o).fit = d.fit from rfl, h.fit]
    simp [ha, Clause.asksFit]
  · rw [last]
    exact ⟨rfl, rfl⟩
  · exact absurd last (own ref)
  · cases last.symm.trans copies
    exact ⟨o, source, rfl, rfl, rfl⟩

/-- The effect of a clause on the size of a circle. -/
theorem Effect.sized {a : Attribute} {d' : Draft K} (effect : d.Effect v a.clause d')
    (h : d.Sized v as) : d'.Sized v (as ++ [a]) := by
  cases gives : a.clause.givesSize with
  | false => exact h.aside gives (effect.aside gives)
  | true =>
    generalize ha : a.clause = c at effect
    rw [ha] at gives
    cases effect with
    | size usual given => exact resize_sized h ha _
    | same source => exact copyFrom_sized h ha source
    | style restyles keeps => cases c <;> first | (cases restyles; done) | cases gives
    | path leads headings starts ends => cases c <;> first | (cases leads; done) | cases gives
    | _ => cases gives

/-- What all clauses together make of the size of a circle. -/
theorem applyAll_sized (h : d.Sized v []) (as : List Attribute) :
    Ensures (Sized v as) (Draft.applyAll v d as) :=
  applyAll_induct v d h (fun _ _ _ _ hn _ effect => effect.sized hn) as

/-! ## Placement -/

theorem eq_ok_of_liftFault {α : Type} {r : Except Fault α} {x : α} (h : liftFault r = .ok x) :
    r = .ok x := by
  cases r with
  | error e => cases h
  | ok y =>
    cases h
    rfl

variable {decl : Declaration} {s : Setting K}

/-- A circle that takes a size takes one diameter. -/
theorem takeSize_round (h : d.object.cls.keepsAspect = true) (width height : K) :
    let diameter := Arith.greatest width height
    (d.takeSize width height).object = { d.object with
      radius := Arith.half diameter
      width := if d.explicitWidth then d.object.width else diameter
      height := if d.explicitHeight then d.object.height else diameter } := by
  simp only [takeSize, h, if_true]

/-- A frame that fits a text is as large for a circle as for a box. -/
theorem fittingSize_round (h : d.object.cls.keepsAspect = true) (block : K × K)
    (charHeight fontScale : K) :
    Ensures (fun size => ∃ charWidth, size = (block.1 + Arith.twice charWidth * fontScale,
        block.2 + charHeight * fontScale))
      (fittingSize s d.object block charHeight fontScale) := by
  refine .andThen fun charWidth => .ok ⟨charWidth, ?_⟩
  unfold fitShape
  split
  all_goals first | rfl | (rename_i cls; rw [cls] at h; cases h)

/-- A circle that does not fit a text stays as its clauses have made it. -/
theorem Sized.roundAs (h : d.Sized v decl.attributes) (apart : decl.fitsText = false) :
    d.object.RoundAs s.measure decl fun ref o => d.sourceOf v ref = .ok o := by
  constructor
  · exact fun none => h.circular fun ref copies => nomatch none.symm.trans copies
  · intro what value given
    have circular := h.circular fun ref copies => nomatch given.symm.trans copies
    exact ⟨circular.1, fun _ => circular⟩
  · intro ref copies
    obtain ⟨o, source, width, height, radius⟩ := h.copied ref copies
    exact ⟨o, source, width, height, fun _ => radius⟩
  · exact fun fits => nomatch apart.symm.trans fits

/-- A circle that takes the diameter its text asks for: its radius changes, and its width and height
do if no clause gives them. -/
theorem Sized.takeSize_roundAs (h : d.Sized v decl.attributes) (fitted : decl.fitsText = true)
    {width height : K} (asks : d.object.AsksDiameter s.measure (Arith.greatest width height)) :
    (d.takeSize width height).object.RoundAs s.measure decl
      fun ref o => d.sourceOf v ref = .ok o := by
  have unfitted : ∀ {P : Prop}, decl.fitsText = false → P :=
    fun apart => nomatch fitted.symm.trans apart
  rw [takeSize_round h.aspect, h.given.1, h.given.2]
  constructor
  · intro none
    have free : (lastSizing decl.attributes).isSome = false := congrArg Option.isSome none
    rw [free]
    exact ⟨rfl, .inl rfl⟩
  · intro what value given
    have taken : (lastSizing decl.attributes).isSome = true := congrArg Option.isSome given
    have circular := h.circular fun ref copies => nomatch given.symm.trans copies
    rw [taken]
    exact ⟨circular.1, unfitted⟩
  · intro ref copies
    have taken : (lastSizing decl.attributes).isSome = true := congrArg Option.isSome copies
    obtain ⟨o, source, width, height, -⟩ := h.copied ref copies
    rw [taken]
    exact ⟨o, source, width, height, unfitted⟩
  · intro _
    refine ⟨_, asks, rfl, fun none => ?_⟩
    have free : (lastSizing decl.attributes).isSome = false := congrArg Option.isSome none
    rw [free]
    rfl

/-- Fitting the text leaves a circle alone unless the circle is to fit a text that it has. -/
theorem sizeToText_roundAs (h : d.Sized v decl.attributes) :
    Ensures (fun d' => d'.object.cls = d.object.cls ∧
        d'.object.RoundAs s.measure decl fun ref o => d.sourceOf v ref = .ok o)
      (d.sizeToText s) := by
  have fits : decl.fitsText = (d.fit && !d.object.text.isEmpty) := by
    rw [h.fit, h.text, Bool.not_not]
    rfl
  have framed : d.object.cls ≠ .text := fun text => by
    have aspect := h.aspect
    rw [text] at aspect
    cases aspect
  unfold sizeToText
  by_cases fitted : decl.fitsText = true
  · obtain ⟨fit, text⟩ := Bool.and_eq_true_iff.1 (fits ▸ fitted)
    have empty : d.object.text.isEmpty = false := Bool.not_eq_true' _ ▸ text
    rw [if_neg (by simp [fit, empty]), fit]
    intro d' hd
    obtain ⟨fontScale, -, hd⟩ := exists_of_bind_eq_ok hd
    obtain ⟨charHeight, -, hd⟩ := exists_of_bind_eq_ok hd
    obtain ⟨block, measured, hd⟩ := exists_of_bind_eq_ok hd
    obtain ⟨size, fitting, hd⟩ := exists_of_bind_eq_ok hd
    obtain ⟨charWidth, rfl⟩ := fittingSize_round h.aspect block charHeight fontScale size fitting
    cases hd
    exact ⟨rfl, h.takeSize_roundAs fitted
      ⟨charWidth, charHeight, fontScale, block, eq_ok_of_liftFault measured, rfl⟩⟩
  · have apart := Bool.eq_false_iff.2 fitted
    rw [if_pos]
    · exact .ok ⟨rfl, h.roundAs apart⟩
    · rw [fits] at apart
      rcases Bool.and_eq_false_iff.1 apart with unfit | empty
      · exact .inr ⟨by simp [unfit], framed⟩
      · exact .inl (by simpa using empty)

/-- A circle that has been placed. -/
theorem place_roundAs (h : d.Sized v decl.attributes) :
    Ensures (fun p => p.1.object.cls = d.object.cls ∧
        p.1.object.RoundAs s.measure decl fun ref o => d.sourceOf v ref = .ok o)
      (d.place s) := by
  have framed : d.object.cls.isLine = false := by
    have aspect := h.aspect
    cases cls : d.object.cls <;> first | rfl | (rw [cls] at aspect; cases aspect)
  rw [place, framed]
  refine .bind (sizeToText_roundAs h) fun sized hs => ?_
  refine .bind (sized.fillDot.placeFramed_figure s) fun placed hp => .ok ?_
  have same : placed.object.figure = sized.object.figure := by
    refine hp.trans ?_
    unfold fillDot
    split_ifs <;> rfl
  exact ⟨(congrArg Prod.fst same).trans hs.1, hs.2.of_figure same fun _ o ho => ⟨o, ho, rfl⟩⟩

end Draft

/-! ## Runs -/

/-- Whether an object may be copied by another one: it is older, and it is of the same class if no
object is named. -/
def Registry.Copyable (r : Registry K) (i : Nat) (cls : ObjectClass) (ref : Option ObjectRef)
    (o : Object K) : Prop :=
  (∃ j < i, r.arena[j]? = some o) ∧ (ref = none → o.cls = cls)

/-- Whether an object is of the size that the declaration of a circle asks for, if it is one. -/
def Registry.SizesCircle (measure : Measurer K) (r : Registry K) (i : Nat) (decl : Declaration) :
    Prop :=
  ∃ o, r.arena[i]? = some o ∧
    (o.cls.keepsAspect = true → o.RoundAs measure decl (r.Copyable i o.cls))

/-- A circle that has been drafted. -/
theorem Drawing.draft_roundAs {t : Resources K} {d : Drawing K} (h : d.registry.IsSound) (id : Nat)
    {cls : ObjectClass} (aspect : cls.keepsAspect = true) (decl : Declaration) :
    Ensures (fun p => p.1.object.RoundAs t.measure decl fun ref o =>
        (∃ j, d.registry.Finished j o) ∧ (ref = none → o.cls = p.1.object.cls))
      (d.draft t id cls decl.attributes) := by
  refine .bind (Draft.begin_sized id aspect d.cursor.direction) fun plain hb => ?_
  refine .bind (Draft.applyAll_sized hb decl.attributes) fun full hf => ?_
  intro p hp
  obtain ⟨cls, round⟩ := Draft.place_roundAs hf p hp
  refine round.of_figure rfl fun ref o ho => ⟨o, ?_, rfl⟩
  rw [cls]
  exact full.sourceOf_finished (v := d.view t) h ref o ho

/-- Circles are drawn as large as their declarations say, and stay so. -/
theorem Registry.sizesCircle_settles (t : Resources K) :
    Declaration.Settles t (Registry.SizesCircle t.measure) where
  declared {d r draft exit n cls label attributes} reached drafted older found := by
    refine ⟨_, found, fun aspect => ?_⟩
    have standing := Drawing.draft_standing _ _ _ _ drafted
    have same : draft.object.cls = cls := congrArg Standing.cls standing
    have round := Drawing.draft_roundAs (t := t) (reached.create_isSound cls) _ (same ▸ aspect)
      ⟨cls, label, attributes⟩ _ drafted
    refine round.of_figure rfl ?_
    rintro ref o ⟨⟨j, hj⟩, ofClass⟩
    obtain ⟨earlier, ho⟩ := hj.of_create
    exact ⟨o, ⟨⟨j, earlier, (older j earlier).trans ho⟩, ofClass⟩, rfl⟩
  grouped {after d' inner first n origin full placed label attributes} drafted wraps := by
    refine ⟨_, wraps.found, fun aspect => ?_⟩
    have cls : placed.object.cls = .container :=
      congrArg Standing.cls (Drawing.groupDraft_standing _ _ _ _ _ drafted)
    rw [show (placed.object.stamp after.serial).cls = .container from cls] at aspect
    cases aspect
  wrapped {after d' first group dx dy serial i decl} wraps hi hlt := by
    rintro ⟨o, ho, round⟩
    obtain ⟨o', ho', same⟩ := wraps.exists_figure ho
    have cls : o'.cls = o.cls := congrArg Prod.fst same
    refine ⟨o', ho', fun aspect => (round (cls ▸ aspect)).of_figure same ?_⟩
    rintro ref s ⟨⟨j, hj, hs⟩, ofClass⟩
    obtain ⟨s', hs', same'⟩ := wraps.exists_figure hs
    have cls' : s'.cls = s.cls := congrArg Prod.fst same'
    exact ⟨s', ⟨⟨j, hj, hs'⟩, fun none => cls'.trans ((ofClass none).trans cls.symm)⟩, same'⟩
  later {r r' i decl} same := by
    rintro ⟨o, ho, round⟩
    refine ⟨o, (same i (Nat.le_refl i)).trans ho, fun aspect => (round aspect).of_figure rfl ?_⟩
    rintro ref s ⟨⟨j, hj, hs⟩, ofClass⟩
    exact ⟨s, ⟨⟨j, hj, (same j (Nat.le_of_lt hj)).trans hs⟩, ofClass⟩, rfl⟩

/-! ## Diagrams -/

/-- Where no number overflows, the radius of what is circular is half its width. -/
theorem Object.isCircular_iff {K : Type} [ExactNumber K] {o : Object K} :
    o.IsCircular ↔ o.width = o.height ∧ o.radius = Arith.half o.width := by
  refine and_congr_right fun _ => ⟨?_, .inl⟩
  rintro (half | twice)
  · exact half
  · rw [twice, Arith.half_eq, Arith.twice, Arith.num_eq]
    ring

namespace Diagram

variable {t : Resources K} {source : String} {d : Diagram K}

/-- What some statements make of the sizes of the circles and dots of a diagram. -/
structure RoundAsDeclared (t : Resources K) (d : Diagram K) (ss : List Statement) : Prop where
  /-- Each is of the size that its declaration asks for. -/
  each : ∀ o ∈ d.allObjects, o.cls.keepsAspect = true → ∃ decl,
    (declarationsOf ss)[o.id]? = some decl ∧ decl.cls = o.cls ∧ decl.label = o.label ∧
      o.RoundAs t.measure decl (d.registry.Copyable o.id o.cls)
  /-- If no declaration takes width, height and radius of a circle apart, all are circular. -/
  round : (∀ decl ∈ declarationsOf ss, decl.cls.keepsAspect = true → decl.KeepsRound) →
    ∀ o ∈ d.allObjects, o.cls.keepsAspect = true → o.IsCircular

/-- Circles and dots are as large as their declarations say.  They are circular, except where one
copies an object that is not, or fits its text although its size is given. -/
theorem compile_roundAsDeclared (h : compile t source = .ok d) :
    ∃ ss, Program.ofSource t.colors source = .ok ss ∧ RoundAsDeclared t d ss := by
  have forest : d.IsForest := by
    obtain ⟨_, _, -, hr, rfl⟩ := compile_eq_ok.1 h
    exact isForest_of_run hr
  obtain ⟨ss, statements, -, sizes⟩ := compile_objects (Registry.sizesCircle_settles t) h
  have each : ∀ o ∈ d.allObjects, o.cls.keepsAspect = true → ∃ decl,
      (declarationsOf ss)[o.id]? = some decl ∧ decl.cls = o.cls ∧ decl.label = o.label ∧
        o.RoundAs t.measure decl (d.registry.Copyable o.id o.cls) := by
    intro o ho aspect
    obtain ⟨decl, hdecl, cls, label, here, _, found, round⟩ := sizes o ho
    cases here.symm.trans found
    exact ⟨decl, hdecl, cls.symm, label.symm, round aspect⟩
  refine ⟨ss, statements, each, fun keeps => ?_⟩
  -- by induction on the number of the circle: it only copies older ones
  have byNumber : ∀ n, ∀ o ∈ d.allObjects, o.id = n → o.cls.keepsAspect = true →
      o.IsCircular := by
    intro n
    induction n using Nat.strongRecOn with
    | ind n ih =>
      intro o ho hn aspect
      obtain ⟨decl, hdecl, cls, -, round⟩ := each o ho aspect
      refine round.isCircular (keeps decl (List.mem_of_getElem? hdecl) (cls ▸ aspect)) ?_
      rintro s ⟨⟨j, hj, hs⟩, ofClass⟩
      have listed : s ∈ d.allObjects := forest.each.mem_iff.2 (List.mem_of_getElem? hs)
      exact ih j (hn ▸ hj) s listed (forest.id_of_getElem? hs) (ofClass rfl ▸ aspect)
  exact fun o ho aspect => byNumber o.id o ho rfl aspect

/-- A circle around its text, one like it, and a dot of half the usual diameter. -/
theorem compile_roundAsDeclared_same : ∃ (d : Diagram MachineNumber) (ss : List Statement),
    compile Resources.standard "circle \"hi\" fit; circle same; dot diameter 50%" = .ok d ∧
    d.allObjects.map (·.cls) = [.circle, .circle, .dot] ∧
    Program.ofSource .standard "circle \"hi\" fit; circle same; dot diameter 50%" = .ok ss ∧
    RoundAsDeclared Resources.standard d ss ∧ ∀ o ∈ d.allObjects, o.IsCircular := by
  let ss : List Statement := [
    .object ⟨1, 1⟩ .circle none [⟨⟨1, 8⟩, .text { text := "hi" }⟩, ⟨⟨1, 13⟩, .flag .fit⟩],
    .object ⟨1, 18⟩ .circle none [⟨⟨1, 25⟩, .same none⟩],
    .object ⟨1, 31⟩ .dot none
      [⟨⟨1, 35⟩, .size .diameter (.percent ⟨1, 44⟩ ⟨50, 0⟩)⟩]]
  have statements :
      Program.ofSource .standard "circle \"hi\" fit; circle same; dot diameter 50%" = .ok ss := by
    cbv
  have drawn : ((ofStatements (Resources.standard : Resources MachineNumber) ss).toOption.map
      fun d => d.allObjects.map (·.cls)) = some [.circle, .circle, .dot] := by
    decide +kernel
  obtain ⟨d, compiled, listed⟩ :=
    exists_compile_eq_ok (t := Resources.standard) statements drawn
  obtain ⟨ss', same, round⟩ := compile_roundAsDeclared compiled
  cases statements.symm.trans same
  refine ⟨d, ss, compiled, listed, same, round, fun o ho => round.round ?_ o ho ?_⟩
  · intro decl hd _
    simp only [ss, declarationsOf, Statement.declarations, List.cons_append, List.nil_append,
      List.mem_cons, List.not_mem_nil, or_false] at hd
    rcases hd with rfl | rfl | rfl <;>
      simp [Declaration.KeepsRound, Declaration.sizing, lastSizing, Clause.givesSize,
        Declaration.fitsText, Clause.asksFit]
  · have known : o.cls ∈ d.allObjects.map (·.cls) := List.mem_map_of_mem ho
    rw [listed] at known
    simp only [List.mem_cons, List.not_mem_nil, or_false] at known
    rcases known with cls | cls | cls <;> rw [cls] <;> rfl

/-- A circle that copies a box is as wide and high as the box.  A circle that is given a width and
fits its text has the radius that the text asks for. -/
theorem compile_uncircular :
    (∃ d : Diagram MachineNumber,
      compile Resources.standard "box; circle same as 1st box" = .ok d ∧
      ∃ o ∈ d.allObjects, o.cls = .circle ∧ o.width ≠ o.height) ∧
    ∃ d : Diagram MachineNumber,
      compile Resources.standard "circle \"hello\" width 1 fit" = .ok d ∧
      ∃ o ∈ d.allObjects, o.cls = .circle ∧ o.radius ≠ Arith.half o.width := by
  let copies : List Statement := [.object ⟨1, 1⟩ .box none [],
    .object ⟨1, 6⟩ .circle none
      [⟨⟨1, 13⟩, .same (some (.select ⟨1, 21⟩ (.ordinal .box 1 false)))⟩]]
  let fits : List Statement := [.object ⟨1, 1⟩ .circle none [⟨⟨1, 8⟩, .text { text := "hello" }⟩,
    ⟨⟨1, 16⟩, .size .width (.number ⟨1, 22⟩ ⟨1, 0⟩ none)⟩, ⟨⟨1, 24⟩, .flag .fit⟩]]
  have copied : Program.ofSource .standard "box; circle same as 1st box" = .ok copies := by
    cbv
  have fitted : Program.ofSource .standard "circle \"hello\" width 1 fit" = .ok fits := by
    cbv
  have wide : ((ofStatements (Resources.standard : Resources MachineNumber) copies).toOption.map
      fun d => d.allObjects.any fun o => o.cls = .circle ∧ o.width.value ≠ o.height.value) =
        some true := by
    decide +kernel
  have loose : ((ofStatements (Resources.standard : Resources MachineNumber) fits).toOption.map
      fun d => d.allObjects.any fun o => o.cls = .circle ∧
        o.radius.value ≠ (Arith.half o.width).value) = some true := by
    decide +kernel
  obtain ⟨d, compiled, known⟩ := exists_compile_eq_ok (t := Resources.standard) copied wide
  obtain ⟨e, compiled', known'⟩ := exists_compile_eq_ok (t := Resources.standard) fitted loose
  obtain ⟨o, ho, shape⟩ := List.any_eq_true.1 known
  obtain ⟨o', ho', shape'⟩ := List.any_eq_true.1 known'
  obtain ⟨circle, apart⟩ := of_decide_eq_true shape
  obtain ⟨circle', apart'⟩ := of_decide_eq_true shape'
  exact ⟨⟨d, compiled, o, ho, circle, fun h => apart (congrArg _ h)⟩,
    e, compiled', o', ho', circle', fun h => apart' (congrArg _ h)⟩

end Diagram

end DiagramScript
