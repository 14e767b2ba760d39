import DiagramScript.Proofs.Renaming

/-!
# Evaluation under other names

References by label mean the same objects whatever these are called inside.  Two views in which
the same can be looked up under other names give the same numbers and points, under other names.

* `Together` — two computations that both fail, or give results that belong together.
* `ObjectRef.byLabel`, `Scalar.byLabel`, `Position.byLabel` — whether objects are meant by their
  labels only, and none by counting.
* `View.Mirrors` — two views with the same answers under other names.
* `View.Mirrors.scalar`, `View.Mirrors.position` — the same values of expressions and positions.
-/

namespace DiagramScript

/-! ## Results that belong together -/

/-- Two computations that both fail, or give results that belong together. -/
inductive Together {α β ε : Type} (R : α → β → Prop) : Except ε α → Except ε β → Prop where
  /-- Both succeed. -/
  | ok {x : α} {y : β} (h : R x y) : Together R (.ok x) (.ok y)
  /-- Both fail, perhaps with different messages. -/
  | error (d e : ε) : Together R (.error d) (.error e)

section

variable {α β γ δ ε : Type} {R : α → β → Prop} {r : Except ε α} {r' : Except ε β}

namespace Together

theorem bind {S : γ → δ → Prop} {next : α → Except ε γ} {next' : β → Except ε δ}
    (h : Together R r r') (hn : ∀ x y, r = .ok x → R x y → Together S (next x) (next' y)) :
    Together S (r >>= next) (r' >>= next') := by
  cases h with
  | ok h => exact hn _ _ rfl h
  | error d e => exact .error d e

theorem exists_eq_ok {y : β} (h : Together R r r') (hy : r' = .ok y) : ∃ x, r = .ok x ∧ R x y := by
  cases h with
  | ok h =>
    cases hy
    exact ⟨_, rfl, h⟩
  | error d e => cases hy

theorem bindAlike {ψ : γ → δ} {next : α → Except ε γ} {next' : β → Except ε δ}
    (h : Together R r r') (hn : ∀ x y, R x y → Alike ψ (next x) (next' y)) :
    Alike ψ (r >>= next) (r' >>= next') := by
  cases h with
  | ok h => exact hn _ _ h
  | error d e => exact .error d e

theorem mapAlike {ψ : γ → δ} {f : α → γ} {f' : β → δ} (h : Together R r r')
    (hf : ∀ x y, R x y → f' y = ψ (f x)) : Alike ψ (r.map f) (r'.map f') := by
  cases h with
  | ok h => exact .of_eq_ok (hf _ _ h)
  | error d e => exact .error d e

theorem map {S : γ → δ → Prop} {f : α → γ} {f' : β → δ} (h : Together R r r')
    (hf : ∀ x y, R x y → S (f x) (f' y)) : Together S (r.map f) (r'.map f') := by
  cases h with
  | ok h => exact .ok (hf _ _ h)
  | error d e => exact .error d e

theorem locating {r : Except Failure α} {r' : Except Failure β} (h : Together R r r')
    (p : SourcePos) : Together R (locating p r) (DiagramScript.locating p r') := by
  cases h with
  | ok h => exact .ok h
  | error d e => exact .error _ _

end Together

theorem Alike.bindTogether {φ : α → β} {S : γ → δ → Prop} {next : α → Except ε γ}
    {next' : β → Except ε δ} (h : Alike φ r r')
    (hn : ∀ x, r = .ok x → Together S (next x) (next' (φ x))) :
    Together S (r >>= next) (r' >>= next') := by
  cases h with
  | ok x => exact hn x rfl
  | error d e => exact .error d e

end

/-! ## References by label -/

section

variable (counting : Bool)

/-- Whether an object is picked by its label; it may be picked by counting only if that is
allowed. -/
def Selector.byLabel : Selector → Bool
  | .label _ => true
  | .ordinal .. => counting

/-- Whether an object is meant by labels, or also by counting if that is allowed. -/
def ObjectRef.byLabel : ObjectRef → Bool
  | .previous _ => counting
  | .select _ sel => sel.byLabel counting
  | .member _ group _ sel => group.byLabel && sel.byLabel counting

mutual

/-- Whether an expression means objects by labels only, or also by counting if that is allowed. -/
def Scalar.byLabel : Scalar → Bool
  | .number .. => true
  | .percent .. => true
  | .var .. => true
  | .color .. => true
  | .neg _ e => e.byLabel
  | .binary _ _ a b => a.byLabel && b.byLabel
  | .call _ _ args => scalarsByLabel args
  | .dist _ args => positionsByLabel args
  | .coordinate _ q _ => q.byLabel
  | .property _ ref _ => ref.byLabel counting

/-- The same for some expressions. -/
def scalarsByLabel : List Scalar → Bool
  | [] => true
  | e :: es => e.byLabel && scalarsByLabel es

/-- The same for some positions. -/
def positionsByLabel : List Position → Bool
  | [] => true
  | q :: qs => q.byLabel && positionsByLabel qs

/-- The same for a position. -/
def Position.byLabel : Position → Bool
  | .pair _ x y => x.byLabel && y.byLabel
  | .object _ ref _ => ref.byLabel counting
  | .vertex _ _ ref _ => ref.byLabel counting
  | .offset _ base dx dy _ => base.byLabel && dx.byLabel && dy.byLabel
  | .mix _ a b => a.byLabel && b.byLabel
  | .relative _ distance _ base => distance.byLabel && base.byLabel
  | .heading _ distance angle base => distance.byLabel && angle.byLabel && base.byLabel
  | .between _ none a b => a.byLabel && b.byLabel
  | .between _ (some f) a b => f.byLabel && a.byLabel && b.byLabel

end

end

@[simp] theorem ObjectRef.byLabel_true (ref : ObjectRef) : ref.byLabel true = true := by
  have picked : ∀ sel : Selector, sel.byLabel true = true := fun sel => by cases sel <;> rfl
  induction ref with
  | previous p => rfl
  | select p sel => exact picked sel
  | member p group q sel ih => rw [ObjectRef.byLabel, ih, picked, Bool.and_self]

mutual

/-- If counting is allowed, there is nothing to ask of an expression. -/
@[simp] theorem Scalar.byLabel_true (e : Scalar) : e.byLabel true = true := by
  cases e with
  | number p value unit => simp [Scalar.byLabel]
  | percent p value => simp [Scalar.byLabel]
  | var p name => simp [Scalar.byLabel]
  | color p name => simp [Scalar.byLabel]
  | neg p e => simp [Scalar.byLabel, e.byLabel_true]
  | binary p op a b => simp [Scalar.byLabel, a.byLabel_true, b.byLabel_true]
  | call p f args => simp [Scalar.byLabel, scalarsByLabel_true args]
  | dist p args => simp [Scalar.byLabel, positionsByLabel_true args]
  | coordinate p q axis => simp [Scalar.byLabel, q.byLabel_true]
  | property p ref what => simp [Scalar.byLabel]

theorem scalarsByLabel_true (es : List Scalar) : scalarsByLabel true es = true := by
  cases es with
  | nil => rw [scalarsByLabel]
  | cons e es => rw [scalarsByLabel, e.byLabel_true, scalarsByLabel_true es, Bool.and_self]

theorem positionsByLabel_true (qs : List Position) : positionsByLabel true qs = true := by
  cases qs with
  | nil => rw [positionsByLabel]
  | cons q qs => rw [positionsByLabel, q.byLabel_true, positionsByLabel_true qs, Bool.and_self]

/-- The same for a position. -/
@[simp] theorem Position.byLabel_true (q : Position) : q.byLabel true = true := by
  cases q with
  | pair p x y => simp [Position.byLabel, x.byLabel_true, y.byLabel_true]
  | object p ref anchor => simp [Position.byLabel]
  | vertex p n ref fromLast => simp [Position.byLabel]
  | offset p base dx dy backward =>
    simp [Position.byLabel, base.byLabel_true, dx.byLabel_true, dy.byLabel_true]
  | mix p a b => simp [Position.byLabel, a.byLabel_true, b.byLabel_true]
  | relative p distance side base =>
    simp [Position.byLabel, distance.byLabel_true, base.byLabel_true]
  | heading p distance angle base =>
    simp [Position.byLabel, distance.byLabel_true, angle.byLabel_true, base.byLabel_true]
  | between p f a b =>
    cases f with
    | none => simp [Position.byLabel, a.byLabel_true, b.byLabel_true]
    | some f => simp [Position.byLabel, f.byLabel_true, a.byLabel_true, b.byLabel_true]

end

/-! ## Views -/

variable {K : Type}

/-- Whether one object is another under other names.  They need not be counted alike. -/
def Object.Mirrors (ρ : Renaming) (o o' : Object (Marked K)) : Prop :=
  ∃ n, o' = { ρ.object o with ordinal := n }

/-- Two views in which the same can be looked up under other names. -/
structure View.Mirrors (ρ : Renaming) (counting : Bool) (v w : View (Marked K)) : Prop where
  /-- References by label mean the same objects. -/
  follow : ∀ {ref : ObjectRef}, ref.byLabel counting = true →
    Alike ρ.index (View.follow v.registry v.scope ref) (View.follow w.registry w.scope ref)
  /-- Labels of points mean the same points. -/
  place : ∀ label, w.registry.resolvePlace w.scope label =
    (v.registry.resolvePlace v.scope label).map ρ.point
  /-- The objects are the same. -/
  object : ∀ id, Together (Object.Mirrors ρ) (v.registry.object id) (w.registry.object (ρ.index id))
  /-- The variables are the same. -/
  lookup : ∀ name, w.registry.lookupVariable w.scope name =
    (v.registry.lookupVariable v.scope name).map ρ.number
  /-- The colours are the same. -/
  colors : w.colors = v.colors
  /-- The units are the same. -/
  units : ∀ x unit, Alike ρ.number (v.units x unit) (w.units (ρ.number x) unit)

namespace View.Mirrors

variable {ρ : Renaming} {counting : Bool} {v w : View (Marked K)} (h : v.Mirrors ρ counting w)
include h

/-! ### References -/

theorem objectId {ref : ObjectRef} (hr : ref.byLabel counting = true) :
    Alike ρ.index (v.objectId ref) (w.objectId ref) :=
  (h.follow hr).locating _

theorem objectOf {ref : ObjectRef} (hr : ref.byLabel counting = true) :
    Together (Object.Mirrors ρ) (v.object ref) (w.object ref) :=
  (h.objectId hr).bindTogether fun id _ => h.object id

theorem placeOf? (ref : ObjectRef) : w.placeOf? ref = (v.placeOf? ref).map ρ.point := by
  unfold View.placeOf?
  split
  · exact h.place _
  · rfl

theorem wholeObject {q : Position} (hq : q.byLabel counting = true) :
    Alike (Option.map ρ.index) (v.wholeObject q) (w.wholeObject q) := by
  unfold View.wholeObject
  split
  · rename_i ref
    rw [h.placeOf?]
    cases v.placeOf? ref with
    | some p => exact .ok none
    | none =>
      rw [Position.byLabel] at hq
      exact (h.objectId hq).map fun _ => rfl
  · exact .ok none

variable [Arith K]

theorem objectPlace {ref : ObjectRef} (hr : ref.byLabel counting = true) (anchor : Option Anchor) :
    Alike ρ.point (v.objectPlace ref anchor) (w.objectPlace ref anchor) := by
  have center : Alike ρ.point ((v.object ref).map (·.center)) ((w.object ref).map (·.center)) :=
    (h.objectOf hr).mapAlike fun o o' ho => by
      obtain ⟨n, rfl⟩ := ho
      rfl
  have anchored : ∀ a, Alike ρ.point ((v.object ref).map (·.anchorPoint a))
      ((w.object ref).map (·.anchorPoint a)) := fun a =>
    (h.objectOf hr).mapAlike fun o o' ho => by
      obtain ⟨n, rfl⟩ := ho
      exact ρ.anchorPoint_object o a
  unfold View.objectPlace
  rw [h.placeOf?]
  cases hp : v.placeOf? ref with
  | none =>
    cases anchor with
    | none => exact center
    | some a => exact anchored a
  | some p =>
    cases anchor with
    | none => exact .ok p
    | some a =>
      have label : ∃ q name, ref = .select q (.label name) := by
        unfold View.placeOf? at hp
        split at hp
        · exact ⟨_, _, rfl⟩
        · cases hp
      obtain ⟨q, name, rfl⟩ := label
      exact .error _ _

omit [Arith K] in
theorem vertexOf {ref : ObjectRef} (hr : ref.byLabel counting = true) (n : Nat) (fromLast : Bool) :
    Alike ρ.point (v.vertexOf n ref fromLast) (w.vertexOf n ref fromLast) := by
  refine (h.objectOf hr).bindAlike fun o o' ho => ?_
  obtain ⟨k, rfl⟩ := ho
  refine .ite Iff.rfl (fun _ => .error _ _) fun _ => ?_
  have count : (o.points.map ρ.point).length = o.points.length := List.length_map _
  have found : ∀ i, ({ ρ.object o with ordinal := k } : Object (Marked K)).vertex? i =
      (o.vertex? i).map ρ.point := ρ.vertex?_object o
  dsimp only
  rw [found, show (ρ.object o).points.length = _ from count]
  split
  · rename_i p hp
    rw [hp]
    exact .ok p
  · rename_i hp
    rw [hp]
    exact .error _ _

/-! ### Numbers -/

omit h [Arith K] in
theorem settle [Arith K] {r r' : Except Failure (Marked K)} (hr : Alike ρ.number r r')
    (p : SourcePos) : Alike ρ.number (View.settle p r) (View.settle p r') :=
  .locating (hr.bind fun x _ => .ite Iff.rfl (fun _ => .ok x) fun _ => .error _ _) p

theorem literal (value : Decimal) (unit : Option LengthUnit) :
    Alike ρ.number (v.literal value unit) (w.literal value unit) :=
  (h.units (Arith.ofDecimal value) unit).mapError _ _

omit [Arith K] in
theorem variableValue (name : String) :
    Alike ρ.number (v.variableValue name) (w.variableValue name) := by
  unfold View.variableValue
  rw [h.lookup]
  cases v.registry.lookupVariable v.scope name with
  | some x => exact .ok x
  | none => exact .error _ _

theorem colorNumber (name : String) :
    Alike ρ.number (v.colorNumber name) (w.colorNumber name) := by
  unfold View.colorNumber
  rw [h.colors]
  cases v.colors.value? name with
  | some n => exact .ok (Arith.ofInt n)
  | none => exact .error _ _

omit h

theorem operate (op : BinaryOp) (a b : Marked K) :
    Alike ρ.number (View.operate op a b) (View.operate op (ρ.number a) (ρ.number b)) := by
  cases op with
  | add => exact .ok (a + b)
  | sub => exact .ok (a - b)
  | mul => exact .ok (a * b)
  | div => exact .ite Iff.rfl (fun _ => .error _ _) fun _ => .ok (a / b)

theorem root (x : Marked K) : Alike ρ.number (View.root x) (View.root (ρ.number x)) :=
  .ite Iff.rfl (fun _ => .error _ _) fun _ => .ok (Arith.sqrt x)

theorem applyFunction (f : ScalarFunction) (xs : List (Marked K)) :
    Alike ρ.number (View.apply f xs) (View.apply f (xs.map ρ.number)) := by
  cases f with
  | abs =>
    rcases xs with _ | ⟨x, _ | _⟩
    exacts [.error _ _, .ok (Arith.abs x), .error _ _]
  | cos =>
    rcases xs with _ | ⟨x, _ | _⟩
    exacts [.error _ _, .liftFault (.map (ρ.headingVector_number x) fun _ => rfl), .error _ _]
  | sin =>
    rcases xs with _ | ⟨x, _ | _⟩
    exacts [.error _ _, .liftFault (.map (ρ.headingVector_number x) fun _ => rfl), .error _ _]
  | sqrt =>
    rcases xs with _ | ⟨x, _ | _⟩
    exacts [.error _ _, root x, .error _ _]
  | min =>
    rcases xs with _ | ⟨x, _ | ⟨y, _ | _⟩⟩
    exacts [.error _ _, .error _ _, .of_eq_ok (ρ.least_number x y), .error _ _]
  | max =>
    rcases xs with _ | ⟨x, _ | ⟨y, _ | _⟩⟩
    exacts [.error _ _, .error _ _, .of_eq_ok (ρ.greatest_number x y), .error _ _]
  | int =>
    rcases xs with _ | ⟨x, _ | _⟩
    exacts [.error _ _, .liftFault (.map (ρ.truncate_alike x) fun _ => rfl), .error _ _]

theorem measure (o : Object (Marked K)) (what : Property) :
    View.measure (ρ.object o) what = ρ.number (View.measure o what) := by
  have radius : View.radiusOf (ρ.object o) = ρ.number (View.radiusOf o) := by
    unfold View.radiusOf
    rw [apply_ite ρ.number]
    rfl
  cases what with
  | width => rfl
  | height => rfl
  | thickness => rfl
  | radius => exact radius
  | diameter =>
    rw [View.measure, View.measure, radius]
    rfl

mutual

/-- The value of an expression. -/
theorem scalar (h : v.Mirrors ρ counting w) {e : Scalar} (he : e.byLabel counting = true) :
    Alike ρ.number (v.scalar e) (w.scalar e) := by
  cases e with
  | number p value unit =>
    rw [View.scalar, View.scalar]
    exact settle (h.literal value unit) p
  | percent p value =>
    rw [View.scalar, View.scalar]
    exact settle (.error _ _) p
  | var p name =>
    rw [View.scalar, View.scalar]
    exact settle (h.variableValue name) p
  | color p name =>
    rw [View.scalar, View.scalar]
    exact settle (h.colorNumber name) p
  | neg p e =>
    rw [View.scalar, View.scalar]
    rw [Scalar.byLabel] at he
    exact settle (.bind (scalar h he) fun x _ => .ok (-x)) p
  | binary p op a b =>
    rw [View.scalar, View.scalar]
    rw [Scalar.byLabel, Bool.and_eq_true] at he
    exact settle (.bind (scalar h he.1) fun x _ => .bind (scalar h he.2) fun y _ =>
      operate op x y) p
  | call p f args =>
    rw [View.scalar, View.scalar]
    rw [Scalar.byLabel] at he
    exact settle (.ite Iff.rfl (fun _ => .error _ _) fun _ => .bind (scalars h he) fun xs _ =>
      applyFunction f xs) p
  | dist p args =>
    rw [View.scalar, View.scalar]
    rw [Scalar.byLabel] at he
    refine settle (.ite Iff.rfl (fun _ => .error _ _) fun _ =>
      .bind (positions h he) fun ps _ => ?_) p
    match ps with
    | [] => exact .error _ _
    | [a] => exact .error _ _
    | [a, b] => exact .ok (Point.distance a b)
    | _ :: _ :: _ :: _ => exact .error _ _
  | coordinate p q axis =>
    rw [View.scalar, View.scalar]
    rw [Scalar.byLabel] at he
    refine settle (.bind (position h he) fun point _ => .of_eq_ok ?_) p
    cases axis <;> rfl
  | property p ref what =>
    rw [View.scalar, View.scalar]
    rw [Scalar.byLabel] at he
    refine settle ((h.objectOf he).bindAlike fun o o' ho => .of_eq_ok ?_) p
    obtain ⟨n, rfl⟩ := ho
    exact measure o what

theorem scalars (h : v.Mirrors ρ counting w) {es : List Scalar}
    (he : scalarsByLabel counting es = true) :
    Alike (List.map ρ.number) (v.scalars es) (w.scalars es) := by
  cases es with
  | nil =>
    rw [View.scalars, View.scalars]
    exact .ok []
  | cons e es =>
    rw [View.scalars, View.scalars]
    rw [scalarsByLabel, Bool.and_eq_true] at he
    exact .bind (scalar h he.1) fun x _ => .bind (scalars h he.2) fun xs _ => .ok (x :: xs)

theorem positions (h : v.Mirrors ρ counting w) {qs : List Position}
    (hq : positionsByLabel counting qs = true) :
    Alike (List.map ρ.point) (v.positions qs) (w.positions qs) := by
  cases qs with
  | nil =>
    rw [View.positions, View.positions]
    exact .ok []
  | cons q qs =>
    rw [View.positions, View.positions]
    rw [positionsByLabel, Bool.and_eq_true] at hq
    exact .bind (position h hq.1) fun x _ => .bind (positions h hq.2) fun xs _ => .ok (x :: xs)

/-- The point of a position. -/
theorem position (h : v.Mirrors ρ counting w) {q : Position} (hq : q.byLabel counting = true) :
    Alike ρ.point (v.position q) (w.position q) := by
  cases q with
  | pair p x y =>
    rw [View.position, View.position]
    rw [Position.byLabel, Bool.and_eq_true] at hq
    exact .locating (.bind (scalar h hq.1) fun x _ => .bind (scalar h hq.2) fun y _ =>
      .ok (⟨x, y⟩ : Point (Marked K))) p
  | object p ref anchor =>
    rw [View.position, View.position]
    rw [Position.byLabel] at hq
    exact .locating (h.objectPlace hq anchor) p
  | vertex p n ref fromLast =>
    rw [View.position, View.position]
    rw [Position.byLabel] at hq
    exact .locating (h.vertexOf hq n fromLast) p
  | offset p base dx dy backward =>
    rw [View.position, View.position]
    rw [Position.byLabel, Bool.and_eq_true, Bool.and_eq_true] at hq
    obtain ⟨⟨hb, hx⟩, hy⟩ := hq
    exact .locating (.bind (position h hb) fun base _ => .bind (scalar h hx) fun dx _ =>
      .bind (scalar h hy) fun dy _ => .ok (base.shift _ _)) p
  | mix p a b =>
    rw [View.position, View.position]
    rw [Position.byLabel, Bool.and_eq_true] at hq
    exact .locating (.bind (position h hq.1) fun a _ => .bind (position h hq.2) fun b _ =>
      .ok (⟨a.x, b.y⟩ : Point (Marked K))) p
  | relative p distance side base =>
    rw [View.position, View.position]
    rw [Position.byLabel, Bool.and_eq_true] at hq
    exact .locating (.bind (scalar h hq.1) fun d _ => .bind (position h hq.2) fun base _ =>
      .bind (ρ.compassVector_same side).liftFault fun u _ => .ok (base.plus (u.scale d))) p
  | heading p distance angle base =>
    rw [View.position, View.position]
    rw [Position.byLabel, Bool.and_eq_true, Bool.and_eq_true] at hq
    obtain ⟨⟨hd, ha⟩, hb⟩ := hq
    exact .locating (.bind (scalar h hd) fun d _ => .bind (scalar h ha) fun angle _ =>
      .bind (position h hb) fun base _ =>
        .bind (ρ.headingVector_number angle).liftFault fun u _ => .ok (base.plus (u.scale d))) p
  | between p fraction a b =>
    cases fraction with
    | none =>
      rw [View.position, View.position]
      rw [Position.byLabel, Bool.and_eq_true] at hq
      exact .locating (.bind (position h hq.1) fun a _ => .bind (position h hq.2) fun b _ =>
        .ok (a.toward b _)) p
    | some e =>
      rw [View.position, View.position]
      rw [Position.byLabel, Bool.and_eq_true, Bool.and_eq_true] at hq
      obtain ⟨⟨he, ha⟩, hb⟩ := hq
      exact .locating (.bind (scalar h he) fun f _ => .bind (position h ha) fun a _ =>
        .bind (position h hb) fun b _ => .ok (a.toward b f)) p

end

include h

theorem size {e : Scalar} (he : e.byLabel counting = true) (reference : Marked K) :
    Alike ρ.number (v.size e reference) (w.size e (ρ.number reference)) := by
  unfold View.size
  split
  · exact .ok _
  · exact h.scalar he

omit [Arith K] in
theorem builtin (name : String) : Alike ρ.number (v.builtin name) (w.builtin name) := by
  unfold View.builtin
  rw [h.lookup]
  cases v.registry.lookupVariable v.scope name with
  | some x => exact .ok x
  | none => exact .error _ _

omit [Arith K] in
theorem builtinOr (name : Option String) (otherwise : Marked K) :
    Alike ρ.number (v.builtinOr name otherwise) (w.builtinOr name (ρ.number otherwise)) := by
  cases name with
  | none => exact .ok otherwise
  | some n => exact h.builtin n

end View.Mirrors

end DiagramScript
