import DiagramScript.Proofs.Nodes
import DiagramScript.Proofs.ReadingSteps

/-!
# Values of nodes

Nodes are evaluated by looking at what they are.  A node of the wrong kind, and a word that no table
holds, stop the evaluation with a misfit, which is no mistake of the script.  What is written of an
expression or of a position has the value of the expression or position, so nothing of the kind
happens there.

* `Misfit`, `NodeFailure` — how nodes can fail, besides in the ways of a script.
* `View.idOfNode`, `View.numberOf`, `View.pointOf`, `View.sizeOf`, `View.wholeOf` — objects, numbers
  and points of nodes; `functionTable` holds the functions.
* `View.idOfNode_node`, `View.numberOf_node`, `View.pointOf_node`, `View.sizeOf_node`,
  `View.wholeOf_node` — the same objects, numbers and points.
-/

namespace DiagramScript

/-! ## Failures -/

/-- How a tree can fail to say something that can be run. -/
inductive Misfit where
  /-- A node that is used as a number is none. -/
  | notNumber (kind : String)
  /-- A node that is used as a point is none. -/
  | notPoint (kind : String)
  /-- A node that is used as a reference is none. -/
  | notReference (kind : String)
  /-- There is no such function. -/
  | unknownFunction (name : String)
  /-- There is no such anchor. -/
  | unknownAnchor (name : String)
  /-- Nothing is known to do for a clause that the class takes. -/
  | noHandler (clause : String)
  /-- A slot of a clause holds nothing of the kind that the clause uses. -/
  | wrongSlot (clause : String)

/-- Why something that is done with nodes stops. -/
inductive NodeFailure where
  /-- It fails as a script does. -/
  | failure (f : Failure)
  /-- The nodes do not fit together. -/
  | misfit (m : Misfit)

/-- Fills in the place of a mistake, unless a more precise one is known already. -/
def NodeFailure.locate (f : NodeFailure) (p : SourcePos) : NodeFailure :=
  match f with
  | failure f => failure (f.locate p)
  | misfit m => misfit m

/-- Fills in the place of a mistake that stops a computation. -/
def placing {α : Type} (p : SourcePos) (r : Except NodeFailure α) : Except NodeFailure α :=
  r.mapError (·.locate p)

/-- A computation that fails only as a script does. -/
def lifting {α : Type} (r : Except Failure α) : Except NodeFailure α := r.mapError .failure

section

variable {α β : Type}

@[simp] theorem lifting_ok (x : α) : lifting (.ok x) = .ok x := rfl

@[simp] theorem lifting_error (f : Failure) :
    lifting (.error f : Except Failure α) = .error (.failure f) := rfl

theorem lifting_bind (r : Except Failure α) (next : α → Except Failure β) :
    lifting (r >>= next) = lifting r >>= fun x => lifting (next x) := by
  cases r <;> rfl

theorem lifting_map (r : Except Failure α) (f : α → β) :
    lifting (r.map f) = (lifting r).map f := by
  cases r <;> rfl

theorem lifting_ite {c : Prop} [Decidable c] (r s : Except Failure α) :
    lifting (if c then r else s) = if c then lifting r else lifting s :=
  apply_ite lifting c r s

@[simp] theorem placing_lifting (p : SourcePos) (r : Except Failure α) :
    placing p (lifting r) = lifting (locating p r) := by
  cases r <;> rfl

end

/-! ## Evaluation -/

variable {K : Type} [Arith K]

/-- The anchor of some name. -/
def anchorNamed (word : String) : Except NodeFailure Anchor :=
  match Anchor.ofName? word with
  | some a => .ok a
  | none => .error (.misfit (.unknownAnchor word))

/-- The point of the compass of some name. -/
def compassNamed (word : String) : Except NodeFailure Compass :=
  match Compass.ofName? word with
  | some c => .ok c
  | none => .error (.misfit (.unknownAnchor word))

/-- What a function makes of its arguments. -/
inductive Implementation (K : Type) where
  /-- It takes numbers. -/
  | ofNumbers (f : List K → Except Failure K)
  /-- It takes points. -/
  | ofPoints (f : List (Point K) → Except Failure K)

/-- The distance between two points. -/
def distanceOf : List (Point K) → Except Failure K
  | [a, b] => .ok (Point.distance a b)
  | ps => .error (.eval (.arity distanceName 2 ps.length))

/-- The functions, with the number of their arguments. -/
def functionTable : List (String × Nat × Implementation K) := [
  ("abs", 1, .ofNumbers (View.apply .abs)),
  ("cos", 1, .ofNumbers (View.apply .cos)),
  ("sin", 1, .ofNumbers (View.apply .sin)),
  ("sqrt", 1, .ofNumbers (View.apply .sqrt)),
  ("min", 2, .ofNumbers (View.apply .min)),
  ("max", 2, .ofNumbers (View.apply .max)),
  ("int", 1, .ofNumbers (View.apply .int)),
  ("dist", 2, .ofPoints distanceOf)]

namespace View

/-- The object that a node means, in one scope only or also in those around it. -/
def nodeId (r : Registry K) ( localOnly : Bool) (s : Nat) : Node → Except NodeFailure Nat
  | .labelRef _ name => lifting (r.resolveLabel s name localOnly)
  | .previousRef _ => lifting (r.previous s)
  | .ordinalRef _ cls n fromLast => lifting (r.resolveOrdinal s cls n fromLast)
  | .childRef _ group ref => do
    let id ← nodeId r localOnly s group
    let inner ← lifting (r.scopeOf id)
    nodeId r true inner ref
  | n => .error (.misfit (.notReference n.kind))

/-- The number of the object that a node means. -/
def idOfNode (v : View K) (ref : Node) : Except NodeFailure Nat :=
  placing ref.pos (nodeId v.registry false v.scope ref)

/-- The object that a node means. -/
def objectOfNode (v : View K) (ref : Node) : Except NodeFailure (Object K) := do
  let id ← v.idOfNode ref
  lifting (v.registry.object id)

/-- The point that a node means, if it is the label of a point. -/
def placeOfNode? (v : View K) : Node → Option (Point K)
  | .labelRef _ name => v.registry.resolvePlace v.scope name
  | _ => none

/-- The object that a node means as a whole, if it means one. -/
def wholeOf (v : View K) : Node → Except NodeFailure (Option Nat)
  | .objectPlace _ ref none =>
    match v.placeOfNode? ref with
    | some _ => .ok none
    | none => (v.idOfNode ref).map some
  | _ => .ok none

/-- The point that an object means, with or without an anchor. -/
def placeOfObject (v : View K) (ref : Node) : Option String → Except NodeFailure (Point K)
  | none =>
    match v.placeOfNode? ref with
    | some p => .ok p
    | none => (v.objectOfNode ref).map (·.center)
  | some word => do
    let a ← anchorNamed word
    match v.placeOfNode? ref, ref with
    | some _, .labelRef _ name => .error (.failure (.eval (.placeWithoutAnchor name a.name)))
    | _, _ => (v.objectOfNode ref).map (·.anchorPoint a)

/-- A point of the path of the object that a node means. -/
def vertexOfNode (v : View K) (n : Nat) (ref : Node) (fromLast : Bool) :
    Except NodeFailure (Point K) := do
  let o ← v.objectOfNode ref
  if !o.cls.isLine then .error (.failure (.eval (.noVertexes o.cls)))
  else
    let count := o.points.length
    let index : Int := if fromLast then (count : Int) - n + 1 else n
    match o.vertex? index with
    | some p => .ok p
    | none => .error (.failure (.eval (.vertexOutOfRange n o.cls count)))

/-- Refuses a number that is not finite, and gives mistakes the place of their node. -/
def checked (p : SourcePos) (r : Except NodeFailure K) : Except NodeFailure K :=
  placing p (r.bind fun x =>
    if Arith.isFinite x then .ok x else .error (.failure (.eval .overflow)))

mutual

/-- The number that a node means. -/
def numberOf (v : View K) : Node → Except NodeFailure K
  | .number p value unit => checked p (lifting (v.literal value unit))
  | .var p name => checked p (lifting (v.variableValue name))
  | .colorName p name => checked p (lifting (v.colorNumber name))
  | .unary p e => checked p (do
      let x ← numberOf v e
      .ok (-x))
  | .binary p op a b => checked p (do
      let x ← numberOf v a
      let y ← numberOf v b
      lifting (operate op x y))
  | .call p name args => checked p (
      match functionTable.lookup name with
      | none => .error (.misfit (.unknownFunction name))
      | some (arity, implementation) =>
        if args.length ≠ arity then .error (.failure (.eval (.arity name arity args.length)))
        else
          match implementation with
          | .ofNumbers f => do
            let xs ← numbersOf v args
            lifting (f xs)
          | .ofPoints f => do
            let ps ← pointsOf v args
            lifting (f ps))
  | .coordinate p q axis => checked p (do
      let point ← pointOf v q
      .ok (match axis with
        | .x => point.x
        | .y => point.y))
  | .property p ref what => checked p (do
      let o ← v.objectOfNode ref
      .ok (measure o what))
  | .percent p _ => checked p (.error (.failure (.eval .percentage)))
  | n => checked n.pos (.error (.misfit (.notNumber n.kind)))

/-- The numbers that some nodes mean. -/
def numbersOf (v : View K) : List Node → Except NodeFailure (List K)
  | [] => .ok []
  | e :: es => do
    let x ← numberOf v e
    let xs ← numbersOf v es
    .ok (x :: xs)

/-- The points that some nodes mean. -/
def pointsOf (v : View K) : List Node → Except NodeFailure (List (Point K))
  | [] => .ok []
  | q :: qs => do
    let x ← pointOf v q
    let xs ← pointsOf v qs
    .ok (x :: xs)

/-- The point that a node means. -/
def pointOf (v : View K) : Node → Except NodeFailure (Point K)
  | .pair p x y => placing p (do
      let x ← numberOf v x
      let y ← numberOf v y
      .ok ⟨x, y⟩)
  | .objectPlace p ref edge => placing p (v.placeOfObject ref edge)
  | .vertex p n ref fromLast => placing p (v.vertexOfNode n ref fromLast)
  | .offset p base dx dy backward => placing p (do
      let base ← pointOf v base
      let dx ← numberOf v dx
      let dy ← numberOf v dy
      let sign : K := Arith.ofInt (if backward then -1 else 1)
      .ok (base.shift (sign * dx) (sign * dy)))
  | .mix p a b => placing p (do
      let a ← pointOf v a
      let b ← pointOf v b
      .ok ⟨a.x, b.y⟩)
  | .relative p distance edge base => placing p (do
      let d ← numberOf v distance
      let base ← pointOf v base
      let side ← compassNamed edge
      let u ← lifting (liftFault (compassVector side))
      .ok (base.plus (u.scale d)))
  | .heading p distance angle base => placing p (do
      let d ← numberOf v distance
      let angle ← numberOf v angle
      let base ← pointOf v base
      let u ← lifting (liftFault (headingVector angle))
      .ok (base.plus (u.scale d)))
  | .between p none a b => placing p (do
      let a ← pointOf v a
      let b ← pointOf v b
      .ok (a.toward b (Arith.dec 5 1)))
  | .between p (some fraction) a b => placing p (do
      let f ← numberOf v fraction
      let a ← pointOf v a
      let b ← pointOf v b
      .ok (a.toward b f))
  | n => placing n.pos (.error (.misfit (.notPoint n.kind)))

end

/-- The size that a node means: a percentage is a part of the reference. -/
def sizeOf (v : View K) (n : Node) (reference : K) : Except NodeFailure K :=
  match n with
  | .percent _ value => .ok (Arith.ofDecimal value / Arith.num 100 * reference)
  | n => v.numberOf n

end View

/-! ## Values of what is written -/

@[simp] theorem ObjectRef.pos_node (ref : ObjectRef) : ref.node.pos = ref.pos := by
  cases ref with
  | previous p => rfl
  | select p s => cases s <;> rfl
  | member p group q s => rfl

theorem anchorNamed_name (a : Anchor) : anchorNamed a.name = .ok a := by
  rw [anchorNamed, a.ofName?_name]

theorem compassNamed_name (c : Compass) : compassNamed c.name = .ok c := by
  rw [compassNamed, c.ofName?_name]

/-- The functions of numbers stand in the table. -/
theorem functionTable_name (f : ScalarFunction) :
    (functionTable : List (String × Nat × Implementation K)).lookup f.name =
      some (f.arity, .ofNumbers (View.apply f)) := by
  cases f <;> rfl

/-- So does the distance. -/
theorem functionTable_distanceName :
    (functionTable : List (String × Nat × Implementation K)).lookup distanceName =
      some (2, .ofPoints distanceOf) :=
  rfl

namespace View

/-! ### References -/

section

omit [Arith K]

theorem nodeId_selector (r : Registry K) ( localOnly : Bool) (s : Nat) (p : SourcePos)
    (sel : Selector) : nodeId r localOnly s (sel.node p) = lifting (select r s localOnly sel) := by
  cases sel <;> rfl

theorem nodeId_node (r : Registry K) (s : Nat) (ref : ObjectRef) :
    nodeId r false s ref.node = lifting (follow r s ref) := by
  induction ref with
  | previous p => rfl
  | select p sel => exact nodeId_selector r false s p sel
  | member p group q sel ih =>
    rw [ObjectRef.node, nodeId, follow, ih, lifting_bind]
    refine bind_congr fun id => ?_
    rw [lifting_bind]
    exact bind_congr fun inner => nodeId_selector r true inner q sel

variable (v : View K)

theorem idOfNode_node (ref : ObjectRef) : v.idOfNode ref.node = lifting (v.objectId ref) := by
  rw [idOfNode, nodeId_node, ref.pos_node, placing_lifting, objectId]

theorem objectOfNode_node (ref : ObjectRef) :
    v.objectOfNode ref.node = lifting (v.object ref) := by
  rw [objectOfNode, idOfNode_node, object, lifting_bind]

theorem placeOfNode?_node (ref : ObjectRef) : v.placeOfNode? ref.node = v.placeOf? ref := by
  cases ref with
  | previous p => rfl
  | select p sel => cases sel <;> rfl
  | member p group q sel => rfl

theorem wholeOf_node (q : Position) : v.wholeOf q.node = lifting (v.wholeObject q) := by
  cases q with
  | object p ref anchor =>
    rw [Position.node]
    cases anchor with
    | none =>
      rw [Option.map_none, wholeOf, wholeObject, placeOfNode?_node, idOfNode_node, ← lifting_map]
      cases v.placeOf? ref <;> rfl
    | some a => rfl
  | between p fraction a b => cases fraction <;> rw [Position.node] <;> rfl
  | _ => rw [Position.node]; rfl

theorem vertexOfNode_node (n : Nat) (ref : ObjectRef) (fromLast : Bool) :
    v.vertexOfNode n ref.node fromLast = lifting (v.vertexOf n ref fromLast) := by
  rw [vertexOfNode, objectOfNode_node, vertexOf, lifting_bind]
  refine bind_congr fun o => ?_
  rw [lifting_ite]
  refine ite_congr rfl (fun _ => rfl) fun _ => ?_
  dsimp only
  cases o.vertex? (if fromLast then (o.points.length : Int) - n + 1 else n) <;> rfl

end

variable (v : View K)

theorem placeOfObject_node (ref : ObjectRef) (anchor : Option Anchor) :
    v.placeOfObject ref.node (anchor.map Anchor.name) = lifting (v.objectPlace ref anchor) := by
  cases anchor with
  | none =>
    rw [Option.map_none, placeOfObject, placeOfNode?_node, objectOfNode_node, ← lifting_map]
    unfold objectPlace
    cases v.placeOf? ref <;> rfl
  | some a =>
    rw [Option.map_some, placeOfObject, anchorNamed_name, ok_bind, placeOfNode?_node,
      objectOfNode_node, ← lifting_map]
    unfold objectPlace
    rcases ref with p | ⟨p, name | ⟨cls, n, fromLast⟩⟩ | ⟨p, group, q, sel⟩
    · rfl
    · rw [ObjectRef.node, Selector.node]
      cases v.placeOf? (.select p (.label name)) <;> rfl
    · rfl
    · rfl

/-! ### Numbers and points -/

theorem checked_lifting (p : SourcePos) (r : Except Failure K) :
    checked p (lifting r) = lifting (settle p r) := by
  cases r with
  | error e => rfl
  | ok x =>
    unfold settle checked
    rw [← placing_lifting]
    by_cases hx : Arith.isFinite x = true <;> simp [Except.bind, hx]

theorem length_of_positions {qs : List Position} {ps : List (Point K)}
    (h : v.positions qs = .ok ps) : ps.length = qs.length := by
  induction qs generalizing ps with
  | nil =>
    rw [positions] at h
    cases h
    rfl
  | cons q qs ih =>
    rw [positions] at h
    obtain ⟨p, -, h⟩ := exists_of_bind_eq_ok h
    obtain ⟨rest, hr, h⟩ := exists_of_bind_eq_ok h
    cases h
    exact congrArg (· + 1) (ih hr)

mutual

/-- What is written of an expression means the value of the expression. -/
theorem numberOf_node (e : Scalar) : v.numberOf e.node = lifting (v.scalar e) := by
  cases e with
  | number p value unit => rw [Scalar.node, numberOf, scalar, checked_lifting]
  | percent p value =>
    rw [Scalar.node, numberOf, scalar, ← checked_lifting]
    rfl
  | var p name => rw [Scalar.node, numberOf, scalar, checked_lifting]
  | color p name => rw [Scalar.node, numberOf, scalar, checked_lifting]
  | neg p e =>
    rw [Scalar.node, numberOf, scalar, numberOf_node e, ← checked_lifting, lifting_bind]
    rfl
  | binary p op a b =>
    rw [Scalar.node, numberOf, scalar, numberOf_node a, numberOf_node b, ← checked_lifting,
      lifting_bind]
    simp only [lifting_bind]
  | call p f args =>
    rw [Scalar.node, numberOf, scalar, functionTable_name, ← checked_lifting, lifting_ite,
      lifting_bind, numbersOf_nodes args, scalarNodes_eq_map, List.length_map]
    rfl
  | dist p args =>
    rw [Scalar.node, numberOf, scalar, functionTable_distanceName, ← checked_lifting, lifting_ite,
      lifting_bind, pointsOf_nodes args, positionNodes_eq_map, List.length_map]
    dsimp only
    refine congrArg _ (ite_congr rfl (fun _ => rfl) fun two => ?_)
    cases h : v.positions args with
    | error e => rfl
    | ok ps =>
      have both : ps.length = 2 := (v.length_of_positions h).trans (Decidable.not_not.1 two)
      match ps, both with
      | [a, b], _ => rfl
  | coordinate p q axis =>
    rw [Scalar.node, numberOf, scalar, pointOf_node q, ← checked_lifting, lifting_bind]
    rfl
  | property p ref what =>
    rw [Scalar.node, numberOf, scalar, objectOfNode_node, ← checked_lifting, lifting_bind]
    rfl

theorem numbersOf_nodes (es : List Scalar) :
    v.numbersOf (scalarNodes es) = lifting (v.scalars es) := by
  cases es with
  | nil => rw [scalarNodes, numbersOf, scalars, lifting_ok]
  | cons e es =>
    rw [scalarNodes, numbersOf, scalars, numberOf_node e, numbersOf_nodes es, lifting_bind]
    simp only [lifting_bind, lifting_ok]

theorem pointsOf_nodes (qs : List Position) :
    v.pointsOf (positionNodes qs) = lifting (v.positions qs) := by
  cases qs with
  | nil => rw [positionNodes, pointsOf, positions, lifting_ok]
  | cons q qs =>
    rw [positionNodes, pointsOf, positions, pointOf_node q, pointsOf_nodes qs, lifting_bind]
    simp only [lifting_bind, lifting_ok]

/-- What is written of a position means the point of the position. -/
theorem pointOf_node (q : Position) : v.pointOf q.node = lifting (v.position q) := by
  cases q with
  | pair p x y =>
    rw [Position.node, pointOf, position, numberOf_node x, numberOf_node y, ← placing_lifting]
    simp only [lifting_bind, lifting_ok]
  | object p ref anchor =>
    rw [Position.node, pointOf, position, placeOfObject_node, placing_lifting]
  | vertex p n ref fromLast =>
    rw [Position.node, pointOf, position, vertexOfNode_node, placing_lifting]
  | offset p base dx dy backward =>
    rw [Position.node, pointOf, position, pointOf_node base, numberOf_node dx, numberOf_node dy,
      ← placing_lifting]
    simp only [lifting_bind, lifting_ok]
  | mix p a b =>
    rw [Position.node, pointOf, position, pointOf_node a, pointOf_node b, ← placing_lifting]
    simp only [lifting_bind, lifting_ok]
  | relative p distance side base =>
    rw [Position.node, pointOf, position, numberOf_node distance, pointOf_node base,
      compassNamed_name, ← placing_lifting]
    simp only [lifting_bind, lifting_ok, ok_bind]
  | heading p distance angle base =>
    rw [Position.node, pointOf, position, numberOf_node distance, numberOf_node angle,
      pointOf_node base, ← placing_lifting]
    simp only [lifting_bind, lifting_ok]
  | between p fraction a b =>
    cases fraction with
    | none =>
      rw [Position.node, pointOf, position, pointOf_node a, pointOf_node b, ← placing_lifting]
      simp only [lifting_bind, lifting_ok]
    | some f =>
      rw [Position.node, pointOf, position, numberOf_node f, pointOf_node a, pointOf_node b,
        ← placing_lifting]
      simp only [lifting_bind, lifting_ok]

end

theorem sizeOf_node (e : Scalar) (reference : K) :
    v.sizeOf e.node reference = lifting (v.size e reference) := by
  cases e with
  | percent p value => rw [Scalar.node]; rfl
  | _ => exact v.numberOf_node _

end View

end DiagramScript
