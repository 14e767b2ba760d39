import DiagramScript.Proofs.ClauseEffects
import DiagramScript.Proofs.NodeValues
import DiagramScript.Proofs.RunCounts

/-!
# Runs of nodes

Statements are run by looking at what their nodes are.  What a clause does is looked up under its
name, and takes from its slots what it uses.  What is written of statements does what the statements
do, to the last object and the last message.

* `handlerTable` — what clauses do, by their names.
* `Draft.applyNode`, `executeNode`, `runNodes` — the effect of a clause, of a statement and of
  several.
* `Draft.applyNode_node`, `executeNode_node`, `runNodes_nodes` — the same as the effect of what they
  are written for.
-/

namespace DiagramScript

/-! ## Slots -/

namespace Slot

/-- The node in a slot. -/
def toNode (clause : String) : Slot → Except NodeFailure Node
  | node n => .ok n
  | _ => .error (.misfit (.wrongSlot clause))

/-- The node in a slot, if there is anything. -/
def toNode? (clause : String) : Slot → Except NodeFailure (Option Node)
  | nothing => .ok none
  | node n => .ok (some n)
  | _ => .error (.misfit (.wrongSlot clause))

/-- The word in a slot. -/
def toWord (clause : String) : Slot → Except NodeFailure String
  | word text => .ok text
  | _ => .error (.misfit (.wrongSlot clause))

/-- The line of text in a slot. -/
def toLine (clause : String) : Slot → Except NodeFailure TextLine
  | line l => .ok l
  | _ => .error (.misfit (.wrongSlot clause))

/-- The direction in a slot. -/
def toDirection (clause : String) : Slot → Except NodeFailure Direction
  | direction d => .ok d
  | _ => .error (.misfit (.wrongSlot clause))

theorem toNode?_ofOption {α : Type} (clause : String) (f : α → Node) (x : Option α) :
    (ofOption f x).toNode? clause = .ok (x.map f) := by
  cases x <;> rfl

end Slot

/-! ## Clauses -/

variable {K : Type} [Arith K]

namespace Draft

/-- Changes the path; an object without one cannot take the clause. -/
def onPathBy (d : Draft K) (f : Path K → Except NodeFailure (Path K)) :
    Except NodeFailure (Draft K) :=
  match d.path with
  | none => .error (.failure .noPath)
  | some p => do
    let p ← f p
    .ok { d with path := some p }

omit [Arith K] in
theorem onPathBy_lifting (d : Draft K) (f : Path K → Except Failure (Path K)) :
    d.onPathBy (fun p => lifting (f p)) = lifting (d.onPath f) := by
  unfold onPathBy onPath
  cases d.path with
  | none => rfl
  | some p =>
    dsimp only
    rw [lifting_bind]
    rfl

end Draft

/-- What a clause does to a draft. -/
abbrev Handler (K : Type) := Draft K → View K → ClauseNode → Except NodeFailure (Draft K)

namespace Handler

/-- A dimension. -/
def size (what : Dimension) : Handler K := fun d v c => do
  let n ← c.value.toNode c.name
  let reference ← lifting (d.usual v what)
  let x ← v.sizeOf n reference
  .ok (d.resize what x)

/-- The thickness of the outline. -/
def thickness : Handler K := fun d v c => do
  let n ← c.value.toNode c.name
  let reference ← lifting (v.builtin "thickness")
  let x ← v.sizeOf n reference
  .ok (d.modifyStyle fun s => { s with thickness := x })

/-- A single word. -/
def flag (f : Flag) : Handler K := fun d _ _ => .ok (d.setFlag f)

/-- The length of dashes or the distance of dots. -/
def gapOf (v : View K) : Option Node → Except NodeFailure K
  | some n => v.numberOf n
  | none => lifting (v.builtin "dashwid")

/-- Dots or dashes: what their length does to the style. -/
def gaps (set : K → Style K → Style K) : Handler K := fun d v c => do
  let n ← c.value.toNode? c.name
  let x ← gapOf v n
  .ok (d.modifyStyle (set x))

/-- A paint: what it does to the style. -/
def paint (set : Paint → Style K → Style K) : Handler K := fun d v c => do
  let n ← c.value.toNode c.name
  let x ← v.numberOf n
  let paint ← lifting (liftFault (Paint.ofNumber x))
  .ok (d.modifyStyle (set paint))

/-- A line of text. -/
def text : Handler K := fun d _ c => do
  let line ← c.value.toLine c.name
  .ok { d with object := { d.object with text := d.object.text ++ [line] } }

/-- The heads of an arrow. -/
def arrow : Handler K := fun d _ c => do
  let sign ← c.value.toWord c.name
  .ok (d.modifyStyle fun s =>
    { s with
      arrowStart := sign = "<-" || sign = "<->"
      arrowEnd := sign = "->" || sign = "<->" })

/-- Sizes and style of another object. -/
def same : Handler K := fun d v c => do
  let n ← c.value.toNode? c.name
  let source ←
    match n with
    | some n => v.objectOfNode n
    | none => lifting (d.sourceOf v none)
  .ok (d.copyFrom source)

/-- Where the center lies. -/
def located : Handler K := fun d v c => do
  let n ← c.value.toNode c.name
  let point ← v.pointOf n
  .ok { d with located := some point }

/-- Where an anchor lies. -/
def anchored : Handler K := fun d v c => do
  let word ← c.value.toWord c.name
  let anchor ← anchorNamed word
  let n ← c.extra.toNode c.name
  let point ← v.pointOf n
  .ok { d with located := some point, anchor := some anchor }

/-- Where the path starts. -/
def start : Handler K := fun d v c => do
  let n ← c.value.toNode c.name
  let point ← v.pointOf n
  let d ← lifting (d.onPath fun p => .ok (p.setOrigin point))
  let whole ← v.wholeOf n
  .ok { d with fromObject := whole }

/-- A point the path runs to. -/
def target : Handler K := fun d v c => do
  let n ← c.value.toNode c.name
  let point ← v.pointOf n
  let d ←
    if d.object.cls = .arc then .ok { d with arcEnd := some point }
    else lifting (d.onPath fun p => .ok (p.addTarget point))
  let whole ← v.wholeOf n
  .ok { d with toObject := whole }

/-- The next stretch. -/
def next : Handler K := fun d _ _ => lifting (d.onPath fun p =>
  match p.next? with
  | some p => .ok p
  | none => .error (.ofCause (.parse .thenWithoutSegment)))

/-- A stretch in a direction. -/
def direction : Handler K := fun d v c => do
  let dir ← c.value.toDirection c.name
  match c.extra with
  | .untilEven n => d.onPathBy fun p => do
    let point ← v.pointOf n
    .ok (p.untilEven (some dir) point)
  | extra => d.onPathBy fun p => do
    let n ← extra.toNode? c.name
    match n with
    | none => .ok (p.move dir none)
    | some n => do
      let x ← v.sizeOf n (p.unit dir)
      .ok (p.move dir (some x))

/-- A stretch in a direction given by an angle. -/
def heading : Handler K := fun d v c => d.onPathBy fun p => do
  let angle ← c.value.toNode c.name
  let degrees ← v.numberOf angle
  let n ← c.extra.toNode? c.name
  match n with
  | none => .ok (p.heading degrees none)
  | some n => do
    let x ← v.numberOf n
    .ok (p.heading degrees (some x))

/-- A stretch until level with a point. -/
def untilEven : Handler K := fun d v c => d.onPathBy fun p => do
  let n ← c.value.toNode c.name
  let point ← v.pointOf n
  .ok (p.untilEven none point)

/-- A stretch of a given length. -/
def distance : Handler K := fun d v c => d.onPathBy fun p => do
  let n ← c.value.toNode c.name
  let x ← v.sizeOf n (p.unit p.direction)
  .ok (p.extend x)

end Handler

/-- What clauses do, by their names. -/
def handlerTable : List (String × Handler K) := [
  ("width", .size .width), ("height", .size .height), ("radius", .size .radius),
  ("diameter", .size .diameter), ("thickness", .thickness),
  ("thick", .flag .thick), ("thin", .flag .thin),
  ("fill", .paint fun x s => { s with fill := x }),
  ("color", .paint fun x s => { s with color := x }),
  ("solid", .flag .solid),
  ("dotted", .gaps fun x s => { s with dotted := some x, dashed := none }),
  ("dashed", .gaps fun x s => { s with dashed := some x, dotted := none }),
  ("invisible", .flag .invisible),
  ("at", .located), ("with", .anchored), ("same", .same), ("fit", .flag .fit),
  ("text", .text), ("arrow", .arrow), ("chop", .flag .chop), ("close", .flag .close),
  ("cw", .flag .cw), ("ccw", .flag .ccw),
  ("from", .start), ("to", .target), ("then", .next), ("direction", .direction),
  ("heading", .heading), ("until", .untilEven), ("distance", .distance)]

/-- How a message refers to a clause. -/
def ClauseNode.shown (c : ClauseNode) : Except NodeFailure String :=
  if c.name = "direction" then (c.value.toDirection c.name).map Direction.name
  else if c.name = "distance" then .ok "a bare distance"
  else if c.name = "arrow" then c.value.toWord c.name
  else .ok c.name

namespace Draft

/-- The effect of a clause; the class must take it. -/
def applyNode (d : Draft K) (v : View K) (c : ClauseNode) : Except NodeFailure (Draft K) :=
  placing c.pos (
    if (acceptedClauses d.object.cls).contains c.name then
      match handlerTable.lookup c.name with
      | some handle => handle d v c
      | none => .error (.misfit (.noHandler c.name))
    else do
      let shown ← c.shown
      .error (.failure (.ofCause (.parse (.notAnAttribute shown d.object.cls.noun)))))

/-- The effect of several clauses. -/
def applyNodes (v : View K) (d : Draft K) (cs : List ClauseNode) :
    Except NodeFailure (Draft K) :=
  cs.foldlM (fun d c => d.applyNode v c) d

end Draft

/-! ## Statements -/

/-- Whether a tree can be run, and the drawing after it. -/
abbrev NodeOutcome (K : Type) := Except NodeFailure Unit × Drawing K

/-- An outcome that fails only as a script does. -/
def Outcome.lifted (o : Outcome K) : NodeOutcome K := (lifting o.1, o.2)

/-- Fills in the place of the mistake that a statement fails with. -/
def NodeOutcome.locate (o : NodeOutcome K) (p : SourcePos) : NodeOutcome K := (placing p o.1, o.2)

/-- The drawing after a statement, and whatever comes next unless the statement fails. -/
def NodeOutcome.andThen (o : NodeOutcome K) (next : Drawing K → NodeOutcome K) : NodeOutcome K :=
  match o.1 with
  | .ok () => next o.2
  | .error e => (.error e, o.2)

namespace Drawing

/-- The drawing that a computation leads to, or the old one if it fails. -/
def attemptBy (d : Drawing K) (r : Except NodeFailure (Drawing K)) : NodeOutcome K :=
  match r with
  | .ok next => (.ok (), next)
  | .error e => (.error e, d)

/-- The object that a declaration asks for, with its place. -/
def draftOf (d : Drawing K) (t : Resources K) (id : Nat) (cls : ObjectClass)
    (cs : List ClauseNode) : Except NodeFailure (Draft K × Option Direction) := do
  let plain ← lifting (Draft.begin (d.view t) id cls d.cursor.direction)
  let full ← plain.applyNodes (d.view t) cs
  lifting (full.place (d.setting t))

/-- Declares an object. -/
def declareBy (d : Drawing K) (t : Resources K) (cls : ObjectClass) (label : Option String)
    (cs : List ClauseNode) : NodeOutcome K :=
  let (id, d) := d.create cls
  match d.draftOf t id cls cs with
  | .error e => (.error e, d)
  | .ok (draft, exit) => ((d.store draft).finish draft exit label).lifted

/-- The group around the objects of a scope, before and after it is placed. -/
def groupDraftOf (d : Drawing K) (t : Resources K) (id inner : Nat) (origin : Point K)
    (cs : List ClauseNode) : Except NodeFailure (Draft K × Draft K) := do
  let plain ← lifting (Draft.begin (d.view t) id .container d.cursor.direction)
  let enclosing := enclose plain origin (scopeBox d.registry inner)
  let full ← enclosing.applyNodes (d.view t) cs
  let placed ← lifting (full.placeFramed (d.setting t))
  .ok (full, placed)

/-- Makes a group of the objects of a scope. -/
def groupBy (d : Drawing K) (t : Resources K) (inner : Nat) (origin : Point K)
    (label : Option String) (cs : List ClauseNode) : NodeOutcome K :=
  let (id, created) := d.create .container
  match created.groupDraftOf t id inner origin cs with
  | .error e => (.error e, created)
  | .ok (full, placed) => ((d.assemble inner full placed).finish placed none label).lifted

/-- Sets a variable. -/
def assignBy (d : Drawing K) (t : Resources K) (name : String) (op : AssignOp) (n : Node) :
    Except NodeFailure (Drawing K) := do
  let value ← (d.view t).numberOf n
  let result ← lifting (assigned (d.view t) name op value)
  .ok { d with registry := d.registry.setVariable d.scope name result }

/-- The text of something to print. -/
def textOf (v : View K) : String ⊕ Node → Except NodeFailure String
  | .inl s => .ok s
  | .inr n => do
    let x ← v.numberOf n
    lifting (numberText x)

/-- Prints a message. -/
def printBy (d : Drawing K) (t : Resources K) (args : List (String ⊕ Node)) :
    Except NodeFailure (Drawing K) := do
  let texts ← args.mapM (textOf (d.view t))
  .ok { d with messages := d.messages ++ [" ".intercalate texts] }

/-- Refuses two points, or else two numbers, that are not nearly equal. -/
def assertBy (d : Drawing K) (t : Resources K) (left right : Node) (positional : Bool) :
    Except NodeFailure (Drawing K) :=
  if positional then do
    let a ← (d.view t).pointOf left
    let b ← (d.view t).pointOf right
    let shownA ← lifting (pointText a)
    let shownB ← lifting (pointText b)
    if nearlyEqual a.x b.x && nearlyEqual a.y b.y then .ok d
    else .error (.failure (.eval (.assertionFailed shownA shownB)))
  else do
    let a ← (d.view t).numberOf left
    let b ← (d.view t).numberOf right
    let shownA ← lifting (numberText a)
    let shownB ← lifting (numberText b)
    if nearlyEqual a b then .ok d
    else .error (.failure (.eval (.assertionFailed shownA shownB)))

/-- Gives a label to a point. -/
def bindPlaceBy (d : Drawing K) (t : Resources K) (label : String) (n : Node) :
    Except NodeFailure (Drawing K) := do
  let p ← (d.view t).pointOf n
  let r ← lifting (d.registry.bindPlace d.scope label (p.stamp ⟨d.serial, none, 0⟩))
  .ok { d with registry := r, serial := d.serial + 1 }

end Drawing

mutual

/-- The effect of a statement. -/
def executeNode (t : Resources K) (d : Drawing K) : StatementNode → NodeOutcome K
  | .object p cls label cs => (d.declareBy t cls label cs).locate p
  | .group p body label cs =>
    match stackingStart (d.setting t) true with
    | .error e => NodeOutcome.locate (.error (.failure e), d) p
    | .ok origin =>
      let entered := d.enter origin
      let inside := runNodes t entered body
      NodeOutcome.locate (NodeOutcome.andThen (inside.1, inside.2.leave d)
        fun after => after.groupBy t entered.scope origin label cs) p
  | .assign p name op n => (d.attemptBy (d.assignBy t name op n)).locate p
  | .direction _ dir => (.ok (), { d with cursor := { d.cursor with direction := dir } })
  | .print p args => (d.attemptBy (d.printBy t args)).locate p
  | .assert p left right positional => (d.attemptBy (d.assertBy t left right positional)).locate p
  | .place p label n => (d.attemptBy (d.bindPlaceBy t label n)).locate p

/-- The effect of several statements, up to the first that fails. -/
def runNodes (t : Resources K) (d : Drawing K) : List StatementNode → NodeOutcome K
  | [] => (.ok (), d)
  | s :: rest =>
    let first := executeNode t d s
    match first.1 with
    | .ok () => runNodes t first.2 rest
    | .error e => (.error e, first.2)

end

/-- A tree of no script: a point where a number is used. -/
example (t : Resources K) (d : Drawing K) (p q : SourcePos) (x y : Node) :
    (runNodes t d [.assign p "x" .set (.pair q x y)]).1 = .error (.misfit (.notNumber "Pair")) :=
  rfl

/-! ## The effect of what is written -/

theorem Clause.shown_node (a : Attribute) : a.node.shown = .ok a.clause.shown := by
  obtain ⟨p, clause⟩ := a
  cases clause with
  | size what value => cases what <;> rfl
  | flag f => cases f <;> rfl
  | _ => rfl

namespace Handler

variable (v : View K) (d : Draft K) (p : SourcePos)

/-- Whether a handler does to a draft what a clause does. -/
def Serves (handle : Handler K) (c : Clause) : Prop :=
  ∀ (v : View K) (d : Draft K) (p : SourcePos),
    handle d v (Attribute.node ⟨p, c⟩) = lifting (d.applyClause v c)

theorem size_serves (what : Dimension) (value : Scalar) :
    (size what : Handler K).Serves (.size what value) := fun v d p => by
  change (do
    let reference ← lifting (d.usual v what)
    let x ← v.sizeOf value.node reference
    .ok (d.resize what x)) = lifting (d.setDimension v what value)
  rw [Draft.setDimension_eq]
  simp only [View.sizeOf_node, lifting_bind, lifting_ok]

theorem thickness_serves (value : Scalar) :
    (thickness : Handler K).Serves (.thickness value) := fun v d p => by
  change (do
    let reference ← lifting (v.builtin "thickness")
    let x ← v.sizeOf value.node reference
    .ok (d.modifyStyle fun s => { s with thickness := x })) = _
  unfold Draft.applyClause
  simp only [View.sizeOf_node, lifting_bind, lifting_ok]

theorem gapOf_map (gap : Option Scalar) :
    gapOf v (gap.map Scalar.node) = lifting (Draft.dashLength v gap) := by
  cases gap with
  | none => rfl
  | some e => exact v.numberOf_node e

theorem gaps_eq (set : K → Style K → Style K) (name : String) (gap : Option Scalar) :
    gaps set d v ⟨p, name, .ofOption Scalar.node gap, .nothing⟩ = lifting (do
      let x ← Draft.dashLength v gap
      .ok (d.modifyStyle (set x))) := by
  unfold gaps
  simp only [Slot.toNode?_ofOption, ok_bind, gapOf_map, lifting_bind, lifting_ok]

theorem paint_eq (set : Paint → Style K → Style K) (name : String) (value : Scalar) :
    paint set d v ⟨p, name, .node value.node, .nothing⟩ = lifting (do
      let x ← v.scalar value
      let paint ← liftFault (Paint.ofNumber x)
      .ok (d.modifyStyle (set paint))) := by
  unfold paint
  simp only [Slot.toNode, ok_bind, View.numberOf_node, lifting_bind, lifting_ok]

theorem arrow_serves (heads : ArrowHeads) :
    (arrow : Handler K).Serves (.arrow heads) := fun v d p => by
  cases heads <;> rfl

theorem same_serves (source : Option ObjectRef) :
    (same : Handler K).Serves (.same source) := fun v d p => by
  unfold same Draft.applyClause
  simp only [Attribute.node, Clause.slots, Slot.toNode?_ofOption, ok_bind, lifting_bind, lifting_ok]
  cases source with
  | none => rfl
  | some ref =>
    rw [Option.map_some]
    dsimp only
    rw [View.objectOfNode_node]
    rfl

theorem located_serves (q : Position) :
    (located : Handler K).Serves (.located q) := fun v d p => by
  unfold located Draft.applyClause
  simp only [Attribute.node, Clause.slots, Slot.toNode, ok_bind, View.pointOf_node, lifting_bind,
    lifting_ok]

theorem anchored_serves (anchor : Anchor) (q : Position) :
    (anchored : Handler K).Serves (.anchored anchor q) := fun v d p => by
  unfold anchored Draft.applyClause
  simp only [Attribute.node, Clause.slots, Slot.toNode, Slot.toWord, ok_bind, anchorNamed_name,
    View.pointOf_node, lifting_bind, lifting_ok]

theorem start_serves (q : Position) : (start : Handler K).Serves (.start q) := fun v d p => by
  unfold start Draft.applyClause Draft.setStart
  simp only [Attribute.node, Clause.slots, Slot.toNode, ok_bind, View.pointOf_node,
    View.wholeOf_node, lifting_bind, lifting_ok]

theorem target_serves (q : Position) : (target : Handler K).Serves (.target q) := fun v d p => by
  unfold target Draft.applyClause Draft.setTarget
  simp only [Attribute.node, Clause.slots, Slot.toNode, ok_bind, View.pointOf_node,
    View.wholeOf_node, lifting_bind, lifting_ok, lifting_ite]

theorem direction_serves (dir : Direction) (length : Option Scalar) :
    (direction : Handler K).Serves (.direction dir length) := fun v d p => by
  cases length with
  | none =>
    unfold direction Draft.applyClause
    rw [← Draft.onPathBy_lifting]
    rfl
  | some e =>
    unfold direction Draft.applyClause
    rw [← Draft.onPathBy_lifting]
    simp only [Attribute.node, Clause.slots, Slot.ofOption, Option.elim_some, Slot.toNode?,
      Slot.toDirection, ok_bind, Draft.stretch, View.sizeOf_node, lifting_bind, lifting_ok]

theorem directionUntil_serves (dir : Direction) (q : Position) :
    (direction : Handler K).Serves (.directionUntil dir q) := fun v d p => by
  unfold direction Draft.applyClause
  rw [← Draft.onPathBy_lifting]
  simp only [Attribute.node, Clause.slots, Slot.toDirection, ok_bind, View.pointOf_node,
    lifting_bind, lifting_ok]

theorem heading_serves (angle : Scalar) (length : Option Scalar) :
    (heading : Handler K).Serves (.heading angle length) := fun v d p => by
  cases length with
  | none =>
    unfold heading Draft.applyClause
    rw [← Draft.onPathBy_lifting]
    simp only [Attribute.node, Clause.slots, Slot.ofOption, Option.elim_none, Slot.toNode?,
      Slot.toNode, ok_bind, View.numberOf_node, lifting_bind, lifting_ok]
  | some e =>
    unfold heading Draft.applyClause
    rw [← Draft.onPathBy_lifting]
    simp only [Attribute.node, Clause.slots, Slot.ofOption, Option.elim_some, Slot.toNode?,
      Slot.toNode, ok_bind, View.numberOf_node, lifting_bind, lifting_ok]

theorem untilEven_serves (q : Position) :
    (untilEven : Handler K).Serves (.untilEven q) := fun v d p => by
  unfold untilEven Draft.applyClause
  rw [← Draft.onPathBy_lifting]
  simp only [Attribute.node, Clause.slots, Slot.toNode, ok_bind, View.pointOf_node, lifting_bind,
    lifting_ok]

theorem distance_serves (value : Scalar) :
    (distance : Handler K).Serves (.distance value) := fun v d p => by
  unfold distance Draft.applyClause
  rw [← Draft.onPathBy_lifting]
  simp only [Attribute.node, Clause.slots, Slot.toNode, ok_bind, Draft.stretch, View.sizeOf_node,
    lifting_bind, lifting_ok]

/-- There is a handler for every clause under its word. -/
theorem exists_serves (c : Clause) : ∃ handle : Handler K,
    handlerTable.lookup c.keyword = some handle ∧ handle.Serves c := by
  cases c with
  | text line => exact ⟨_, rfl, fun _ _ _ => rfl⟩
  | arrow heads => exact ⟨_, rfl, arrow_serves heads⟩
  | size what value => cases what <;> exact ⟨_, rfl, size_serves _ value⟩
  | thickness value => exact ⟨_, rfl, thickness_serves value⟩
  | flag f => cases f <;> exact ⟨_, rfl, fun _ _ _ => rfl⟩
  | dotted gap => exact ⟨_, rfl, fun v d p => gaps_eq v d p _ _ gap⟩
  | dashed gap => exact ⟨_, rfl, fun v d p => gaps_eq v d p _ _ gap⟩
  | fill value => exact ⟨_, rfl, fun v d p => paint_eq v d p _ _ value⟩
  | color value => exact ⟨_, rfl, fun v d p => paint_eq v d p _ _ value⟩
  | same source => exact ⟨_, rfl, same_serves source⟩
  | located q => exact ⟨_, rfl, located_serves q⟩
  | anchored anchor q => exact ⟨_, rfl, anchored_serves anchor q⟩
  | start q => exact ⟨_, rfl, start_serves q⟩
  | target q => exact ⟨_, rfl, target_serves q⟩
  | next => exact ⟨_, rfl, fun _ _ _ => rfl⟩
  | direction dir length => exact ⟨_, rfl, direction_serves dir length⟩
  | directionUntil dir q => exact ⟨_, rfl, directionUntil_serves dir q⟩
  | heading angle length => exact ⟨_, rfl, heading_serves angle length⟩
  | untilEven q => exact ⟨_, rfl, untilEven_serves q⟩
  | distance value => exact ⟨_, rfl, distance_serves value⟩

end Handler

namespace Draft

/-- What is written of a clause does what the clause does. -/
theorem applyNode_node (d : Draft K) (v : View K) (a : Attribute) :
    d.applyNode v a.node = lifting (d.apply v a) := by
  obtain ⟨handle, found, serves⟩ := Handler.exists_serves (K := K) a.clause
  rw [applyNode, apply, ← placing_lifting, lifting_ite, Clause.shown_node,
    show a.node.name = a.clause.keyword from rfl, found]
  exact congrArg (placing a.pos) (ite_congr rfl (fun _ => serves v d a.pos) fun _ => rfl)

theorem applyNodes_nodes (v : View K) (d : Draft K) (as : List Attribute) :
    d.applyNodes v (as.map Attribute.node) = lifting (d.applyAll v as) := by
  induction as generalizing d with
  | nil => rfl
  | cons a as ih =>
    rw [applyNodes, applyAll, List.map_cons, List.foldlM_cons, List.foldlM_cons, applyNode_node,
      lifting_bind]
    exact bind_congr fun d => ih d

end Draft

namespace Outcome

omit [Arith K]

theorem locate_lifted (o : Outcome K) (p : SourcePos) :
    NodeOutcome.locate o.lifted p = (o.locate p).lifted :=
  Prod.ext (placing_lifting p o.1) rfl

theorem andThen_lifted (o : Outcome K) {next : Drawing K → Outcome K}
    {next' : Drawing K → NodeOutcome K} (h : ∀ d, next' d = (next d).lifted) :
    NodeOutcome.andThen o.lifted next' = (o.andThen next).lifted := by
  obtain ⟨r, d⟩ := o
  cases r with
  | ok u => exact h d
  | error e => rfl

end Outcome

namespace Drawing

variable (d : Drawing K) (t : Resources K)

omit [Arith K] in
theorem attemptBy_lifting (r : Except Failure (Drawing K)) :
    d.attemptBy (lifting r) = (d.attempt r).lifted := by
  cases r <;> rfl

theorem declareBy_nodes (cls : ObjectClass) (label : Option String) (as : List Attribute) :
    d.declareBy t cls label (as.map Attribute.node) = (d.declare t cls label as).lifted := by
  have drafts : ∀ e : Drawing K, ∀ id, e.draftOf t id cls (as.map Attribute.node) =
      lifting (e.draft t id cls as) := fun e id => by
    unfold draftOf draft
    simp only [Draft.applyNodes_nodes, lifting_bind]
  unfold declareBy declare
  dsimp only
  rw [drafts]
  cases (d.create cls).2.draft t (d.create cls).1 cls as <;> rfl

theorem groupBy_nodes (inner : Nat) (origin : Point K) (label : Option String)
    (as : List Attribute) : d.groupBy t inner origin label (as.map Attribute.node) =
      (d.group t inner origin label as).lifted := by
  have drafts : ∀ e : Drawing K, ∀ id, e.groupDraftOf t id inner origin (as.map Attribute.node) =
      lifting (e.groupDraft t id inner origin as) := fun e id => by
    unfold groupDraftOf groupDraft
    simp only [Draft.applyNodes_nodes, lifting_bind, lifting_ok]
  unfold groupBy group
  dsimp only
  rw [drafts]
  cases (d.create .container).2.groupDraft t (d.create .container).1 inner origin as <;> rfl

theorem assignBy_node (name : String) (op : AssignOp) (e : Scalar) :
    d.assignBy t name op e.node = lifting (d.assign t name op e) := by
  unfold assignBy assign
  simp only [View.numberOf_node, lifting_bind, lifting_ok]

theorem printBy_nodes (items : List PrintItem) :
    d.printBy t (items.map PrintItem.node) = lifting (d.print t items) := by
  have item : ∀ i : PrintItem, textOf (d.view t) i.node = lifting (itemText (d.view t) i) :=
    fun i => by
      cases i with
      | text s => rfl
      | value e =>
        unfold PrintItem.node textOf itemText
        simp only [View.numberOf_node, lifting_bind]
  have all : (items.map PrintItem.node).mapM (textOf (d.view t)) =
      lifting (items.mapM (itemText (d.view t))) := by
    induction items with
    | nil => rfl
    | cons i items ih =>
      rw [List.map_cons, List.mapM_cons, List.mapM_cons, item, ih]
      simp only [lifting_bind]
      rfl
  unfold printBy print
  rw [all, lifting_bind]
  rfl

theorem assertBy_scalars (left right : Scalar) :
    d.assertBy t left.node right.node false = lifting (d.assertScalars t left right) := by
  unfold assertBy assertScalars
  simp only [View.numberOf_node, lifting_bind, lifting_ok, lifting_ite, lifting_error]
  rfl

theorem assertBy_positions (left right : Position) :
    d.assertBy t left.node right.node true = lifting (d.assertPositions t left right) := by
  unfold assertBy assertPositions
  simp only [View.pointOf_node, lifting_bind, lifting_ok, lifting_ite, lifting_error]
  rfl

theorem bindPlaceBy_node (label : String) (q : Position) :
    d.bindPlaceBy t label q.node = lifting (d.bindPlace t label q) := by
  unfold bindPlaceBy bindPlace
  simp only [View.pointOf_node, lifting_bind, lifting_ok]

end Drawing

variable (t : Resources K)

mutual

/-- What is written of a statement does what the statement does. -/
theorem executeNode_node (d : Drawing K) (s : Statement) :
    executeNode t d s.node = (execute t d s).lifted := by
  cases s with
  | object p cls label attributes =>
    rw [Statement.node, executeNode, execute, d.declareBy_nodes, Outcome.locate_lifted]
  | group p body label attributes =>
    rw [Statement.node, executeNode, execute]
    cases stackingStart (d.setting t) true with
    | error e => exact Outcome.locate_lifted (.error e, d) p
    | ok origin =>
      dsimp only
      rw [runNodes_nodes (d.enter origin) body]
      exact (congrArg (NodeOutcome.locate · p) (Outcome.andThen_lifted
        ((run t (d.enter origin) body).1, (run t (d.enter origin) body).2.leave d)
        fun after => after.groupBy_nodes t _ origin label attributes)).trans
          (Outcome.locate_lifted _ p)
  | assign p name op value =>
    rw [Statement.node, executeNode, execute, d.assignBy_node, d.attemptBy_lifting,
      Outcome.locate_lifted]
  | direction p dir =>
    rw [Statement.node, executeNode, execute]
    rfl
  | print p items =>
    rw [Statement.node, executeNode, execute, d.printBy_nodes, d.attemptBy_lifting,
      Outcome.locate_lifted]
  | assertScalars p left right =>
    rw [Statement.node, executeNode, execute, d.assertBy_scalars, d.attemptBy_lifting,
      Outcome.locate_lifted]
  | assertPositions p left right =>
    rw [Statement.node, executeNode, execute, d.assertBy_positions, d.attemptBy_lifting,
      Outcome.locate_lifted]
  | place p label q =>
    rw [Statement.node, executeNode, execute, d.bindPlaceBy_node, d.attemptBy_lifting,
      Outcome.locate_lifted]

/-- What is written of some statements does what the statements do. -/
theorem runNodes_nodes (d : Drawing K) (ss : List Statement) :
    runNodes t d (statementNodes ss) = (run t d ss).lifted := by
  cases ss with
  | nil =>
    rw [statementNodes, runNodes, run]
    rfl
  | cons s ss =>
    rw [statementNodes, runNodes, run, executeNode_node d s]
    dsimp only [Outcome.lifted]
    cases (execute t d s).1 with
    | error e => rfl
    | ok u => exact runNodes_nodes _ ss

end

end DiagramScript
