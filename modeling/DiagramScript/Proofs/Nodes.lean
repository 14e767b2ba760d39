import DiagramScript.Diagram
import DiagramScript.Proofs.Writing

/-!
# Statements as trees of nodes

What a script says, with all kinds of nodes in one type: wherever a node stands, any other could
stand as well.  What a run looks up in a table is a word: the name of a function, of a clause or of
an anchor.  Nothing about a tree by itself says that it can be run.

* `Node`, `ClauseNode`, `StatementNode` — the trees.
* `Scalar.node`, `Position.node`, `ObjectRef.node`, `Attribute.node`, `Statement.node` — what is
  written of expressions, positions, references, clauses and statements.
* `StatementNode.ofSource` — the trees of a script.
* `Node.isNumber`, `Node.isPoint`, `Node.isReference`, `ClauseNode.fits`, `StatementNode.fits` —
  whether every part of a tree is of the kind that is used there.
* `statementsFit_nodes` — the trees of a script are like this.
-/

namespace DiagramScript

/-! ## Nodes -/

/-- A node of an expression, of a position or of a reference. -/
inductive Node where
  /-- A literal, perhaps with a unit. -/
  | number (pos : SourcePos) (value : Decimal) (unit : Option LengthUnit)
  /-- A percentage. -/
  | percent (pos : SourcePos) (value : Decimal)
  /-- A variable. -/
  | var (pos : SourcePos) (name : String)
  /-- The number of a colour. -/
  | colorName (pos : SourcePos) (name : String)
  /-- A change of sign. -/
  | unary (pos : SourcePos) (operand : Node)
  /-- An operation. -/
  | binary (pos : SourcePos) (op : BinaryOp) (left right : Node)
  /-- A function. -/
  | call (pos : SourcePos) (name : String) (args : List Node)
  /-- A coordinate. -/
  | coordinate (pos : SourcePos) (position : Node) (axis : Axis)
  /-- A measure of an object. -/
  | property (pos : SourcePos) (ref : Node) (property : Property)
  /-- An object by its label. -/
  | labelRef (pos : SourcePos) (name : String)
  /-- An object by its place in its class. -/
  | ordinalRef (pos : SourcePos) (cls : ObjectClass) (n : Nat) (fromLast : Bool)
  /-- The latest object. -/
  | previousRef (pos : SourcePos)
  /-- A member of a group. -/
  | childRef (pos : SourcePos) (group ref : Node)
  /-- A point by its coordinates. -/
  | pair (pos : SourcePos) (x y : Node)
  /-- The middle or an anchor of an object, or a place with a label. -/
  | objectPlace (pos : SourcePos) (ref : Node) (edge : Option String)
  /-- A point of a path. -/
  | vertex (pos : SourcePos) (n : Nat) (ref : Node) (fromLast : Bool)
  /-- A point moved by a vector. -/
  | offset (pos : SourcePos) (base dx dy : Node) (backward : Bool)
  /-- One coordinate of each of two points. -/
  | mix (pos : SourcePos) (xSource ySource : Node)
  /-- A point at a distance toward a point of the compass. -/
  | relative (pos : SourcePos) (distance : Node) (edge : String) (base : Node)
  /-- A point at a distance in a direction. -/
  | heading (pos : SourcePos) (distance angle base : Node)
  /-- A point between two others. -/
  | between (pos : SourcePos) (fraction : Option Node) (a b : Node)

namespace Node

/-- The place of a node. -/
def pos : Node → SourcePos
  | number p .. => p
  | percent p _ => p
  | var p _ => p
  | colorName p _ => p
  | unary p _ => p
  | binary p .. => p
  | call p .. => p
  | coordinate p .. => p
  | property p .. => p
  | labelRef p _ => p
  | ordinalRef p .. => p
  | previousRef p => p
  | childRef p .. => p
  | pair p .. => p
  | objectPlace p .. => p
  | vertex p .. => p
  | offset p .. => p
  | mix p .. => p
  | relative p .. => p
  | heading p .. => p
  | between p .. => p

/-- What a message calls a node. -/
def kind : Node → String
  | number .. => "Number"
  | percent .. => "Percent"
  | var .. => "Variable"
  | colorName .. => "ColorName"
  | unary .. => "Unary"
  | binary .. => "Binary"
  | call .. => "Call"
  | coordinate .. => "Coordinate"
  | property .. => "Property"
  | labelRef .. => "LabelRef"
  | ordinalRef .. => "OrdinalRef"
  | previousRef .. => "PreviousRef"
  | childRef .. => "ChildRef"
  | pair .. => "Pair"
  | objectPlace .. => "ObjectPlace"
  | vertex .. => "Vertex"
  | offset .. => "Offset"
  | mix .. => "Mix"
  | relative .. => "Relative"
  | heading .. => "Heading"
  | between .. => "Between"

end Node

/-- What a clause says after its name, in one of two slots. -/
inductive Slot where
  /-- Nothing. -/
  | nothing
  /-- A node. -/
  | node (n : Node)
  /-- The name of an anchor, or an arrow sign. -/
  | word (text : String)
  /-- A line of text. -/
  | line (line : TextLine)
  /-- A direction. -/
  | direction (direction : Direction)
  /-- A node behind the word `until`. -/
  | untilEven (n : Node)

/-- A clause, by its name. -/
structure ClauseNode where
  /-- The place of its first word. -/
  pos : SourcePos
  /-- The word that names it. -/
  name : String
  /-- The first slot. -/
  value : Slot := .nothing
  /-- The second slot. -/
  extra : Slot := .nothing

/-- One instruction of a script. -/
inductive StatementNode where
  /-- Declares an object. -/
  | object (pos : SourcePos) (cls : ObjectClass) (label : Option String)
    (attributes : List ClauseNode)
  /-- Declares a group. -/
  | group (pos : SourcePos) (body : List StatementNode) (label : Option String)
    (attributes : List ClauseNode)
  /-- Sets a variable. -/
  | assign (pos : SourcePos) (name : String) (op : AssignOp) (expr : Node)
  /-- Sets the direction of travel. -/
  | direction (pos : SourcePos) (direction : Direction)
  /-- Prints texts and numbers. -/
  | print (pos : SourcePos) (args : List (String ⊕ Node))
  /-- Asserts that two numbers or two points are nearly equal. -/
  | assert (pos : SourcePos) (left right : Node) (positional : Bool)
  /-- Gives a label to a point. -/
  | place (pos : SourcePos) (label : String) (position : Node)

/-! ## The trees of a script -/

/-- The node of a selector. -/
def Selector.node (pos : SourcePos) : Selector → Node
  | label name => .labelRef pos name
  | ordinal cls n fromLast => .ordinalRef pos cls n fromLast

/-- The node of a reference. -/
def ObjectRef.node : ObjectRef → Node
  | previous p => .previousRef p
  | select p s => s.node p
  | member p group q s => .childRef p group.node (s.node q)

mutual

/-- The node of an expression. -/
def Scalar.node : Scalar → Node
  | .number p value unit => .number p value unit
  | .percent p value => .percent p value
  | .var p name => .var p name
  | .color p name => .colorName p name
  | .neg p e => .unary p (Scalar.node e)
  | .binary p op a b => .binary p op (Scalar.node a) (Scalar.node b)
  | .call p f args => .call p f.name (scalarNodes args)
  | .dist p args => .call p distanceName (positionNodes args)
  | .coordinate p q axis => .coordinate p (Position.node q) axis
  | .property p ref what => .property p ref.node what

/-- The nodes of some expressions. -/
def scalarNodes : List Scalar → List Node
  | [] => []
  | e :: es => Scalar.node e :: scalarNodes es

/-- The nodes of some positions. -/
def positionNodes : List Position → List Node
  | [] => []
  | q :: qs => Position.node q :: positionNodes qs

/-- The node of a position. -/
def Position.node : Position → Node
  | .pair p x y => .pair p (Scalar.node x) (Scalar.node y)
  | .object p ref anchor => .objectPlace p ref.node (anchor.map Anchor.name)
  | .vertex p n ref fromLast => .vertex p n ref.node fromLast
  | .offset p base dx dy backward =>
    .offset p (Position.node base) (Scalar.node dx) (Scalar.node dy) backward
  | .mix p a b => .mix p (Position.node a) (Position.node b)
  | .relative p distance side base =>
    .relative p (Scalar.node distance) side.name (Position.node base)
  | .heading p distance angle base =>
    .heading p (Scalar.node distance) (Scalar.node angle) (Position.node base)
  | .between p none a b => .between p none (Position.node a) (Position.node b)
  | .between p (some fraction) a b =>
    .between p (some (Scalar.node fraction)) (Position.node a) (Position.node b)

end

theorem scalarNodes_eq_map (es : List Scalar) : scalarNodes es = es.map Scalar.node := by
  induction es with
  | nil => rw [scalarNodes, List.map_nil]
  | cons e es ih => rw [scalarNodes, ih, List.map_cons]

theorem positionNodes_eq_map (qs : List Position) : positionNodes qs = qs.map Position.node := by
  induction qs with
  | nil => rw [positionNodes, List.map_nil]
  | cons q qs ih => rw [positionNodes, ih, List.map_cons]

/-- A slot for a node that need not be there. -/
def Slot.ofOption {α : Type} (node : α → Node) (x : Option α) : Slot :=
  x.elim .nothing fun x => .node (node x)

/-- The slots of a clause. -/
def Clause.slots : Clause → Slot × Slot
  | text line => (.line line, .nothing)
  | arrow heads => (.word heads.sign, .nothing)
  | size _ value => (.node value.node, .nothing)
  | thickness value => (.node value.node, .nothing)
  | flag _ => (.nothing, .nothing)
  | dotted gap => (.ofOption Scalar.node gap, .nothing)
  | dashed length => (.ofOption Scalar.node length, .nothing)
  | fill value => (.node value.node, .nothing)
  | color value => (.node value.node, .nothing)
  | same source => (.ofOption ObjectRef.node source, .nothing)
  | located q => (.node q.node, .nothing)
  | anchored anchor q => (.word anchor.name, .node q.node)
  | start q => (.node q.node, .nothing)
  | target q => (.node q.node, .nothing)
  | next => (.nothing, .nothing)
  | direction dir length => (.direction dir, .ofOption Scalar.node length)
  | directionUntil dir q => (.direction dir, .untilEven q.node)
  | heading angle length => (.node angle.node, .ofOption Scalar.node length)
  | untilEven q => (.node q.node, .nothing)
  | distance value => (.node value.node, .nothing)

/-- The node of a clause. -/
def Attribute.node (a : Attribute) : ClauseNode :=
  ⟨a.pos, a.clause.keyword, a.clause.slots.1, a.clause.slots.2⟩

/-- What is written of something to print. -/
def PrintItem.node : PrintItem → String ⊕ Node
  | text s => .inl s
  | value e => .inr e.node

mutual

/-- The node of a statement. -/
def Statement.node : Statement → StatementNode
  | .object p cls label attributes => .object p cls label (attributes.map Attribute.node)
  | .group p body label attributes =>
    .group p (statementNodes body) label (attributes.map Attribute.node)
  | .assign p name op value => .assign p name op value.node
  | .direction p dir => .direction p dir
  | .print p items => .print p (items.map PrintItem.node)
  | .assertScalars p left right => .assert p left.node right.node false
  | .assertPositions p left right => .assert p left.node right.node true
  | .place p label q => .place p label q.node

/-- The nodes of some statements. -/
def statementNodes : List Statement → List StatementNode
  | [] => []
  | s :: ss => Statement.node s :: statementNodes ss

end

/-- The trees of the statements of a script, if it can be read. -/
def StatementNode.ofSource (colors : ColorTable) (source : String) :
    Except Failure (List StatementNode) :=
  (Program.ofSource colors source).map statementNodes

/-! ## Nodes where they belong -/

namespace Node

/-- Whether a node picks an object of a scope. -/
def isSelector : Node → Bool
  | .labelRef .. => true
  | .ordinalRef .. => true
  | _ => false

/-- Whether a node is a reference, and so on in its parts. -/
def isReference : Node → Bool
  | .previousRef _ => true
  | .childRef _ group ref => isReference group && ref.isSelector
  | n => n.isSelector

mutual

/-- Whether a node is a number, and all its parts are of the kind that is used there.  The arguments
of a function are numbers, but those of the distance are points. -/
def isNumber : Node → Bool
  | .number .. => true
  | .percent .. => true
  | .var .. => true
  | .colorName .. => true
  | .unary _ e => isNumber e
  | .binary _ _ a b => isNumber a && isNumber b
  | .call _ name args =>
    if name = distanceName then arePoints args else isFunctionName name && areNumbers args
  | .coordinate _ q _ => isPoint q
  | .property _ ref _ => ref.isReference
  | _ => false

/-- The same for some nodes. -/
def areNumbers : List Node → Bool
  | [] => true
  | e :: es => isNumber e && areNumbers es

/-- Whether some nodes are points, and so on. -/
def arePoints : List Node → Bool
  | [] => true
  | q :: qs => isPoint q && arePoints qs

/-- Whether a node is a point, and all its parts are of the kind that is used there. -/
def isPoint : Node → Bool
  | .pair _ x y => isNumber x && isNumber y
  | .objectPlace _ ref edge => ref.isReference && edge.all fun word => (Anchor.ofName? word).isSome
  | .vertex _ _ ref _ => ref.isReference
  | .offset _ base dx dy _ => isPoint base && isNumber dx && isNumber dy
  | .mix _ a b => isPoint a && isPoint b
  | .relative _ distance edge base =>
    isNumber distance && (Compass.ofName? edge).isSome && isPoint base
  | .heading _ distance angle base => isNumber distance && isNumber angle && isPoint base
  | .between _ none a b => isPoint a && isPoint b
  | .between _ (some fraction) a b => isNumber fraction && isPoint a && isPoint b
  | _ => false

end

/-- No node is a number and a point, or a reference and one of these. -/
theorem kinds_differ (n : Node) : (n.isNumber = true → n.isPoint = false) ∧
    (n.isReference = true → n.isNumber = false ∧ n.isPoint = false) := by
  cases n <;> simp [isNumber, isPoint, isReference, isSelector]

end Node

/-- What may stand in a slot. -/
inductive SlotForm where
  /-- Nothing. -/
  | nothing
  /-- A line of text. -/
  | line
  /-- An arrow sign. -/
  | arrow
  /-- The name of an anchor. -/
  | anchor
  /-- A direction. -/
  | direction
  /-- A number. -/
  | number
  /-- A number or nothing. -/
  | numberIfAny
  /-- A reference or nothing. -/
  | referenceIfAny
  /-- A point. -/
  | point
  /-- A length or nothing, or a point behind the word `until`. -/
  | stretch

/-- Whether a slot has a form. -/
def Slot.fits : Slot → SlotForm → Bool
  | .nothing, .nothing => true
  | .line _, .line => true
  | .word text, .arrow => ArrowHeads.all.any (·.sign = text)
  | .word text, .anchor => (Anchor.ofName? text).isSome
  | .direction _, .direction => true
  | .node n, .number => n.isNumber
  | .nothing, .numberIfAny => true
  | .node n, .numberIfAny => n.isNumber
  | .nothing, .referenceIfAny => true
  | .node n, .referenceIfAny => n.isReference
  | .node n, .point => n.isPoint
  | .nothing, .stretch => true
  | .node n, .stretch => n.isNumber
  | .untilEven n, .stretch => n.isPoint
  | _, _ => false

/-- The clauses, and what stands in the two slots of each. -/
def clauseForms : List (String × SlotForm × SlotForm) := [
  ("text", .line, .nothing), ("arrow", .arrow, .nothing),
  ("width", .number, .nothing), ("height", .number, .nothing), ("radius", .number, .nothing),
  ("diameter", .number, .nothing), ("thickness", .number, .nothing),
  ("thick", .nothing, .nothing), ("thin", .nothing, .nothing), ("solid", .nothing, .nothing),
  ("invisible", .nothing, .nothing), ("fit", .nothing, .nothing), ("chop", .nothing, .nothing),
  ("close", .nothing, .nothing), ("cw", .nothing, .nothing), ("ccw", .nothing, .nothing),
  ("dotted", .numberIfAny, .nothing), ("dashed", .numberIfAny, .nothing),
  ("fill", .number, .nothing), ("color", .number, .nothing),
  ("same", .referenceIfAny, .nothing),
  ("at", .point, .nothing), ("with", .anchor, .point),
  ("from", .point, .nothing), ("to", .point, .nothing), ("then", .nothing, .nothing),
  ("direction", .direction, .stretch), ("heading", .number, .numberIfAny),
  ("until", .point, .nothing), ("distance", .number, .nothing)]

/-- Whether a clause has what belongs to it. -/
def ClauseNode.fits (c : ClauseNode) : Bool :=
  match clauseForms.lookup c.name with
  | some (value, extra) => c.value.fits value && c.extra.fits extra
  | none => false

mutual

/-- Whether every part of a statement is of the kind that is used there.  An assertion is about
points if it says so, and otherwise about numbers. -/
def StatementNode.fits : StatementNode → Bool
  | .object _ _ _ attributes => attributes.all ClauseNode.fits
  | .group _ body _ attributes => statementsFit body && attributes.all ClauseNode.fits
  | .assign _ _ _ e => e.isNumber
  | .direction .. => true
  | .print _ items => items.all (Sum.elim (fun _ => true) Node.isNumber)
  | .assert _ left right positional =>
    if positional then left.isPoint && right.isPoint else left.isNumber && right.isNumber
  | .place _ _ q => q.isPoint

/-- The same for some statements. -/
def statementsFit : List StatementNode → Bool
  | [] => true
  | s :: ss => s.fits && statementsFit ss

end

/-! ## The trees of a script fit -/

theorem Selector.isSelector_node (p : SourcePos) (s : Selector) :
    (s.node p).isSelector = true := by
  cases s <;> rfl

theorem ObjectRef.isReference_node (ref : ObjectRef) : ref.node.isReference = true := by
  induction ref with
  | previous p => rfl
  | select p s => cases s <;> rfl
  | member p group q s ih =>
    rw [ObjectRef.node, Node.isReference, ih, s.isSelector_node, Bool.and_self]

theorem Anchor.ofName?_name (a : Anchor) : ofName? a.name = some a := by
  have listed : ∀ a ∈ all, ofName? a.name = some a := by decide
  exact listed a (mem_all a)

theorem Compass.ofName?_name (c : Compass) : ofName? c.name = some c := by
  cases c <;> decide

theorem ScalarFunction.name_ne_distanceName (f : ScalarFunction) : f.name ≠ distanceName := by
  cases f <;> decide

mutual

theorem Scalar.isNumber_node (e : Scalar) : e.node.isNumber = true := by
  cases e with
  | number p value unit => simp [Scalar.node, Node.isNumber]
  | percent p value => simp [Scalar.node, Node.isNumber]
  | var p name => simp [Scalar.node, Node.isNumber]
  | color p name => simp [Scalar.node, Node.isNumber]
  | neg p e => simp [Scalar.node, Node.isNumber, e.isNumber_node]
  | binary p op a b => simp [Scalar.node, Node.isNumber, a.isNumber_node, b.isNumber_node]
  | call p f args =>
    simp [Scalar.node, Node.isNumber, f.name_ne_distanceName, f.isFunctionName_name,
      areNumbers_scalarNodes args]
  | dist p args => simp [Scalar.node, Node.isNumber, arePoints_positionNodes args]
  | coordinate p q axis => simp [Scalar.node, Node.isNumber, q.isPoint_node]
  | property p ref what => simp [Scalar.node, Node.isNumber, ref.isReference_node]

theorem areNumbers_scalarNodes (es : List Scalar) : Node.areNumbers (scalarNodes es) = true := by
  cases es with
  | nil => simp [scalarNodes, Node.areNumbers]
  | cons e es => simp [scalarNodes, Node.areNumbers, e.isNumber_node, areNumbers_scalarNodes es]

theorem arePoints_positionNodes (qs : List Position) :
    Node.arePoints (positionNodes qs) = true := by
  cases qs with
  | nil => simp [positionNodes, Node.arePoints]
  | cons q qs => simp [positionNodes, Node.arePoints, q.isPoint_node, arePoints_positionNodes qs]

theorem Position.isPoint_node (q : Position) : q.node.isPoint = true := by
  cases q with
  | pair p x y => simp [Position.node, Node.isPoint, x.isNumber_node, y.isNumber_node]
  | object p ref anchor =>
    cases anchor <;>
      simp [Position.node, Node.isPoint, ref.isReference_node, Anchor.ofName?_name]
  | vertex p n ref fromLast => simp [Position.node, Node.isPoint, ref.isReference_node]
  | offset p base dx dy backward =>
    simp [Position.node, Node.isPoint, base.isPoint_node, dx.isNumber_node, dy.isNumber_node]
  | mix p a b => simp [Position.node, Node.isPoint, a.isPoint_node, b.isPoint_node]
  | relative p distance side base =>
    simp [Position.node, Node.isPoint, distance.isNumber_node, base.isPoint_node,
      Compass.ofName?_name]
  | heading p distance angle base =>
    simp [Position.node, Node.isPoint, distance.isNumber_node, angle.isNumber_node,
      base.isPoint_node]
  | between p f a b =>
    cases f with
    | none => simp [Position.node, Node.isPoint, a.isPoint_node, b.isPoint_node]
    | some f =>
      simp [Position.node, Node.isPoint, f.isNumber_node, a.isPoint_node, b.isPoint_node]

end

/-- The forms of a clause are found under its word. -/
theorem Attribute.fits_node (a : Attribute) : a.node.fits = true := by
  have number : ∀ e : Option Scalar, (Slot.ofOption Scalar.node e).fits .numberIfAny = true :=
    fun e => by
      cases e with
      | none => rfl
      | some e => exact e.isNumber_node
  have length : ∀ e : Option Scalar, (Slot.ofOption Scalar.node e).fits .stretch = true :=
    fun e => by
      cases e with
      | none => rfl
      | some e => exact e.isNumber_node
  obtain ⟨p, clause⟩ := a
  unfold ClauseNode.fits node
  cases clause with
  | text line => rfl
  | arrow heads => cases heads <;> rfl
  | size what value =>
    have found : clauseForms.lookup what.name = some (.number, .nothing) := by
      cases what <;> rfl
    simp [Clause.keyword, Clause.slots, found, Slot.fits, value.isNumber_node]
  | flag f => cases f <;> rfl
  | thickness value => exact (Bool.and_true _).trans value.isNumber_node
  | dotted gap => exact (Bool.and_true _).trans (number gap)
  | dashed gap => exact (Bool.and_true _).trans (number gap)
  | fill value => exact (Bool.and_true _).trans value.isNumber_node
  | color value => exact (Bool.and_true _).trans value.isNumber_node
  | same source =>
    cases source with
    | none => rfl
    | some ref => exact (Bool.and_true _).trans ref.isReference_node
  | located q => exact (Bool.and_true _).trans q.isPoint_node
  | anchored anchor q =>
    have found : (Anchor.ofName? anchor.name).isSome = true := by rw [Anchor.ofName?_name]; rfl
    exact Bool.and_eq_true_iff.2 ⟨found, q.isPoint_node⟩
  | start q => exact (Bool.and_true _).trans q.isPoint_node
  | target q => exact (Bool.and_true _).trans q.isPoint_node
  | next => rfl
  | direction dir e => exact length e
  | directionUntil dir q => exact q.isPoint_node
  | heading angle e => exact Bool.and_eq_true_iff.2 ⟨angle.isNumber_node, number e⟩
  | untilEven q => exact (Bool.and_true _).trans q.isPoint_node
  | distance value => exact (Bool.and_true _).trans value.isNumber_node

mutual

theorem Statement.fits_node (s : Statement) : s.node.fits = true := by
  cases s with
  | object p cls label attributes =>
    simp [Statement.node, StatementNode.fits, Attribute.fits_node]
  | group p body label attributes =>
    simp [Statement.node, StatementNode.fits, Attribute.fits_node, statementsFit_nodes body]
  | assign p name op value => simp [Statement.node, StatementNode.fits, value.isNumber_node]
  | direction p dir => simp [Statement.node, StatementNode.fits]
  | print p items =>
    have item : ∀ i : PrintItem, Sum.elim (fun _ => true) Node.isNumber i.node = true := fun i => by
      cases i with
      | text s => rfl
      | value e => exact e.isNumber_node
    simp [Statement.node, StatementNode.fits, item]
  | assertScalars p left right =>
    simp [Statement.node, StatementNode.fits, left.isNumber_node, right.isNumber_node]
  | assertPositions p left right =>
    simp [Statement.node, StatementNode.fits, left.isPoint_node, right.isPoint_node]
  | place p label q => simp [Statement.node, StatementNode.fits, q.isPoint_node]

/-- Every part of the trees of some statements is of the kind that is used there. -/
theorem statementsFit_nodes (ss : List Statement) : statementsFit (statementNodes ss) = true := by
  cases ss with
  | nil => simp [statementNodes, statementsFit]
  | cons s ss => simp [statementNodes, statementsFit, s.fits_node, statementsFit_nodes ss]

end

end DiagramScript
