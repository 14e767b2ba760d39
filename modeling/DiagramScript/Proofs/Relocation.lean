import DiagramScript.Script.Statement
import DiagramScript.Token.Basic

/-!
# Scripts at other places

What a script says does not depend on where it stands.  Here all places in it are changed at once,
in tokens, in what is made of them, and in the mistakes found on the way.

* `Token.mapPos`, `Scalar.mapPos`, `Position.mapPos`, `Statement.mapPos` — the same at other places.
* `Diagnostic.mapPos`, `Failure.mapPos` — the same mistake, found there.
* `SourcePos.down` — some lines further down.
-/

namespace DiagramScript

variable (f : SourcePos → SourcePos)

/-- The place some lines further down. -/
def SourcePos.down (lines : Nat) (p : SourcePos) : SourcePos := ⟨p.line + lines, p.column⟩

/-! ## Tokens -/

/-- The token at another place. -/
def Token.mapPos (t : Token) : Token := { t with pos := f t.pos }

namespace Token

@[simp] theorem mapPos_kind (t : Token) : (t.mapPos f).kind = t.kind := rfl

@[simp] theorem mapPos_text (t : Token) : (t.mapPos f).text = t.text := rfl

@[simp] theorem mapPos_pos (t : Token) : (t.mapPos f).pos = f t.pos := rfl

@[simp] theorem isWord_mapPos (t : Token) (word : String) :
    (t.mapPos f).isWord word = t.isWord word := rfl

@[simp] theorem isTerminator_mapPos (t : Token) : (t.mapPos f).isTerminator = t.isTerminator := rfl

end Token

/-! ## Expressions -/

/-- The reference at other places. -/
def ObjectRef.mapPos : ObjectRef → ObjectRef
  | previous p => previous (f p)
  | select p s => select (f p) s
  | member p group q s => member (f p) group.mapPos (f q) s

mutual

/-- The expression at other places. -/
def Scalar.mapPos : Scalar → Scalar
  | .number p value unit => .number (f p) value unit
  | .percent p value => .percent (f p) value
  | .var p name => .var (f p) name
  | .color p name => .color (f p) name
  | .neg p e => .neg (f p) (Scalar.mapPos e)
  | .binary p op a b => .binary (f p) op (Scalar.mapPos a) (Scalar.mapPos b)
  | .call p function args => .call (f p) function (scalarsMapPos args)
  | .dist p args => .dist (f p) (positionsMapPos args)
  | .coordinate p q axis => .coordinate (f p) (Position.mapPos q) axis
  | .property p ref what => .property (f p) (ref.mapPos f) what

/-- Some expressions at other places. -/
def scalarsMapPos : List Scalar → List Scalar
  | [] => []
  | e :: es => Scalar.mapPos e :: scalarsMapPos es

/-- Some positions at other places. -/
def positionsMapPos : List Position → List Position
  | [] => []
  | q :: qs => Position.mapPos q :: positionsMapPos qs

/-- The position at other places. -/
def Position.mapPos : Position → Position
  | .pair p x y => .pair (f p) (Scalar.mapPos x) (Scalar.mapPos y)
  | .object p ref anchor => .object (f p) (ref.mapPos f) anchor
  | .vertex p n ref fromLast => .vertex (f p) n (ref.mapPos f) fromLast
  | .offset p base dx dy backward =>
    .offset (f p) (Position.mapPos base) (Scalar.mapPos dx) (Scalar.mapPos dy) backward
  | .mix p a b => .mix (f p) (Position.mapPos a) (Position.mapPos b)
  | .relative p distance side base =>
    .relative (f p) (Scalar.mapPos distance) side (Position.mapPos base)
  | .heading p distance angle base =>
    .heading (f p) (Scalar.mapPos distance) (Scalar.mapPos angle) (Position.mapPos base)
  | .between p none a b => .between (f p) none (Position.mapPos a) (Position.mapPos b)
  | .between p (some fraction) a b =>
    .between (f p) (some (Scalar.mapPos fraction)) (Position.mapPos a) (Position.mapPos b)

end

@[simp] theorem scalarsMapPos_eq_map (es : List Scalar) :
    scalarsMapPos f es = es.map (Scalar.mapPos f) := by
  induction es with
  | nil => rw [scalarsMapPos, List.map_nil]
  | cons e es ih => rw [scalarsMapPos, ih, List.map_cons]

@[simp] theorem positionsMapPos_eq_map (qs : List Position) :
    positionsMapPos f qs = qs.map (Position.mapPos f) := by
  induction qs with
  | nil => rw [positionsMapPos, List.map_nil]
  | cons q qs ih => rw [positionsMapPos, ih, List.map_cons]

theorem Scalar.mapPos_call (p : SourcePos) (function : ScalarFunction) (args : List Scalar) :
    (Scalar.call p function args).mapPos f = .call (f p) function (args.map (Scalar.mapPos f)) := by
  rw [Scalar.mapPos, scalarsMapPos_eq_map]

theorem Scalar.mapPos_dist (p : SourcePos) (args : List Position) :
    (Scalar.dist p args).mapPos f = .dist (f p) (args.map (Position.mapPos f)) := by
  rw [Scalar.mapPos, positionsMapPos_eq_map]

@[simp] theorem ObjectRef.pos_mapPos (r : ObjectRef) : (r.mapPos f).pos = f r.pos := by
  cases r <;> rfl

@[simp] theorem Scalar.pos_mapPos (e : Scalar) : (e.mapPos f).pos = f e.pos := by
  cases e <;> rw [Scalar.mapPos] <;> rfl

/-! ## Statements -/

/-- The clause at other places. -/
def Clause.mapPos : Clause → Clause
  | text line => text line
  | arrow heads => arrow heads
  | size dimension value => size dimension (value.mapPos f)
  | thickness value => thickness (value.mapPos f)
  | flag what => flag what
  | dotted gap => dotted (gap.map (Scalar.mapPos f))
  | dashed gap => dashed (gap.map (Scalar.mapPos f))
  | fill value => fill (value.mapPos f)
  | color value => color (value.mapPos f)
  | same source => same (source.map (ObjectRef.mapPos f))
  | located position => located (position.mapPos f)
  | anchored anchor position => anchored anchor (position.mapPos f)
  | start position => start (position.mapPos f)
  | target position => target (position.mapPos f)
  | next => next
  | direction dir length => direction dir (length.map (Scalar.mapPos f))
  | directionUntil dir position => directionUntil dir (position.mapPos f)
  | heading angle length => heading (angle.mapPos f) (length.map (Scalar.mapPos f))
  | untilEven position => untilEven (position.mapPos f)
  | distance value => distance (value.mapPos f)

@[simp] theorem Clause.keyword_mapPos (c : Clause) : (c.mapPos f).keyword = c.keyword := by
  cases c <;> rfl

@[simp] theorem Clause.shown_mapPos (c : Clause) : (c.mapPos f).shown = c.shown := by
  cases c <;> rfl

@[simp] theorem ObjectClass.accepts_mapPos (cls : ObjectClass) (c : Clause) :
    cls.accepts (c.mapPos f) = cls.accepts c := by
  rw [ObjectClass.accepts, ObjectClass.accepts, Clause.keyword_mapPos]

/-- The clause with its place at other places. -/
def Attribute.mapPos (a : Attribute) : Attribute := ⟨f a.pos, a.clause.mapPos f⟩

/-- What is printed, at other places. -/
def PrintItem.mapPos : PrintItem → PrintItem
  | text s => text s
  | value e => value (e.mapPos f)

mutual

/-- The statement at other places. -/
def Statement.mapPos : Statement → Statement
  | .object p cls label attributes => .object (f p) cls label (attributes.map (Attribute.mapPos f))
  | .group p body label attributes =>
    .group (f p) (statementsMapPos body) label (attributes.map (Attribute.mapPos f))
  | .assign p name op value => .assign (f p) name op (value.mapPos f)
  | .direction p dir => .direction (f p) dir
  | .print p items => .print (f p) (items.map (PrintItem.mapPos f))
  | .assertScalars p left right => .assertScalars (f p) (left.mapPos f) (right.mapPos f)
  | .assertPositions p left right => .assertPositions (f p) (left.mapPos f) (right.mapPos f)
  | .place p label position => .place (f p) label (position.mapPos f)

/-- Some statements at other places. -/
def statementsMapPos : List Statement → List Statement
  | [] => []
  | s :: ss => Statement.mapPos s :: statementsMapPos ss

end

@[simp] theorem statementsMapPos_eq_map (ss : List Statement) :
    statementsMapPos f ss = ss.map (Statement.mapPos f) := by
  induction ss with
  | nil => rw [statementsMapPos, List.map_nil]
  | cons s ss ih => rw [statementsMapPos, ih, List.map_cons]

/-! ## Scripts that stay where they are -/

@[simp] theorem Token.mapPos_id (t : Token) : t.mapPos id = t := rfl

theorem ObjectRef.mapPos_id (r : ObjectRef) : r.mapPos id = r := by
  induction r with
  | previous p => rfl
  | select p s => rfl
  | member p group q s ih => rw [mapPos, ih, id, id]

mutual

theorem Scalar.mapPos_id (e : Scalar) : e.mapPos id = e := by
  cases e with
  | number p value unit => rfl
  | percent p value => rfl
  | var p name => rfl
  | color p name => rfl
  | neg p e => rw [Scalar.mapPos, Scalar.mapPos_id e, id]
  | binary p op a b => rw [Scalar.mapPos, Scalar.mapPos_id a, Scalar.mapPos_id b, id]
  | call p function args => rw [Scalar.mapPos, scalarsMapPos_id args, id]
  | dist p args => rw [Scalar.mapPos, positionsMapPos_id args, id]
  | coordinate p q axis => rw [Scalar.mapPos, Position.mapPos_id q, id]
  | property p ref what => rw [Scalar.mapPos, ref.mapPos_id, id]

theorem scalarsMapPos_id (es : List Scalar) : scalarsMapPos id es = es := by
  cases es with
  | nil => rw [scalarsMapPos]
  | cons e es => rw [scalarsMapPos, Scalar.mapPos_id e, scalarsMapPos_id es]

theorem positionsMapPos_id (qs : List Position) : positionsMapPos id qs = qs := by
  cases qs with
  | nil => rw [positionsMapPos]
  | cons q qs => rw [positionsMapPos, Position.mapPos_id q, positionsMapPos_id qs]

theorem Position.mapPos_id (q : Position) : q.mapPos id = q := by
  match q with
  | .pair p x y => rw [Position.mapPos, Scalar.mapPos_id x, Scalar.mapPos_id y, id]
  | .object p ref anchor => rw [Position.mapPos, ref.mapPos_id, id]
  | .vertex p n ref fromLast => rw [Position.mapPos, ref.mapPos_id, id]
  | .offset p base dx dy backward =>
    rw [Position.mapPos, Position.mapPos_id base, Scalar.mapPos_id dx, Scalar.mapPos_id dy, id]
  | .mix p a b => rw [Position.mapPos, Position.mapPos_id a, Position.mapPos_id b, id]
  | .relative p distance side base =>
    rw [Position.mapPos, Scalar.mapPos_id distance, Position.mapPos_id base, id]
  | .heading p distance angle base =>
    rw [Position.mapPos, Scalar.mapPos_id distance, Scalar.mapPos_id angle, Position.mapPos_id base,
      id]
  | .between p none a b => rw [Position.mapPos, Position.mapPos_id a, Position.mapPos_id b, id]
  | .between p (some fraction) a b =>
    rw [Position.mapPos, Scalar.mapPos_id fraction, Position.mapPos_id a, Position.mapPos_id b, id]

end

theorem Scalar.mapPos_id_eq : Scalar.mapPos id = id := funext Scalar.mapPos_id

theorem Clause.mapPos_id (c : Clause) : c.mapPos id = c := by
  have ref : ObjectRef.mapPos id = id := funext ObjectRef.mapPos_id
  cases c <;> simp only [mapPos, Scalar.mapPos_id, Position.mapPos_id, Scalar.mapPos_id_eq, ref,
    Option.map_id, id]

theorem attributes_mapPos_id (attributes : List Attribute) :
    attributes.map (Attribute.mapPos id) = attributes := by
  have same : Attribute.mapPos id = id := funext fun a => by
    rw [Attribute.mapPos, Clause.mapPos_id, id, id]
  rw [same, List.map_id]

theorem printItems_mapPos_id (items : List PrintItem) :
    items.map (PrintItem.mapPos id) = items := by
  have same : PrintItem.mapPos id = id := funext fun i => by
    cases i with
    | text s => rfl
    | value e => rw [PrintItem.mapPos, Scalar.mapPos_id, id]
  rw [same, List.map_id]

mutual

theorem Statement.mapPos_id (s : Statement) : s.mapPos id = s := by
  cases s with
  | object p cls label attributes => rw [Statement.mapPos, attributes_mapPos_id, id]
  | group p body label attributes =>
    rw [Statement.mapPos, statementsMapPos_id body, attributes_mapPos_id, id]
  | assign p name op value => rw [Statement.mapPos, value.mapPos_id, id]
  | direction p dir => rw [Statement.mapPos, id]
  | print p items => rw [Statement.mapPos, printItems_mapPos_id, id]
  | assertScalars p left right => rw [Statement.mapPos, left.mapPos_id, right.mapPos_id, id]
  | assertPositions p left right => rw [Statement.mapPos, left.mapPos_id, right.mapPos_id, id]
  | place p label position => rw [Statement.mapPos, position.mapPos_id, id]

theorem statementsMapPos_id (ss : List Statement) : statementsMapPos id ss = ss := by
  cases ss with
  | nil => rw [statementsMapPos]
  | cons s ss => rw [statementsMapPos, Statement.mapPos_id s, statementsMapPos_id ss]

end

/-! ## Mistakes -/

/-- The same mistake, found at another place. -/
def Diagnostic.mapPos (d : Diagnostic) : Diagnostic := { d with place := d.place.map f }

/-- The same failure; a mistake is found at another place. -/
def Failure.mapPos : Failure → Failure
  | mistake d => mistake (d.mapPos f)
  | other => other

@[simp] theorem Diagnostic.mapPos_locate (d : Diagnostic) (p : SourcePos) :
    (d.locate p).mapPos f = (d.mapPos f).locate (f p) := by
  obtain ⟨cause, place⟩ := d
  cases place <;> rfl

@[simp] theorem Failure.mapPos_locate (e : Failure) (p : SourcePos) :
    (e.locate p).mapPos f = (e.mapPos f).locate (f p) := by
  cases e with
  | mistake d => exact congrArg mistake (d.mapPos_locate f p)
  | fault e => rfl
  | missing key => rfl
  | outOfRange => rfl
  | noPath => rfl

end DiagramScript
