import DiagramScript.Placement

/-!
# Execution

A script is run statement by statement, in one pass.  The run stops at the first
statement that fails, and what was done until then stays.

* `Resources` — the tables of colours and units, and how text is measured.
* `Drawing` — how far a run has come: the objects and scopes, the scope it stands in,
  the cursor and the messages, and the serial number of the next change.
* `Outcome` — what a statement leads to: whether it succeeds, and the drawing after it
  in either case.
* `execute`, `run` — the effect of one statement and of several; the body of a group
  runs in a scope of its own with a cursor of its own.
* `run_append` — running statements in a row is running the first part, and the second
  part if the first succeeds.
-/

namespace DiagramScript

variable {K : Type} [Arith K]

/-! ## The state of a run -/

/-- What a run is given, besides the script. -/
structure Resources (K : Type) where
  /-- The colours. -/
  colors : ColorTable
  /-- The units. -/
  units : UnitConverter K
  /-- How text is measured. -/
  measure : Measurer K

/-- The usual tables, and text measured by estimate. -/
def Resources.standard : Resources K where
  colors := .standard
  units := standardUnits
  measure := standardMeasurer

/-- How far a run has come. -/
structure Drawing (K : Type) where
  /-- The objects and scopes. -/
  registry : Registry K
  /-- The scope that statements work in. -/
  scope : Nat
  /-- Where the next object is attached. -/
  cursor : Cursor K
  /-- What was printed. -/
  messages : List String
  /-- The serial number of the next change that writes coordinates down. -/
  serial : Nat := 0

/-- Whether a statement succeeds, and the drawing after it. -/
abbrev Outcome (K : Type) := Except Failure Unit × Drawing K

namespace Drawing

/-- The drawing that a run starts with. -/
def initial : Drawing K :=
  { registry := .initial, scope := 0, cursor := .initial, messages := [] }

/-- What evaluation sees of the drawing. -/
def view (d : Drawing K) (t : Resources K) : View K :=
  { registry := d.registry, scope := d.scope, colors := t.colors, units := t.units }

/-- What placement depends on. -/
def setting (d : Drawing K) (t : Resources K) : Setting K :=
  { view := d.view t, cursor := d.cursor, measure := t.measure, serial := d.serial }

/-- The drawing that a computation leads to, or the old one if it fails. -/
def attempt (d : Drawing K) (r : Except Failure (Drawing K)) : Outcome K :=
  match r with
  | .ok next => (.ok (), next)
  | .error e => (.error e, d)

/-! ## Objects -/

/-- Writes a finished draft into the list of objects.  Its coordinates may be copied from there. -/
def store (d : Drawing K) (draft : Draft K) : Drawing K :=
  { d with
    registry := d.registry.modifyObject draft.object.id fun _ => draft.object.stamp d.serial
    serial := d.serial + 1 }

/-- Moves the cursor behind an object. -/
def advance (d : Drawing K) (draft : Draft K) (exit : Option Direction) : Drawing K :=
  { d with cursor := d.cursor.advance draft exit }

/-- Lets references find an object, gives it its label, and moves the cursor behind it.  A label
that is taken leaves the object without a label and the cursor where it was. -/
def finish (d : Drawing K) (draft : Draft K) (exit : Option Direction) (label : Option String) :
    Outcome K :=
  match d.registry.finalize d.scope draft.object.id with
  | .error e => (.error e, d)
  | .ok r =>
    match label with
    | none => (.ok (), { d with registry := r }.advance draft exit)
    | some l =>
      match r.bindLabel d.scope l draft.object.id with
      | (.error e, r) => (.error e, { d with registry := r })
      | (.ok (), r) => (.ok (), { d with registry := r }.advance draft exit)

/-- Adds an object that references cannot find yet. -/
def create (d : Drawing K) (cls : ObjectClass) : Nat × Drawing K :=
  let (id, r) := d.registry.create cls d.cursor.direction
  (id, { d with registry := r })

/-- The object that a declaration asks for, with its place. -/
def draft (d : Drawing K) (t : Resources K) (id : Nat) (cls : ObjectClass)
    (attributes : List Attribute) : Except Failure (Draft K × Option Direction) := do
  let plain ← Draft.begin (d.view t) id cls d.cursor.direction
  let full ← plain.applyAll (d.view t) attributes
  full.place (d.setting t)

/-- Declares an object.  The number of the object is used up even if the declaration fails. -/
def declare (d : Drawing K) (t : Resources K) (cls : ObjectClass) (label : Option String)
    (attributes : List Attribute) : Outcome K :=
  let (id, d) := d.create cls
  match d.draft t id cls attributes with
  | .error e => (.error e, d)
  | .ok (draft, exit) => (d.store draft).finish draft exit label

/-! ## Groups -/

/-- Enters the body of a group: a new scope, and a cursor at the given point. -/
def enter (d : Drawing K) (origin : Point K) : Drawing K :=
  let (inner, r) := d.registry.openScope d.scope
  { d with
    registry := r
    scope := inner
    cursor := { position := origin, direction := d.cursor.direction } }

/-- Leaves the body of a group: the scope and the cursor are again those of the drawing around
it. -/
def leave (inner outer : Drawing K) : Drawing K :=
  { inner with scope := outer.scope, cursor := outer.cursor }

/-- The bounding box of the objects of a scope that are drawn. -/
def scopeBox (r : Registry K) (s : Nat) : Option (Box K) :=
  let drawn := (r.objects (r.scope s).members).filter (!·.style.invisible)
  Box.mergeAll none (drawn.map (·.box))

/-- A draft that encloses a box; without a box it is a point. -/
def enclose (draft : Draft K) (origin : Point K) : Option (Box K) → Draft K
  | none => { draft with object := { draft.object with center := origin } }
  | some b =>
    { draft with
      object := { draft.object with center := b.center, width := b.width, height := b.height } }

/-- The group around the objects of a scope, before and after it is placed. -/
def groupDraft (d : Drawing K) (t : Resources K) (id inner : Nat) (origin : Point K)
    (attributes : List Attribute) : Except Failure (Draft K × Draft K) := do
  let plain ← Draft.begin (d.view t) id .container d.cursor.direction
  let enclosing := enclose plain origin (scopeBox d.registry inner)
  let full ← enclosing.applyAll (d.view t) attributes
  let placed ← full.placeFramed (d.setting t)
  .ok (full, placed)

/-- Moves all that an object contains, at every depth. -/
def moveMembers (d : Drawing K) (id : Nat) (dx dy : K) : Drawing K :=
  if Arith.isZero dx && Arith.isZero dy then d
  else
    { d with
      registry := (d.registry.descendants id).foldl (fun r c =>
        r.modifyObject c fun o => (o.translate dx dy).stamp d.serial) d.registry
      serial := d.serial + 1 }

/-- Makes a group of the objects of a scope; they follow the group to its place. -/
def group (d : Drawing K) (t : Resources K) (inner : Nat) (origin : Point K)
    (label : Option String) (attributes : List Attribute) : Outcome K :=
  let (id, d) := d.create .container
  match d.groupDraft t id inner origin attributes with
  | .error e => (.error e, d)
  | .ok (full, placed) =>
    let d := d.store placed
    let dx := placed.object.center.x - full.object.center.x
    let dy := placed.object.center.y - full.object.center.y
    let d := { d with registry := d.registry.attachScope id inner : Drawing K }
    (d.moveMembers id dx dy).finish placed none label

/-! ## Other statements -/

/-- The value that a variable gets. -/
def assigned (v : View K) (name : String) (op : AssignOp) (value : K) : Except Failure K :=
  match op.operation? with
  | none => .ok value
  | some f =>
    match v.registry.lookupVariable v.scope name with
    | none => .error (.eval (.unknownVariable name))
    | some current => do
      let result ← View.operate f current value
      if Arith.isFinite result then .ok result
      else .error (.eval (.overflowIn name op.sign))

/-- Sets a variable. -/
def assign (d : Drawing K) (t : Resources K) (name : String) (op : AssignOp) (e : Scalar) :
    Except Failure (Drawing K) := do
  let value ← (d.view t).scalar e
  let result ← assigned (d.view t) name op value
  .ok { d with registry := d.registry.setVariable d.scope name result }

/-- The text of something to print. -/
def itemText (v : View K) : PrintItem → Except Failure String
  | .text s => .ok s
  | .value e => do
    let x ← v.scalar e
    numberText x

/-- Prints a message. -/
def print (d : Drawing K) (t : Resources K) (items : List PrintItem) :
    Except Failure (Drawing K) := do
  let texts ← items.mapM (itemText (d.view t))
  .ok { d with messages := d.messages ++ [" ".intercalate texts] }

/-- Whether two numbers are equal as far as assertions are concerned. -/
def nearlyEqual (a b : K) : Bool := Arith.close Arith.billionth Arith.billionth a b

/-- The text of a point. -/
def pointText (p : Point K) : Except Failure String := do
  let x ← numberText p.x
  let y ← numberText p.y
  .ok ("(" ++ x ++ ", " ++ y ++ ")")

/-- Refuses two numbers that are not nearly equal. -/
def assertScalars (d : Drawing K) (t : Resources K) (left right : Scalar) :
    Except Failure (Drawing K) := do
  let a ← (d.view t).scalar left
  let b ← (d.view t).scalar right
  let shownA ← numberText a
  let shownB ← numberText b
  if nearlyEqual a b then .ok d else .error (.eval (.assertionFailed shownA shownB))

/-- Refuses two points that are not nearly equal. -/
def assertPositions (d : Drawing K) (t : Resources K) (left right : Position) :
    Except Failure (Drawing K) := do
  let a ← (d.view t).position left
  let b ← (d.view t).position right
  let shownA ← pointText a
  let shownB ← pointText b
  if nearlyEqual a.x b.x && nearlyEqual a.y b.y then .ok d
  else .error (.eval (.assertionFailed shownA shownB))

/-- Gives a label to a point.  Its coordinates may be copied from there. -/
def bindPlace (d : Drawing K) (t : Resources K) (label : String) (q : Position) :
    Except Failure (Drawing K) := do
  let p ← (d.view t).position q
  let r ← d.registry.bindPlace d.scope label (p.stamp ⟨d.serial, none, 0⟩)
  .ok { d with registry := r, serial := d.serial + 1 }

end Drawing

/-! ## Statements -/

/-- Fills in the place of the mistake that a statement fails with. -/
def Outcome.locate (o : Outcome K) (p : SourcePos) : Outcome K := (locating p o.1, o.2)

/-- The drawing after a statement, and whatever comes next unless the statement fails. -/
def Outcome.andThen (o : Outcome K) (next : Drawing K → Outcome K) : Outcome K :=
  match o.1 with
  | .ok () => next o.2
  | .error e => (.error e, o.2)

mutual

/-- The effect of a statement. -/
def execute (t : Resources K) (d : Drawing K) : Statement → Outcome K
  | .object p cls label attributes => (d.declare t cls label attributes).locate p
  | .group p body label attributes =>
    match stackingStart (d.setting t) true with
    | .error e => Outcome.locate (.error e, d) p
    | .ok origin =>
      let entered := d.enter origin
      let inside := run t entered body
      Outcome.locate (Outcome.andThen (inside.1, inside.2.leave d)
        fun after => after.group t entered.scope origin label attributes) p
  | .assign p name op e => (d.attempt (d.assign t name op e)).locate p
  | .direction _ dir => (.ok (), { d with cursor := { d.cursor with direction := dir } })
  | .print p items => (d.attempt (d.print t items)).locate p
  | .assertScalars p left right => (d.attempt (d.assertScalars t left right)).locate p
  | .assertPositions p left right => (d.attempt (d.assertPositions t left right)).locate p
  | .place p label q => (d.attempt (d.bindPlace t label q)).locate p

/-- The effect of several statements, up to the first that fails. -/
def run (t : Resources K) (d : Drawing K) : List Statement → Outcome K
  | [] => (.ok (), d)
  | s :: rest =>
    let first := execute t d s
    match first.1 with
    | .ok () => run t first.2 rest
    | .error e => (.error e, first.2)

end

/-- Running statements in a row is running the first part, and the second part if the first
succeeds. -/
theorem run_append (t : Resources K) (d : Drawing K) (ss rest : List Statement) :
    run t d (ss ++ rest) = Outcome.andThen (run t d ss) fun d => run t d rest := by
  induction ss generalizing d with
  | nil => simp [run, Outcome.andThen]
  | cons s ss ih =>
    simp only [List.cons_append, run]
    cases h : (execute t d s).1 with
    | ok _ => exact ih _
    | error e => simp [Outcome.andThen]

end DiagramScript
