import DiagramScript.Diagnostic
import DiagramScript.Object.Basic

/-!
# The registry of objects and scopes

All objects of a run are kept in one list and are known by their place in it.  The top
level of a script and every group have a scope of their own, which knows the objects
declared in it, counts them by class, and holds labels and variables.

* `Scope` — the members of a scope, in all and by class, its labels and its variables.
* `Registry` — the objects, the scopes, and which scope belongs to which group.
* `create`, `finalize`, `bindLabel`, `bindPlace` — how objects come to be known.
* `resolveLabel`, `resolvePlace`, `resolveOrdinal`, `previous` — how they are found:
  labels are looked up from the innermost scope outward, all else in one scope only.
* `openScope`, `attachScope`, `descendants` — groups.
-/

namespace DiagramScript

/-! ## Scopes -/

/-- What one level of a script knows. -/
structure Scope (K : Type) where
  /-- The scope around it. -/
  parent : Option Nat := none
  /-- Its finished objects, in the order in which they were finished. -/
  members : List Nat := []
  /-- The same by class. -/
  ordinals : List (ObjectClass × List Nat) := []
  /-- The objects with labels. -/
  labels : List (String × Nat) := []
  /-- The points with labels. -/
  places : List (String × Point K) := []
  /-- The variables. -/
  bindings : Variables K := []

namespace Scope

variable {K : Type}

/-- The finished objects of a class, in the order in which they were finished. -/
def ofClass (s : Scope K) (cls : ObjectClass) : List Nat := (s.ordinals.lookup cls).getD []

/-- Adds an object to those of its class. -/
def addOrdinal (id : Nat) (cls : ObjectClass) :
    List (ObjectClass × List Nat) → List (ObjectClass × List Nat)
  | [] => [(cls, [id])]
  | (c, ids) :: rest =>
    if c = cls then (c, ids ++ [id]) :: rest else (c, ids) :: addOrdinal id cls rest

/-- The scope with one more finished object. -/
def addMember (s : Scope K) (id : Nat) (cls : ObjectClass) : Scope K :=
  { s with members := s.members ++ [id], ordinals := addOrdinal id cls s.ordinals }

/-- Whether a label is taken. -/
def isTaken (s : Scope K) (label : String) : Bool :=
  (s.labels.lookup label).isSome || (s.places.lookup label).isSome

/-- Adding an object to its class leaves the objects of the other classes alone. -/
theorem lookup_addOrdinal_of_ne {id : Nat} {cls other : ObjectClass} (h : other ≠ cls)
    (table : List (ObjectClass × List Nat)) :
    (addOrdinal id cls table).lookup other = table.lookup other := by
  induction table with
  | nil => simp [addOrdinal, h]
  | cons e rest ih =>
    obtain ⟨c, ids⟩ := e
    by_cases hc : c = cls
    · subst hc
      have ho : (other == c) = false := by simpa using h
      simp [addOrdinal, List.lookup_cons, ho]
    · simp only [addOrdinal, if_neg hc, List.lookup_cons]
      cases other == c
      · exact ih
      · rfl

/-- An object is the last of its class after it has been added. -/
theorem lookup_addOrdinal_self (id : Nat) (cls : ObjectClass)
    (table : List (ObjectClass × List Nat)) :
    (addOrdinal id cls table).lookup cls = some ((table.lookup cls).getD [] ++ [id]) := by
  induction table with
  | nil => simp [addOrdinal]
  | cons e rest ih =>
    obtain ⟨c, ids⟩ := e
    by_cases hc : c = cls
    · subst hc
      simp [addOrdinal]
    · have ho : (cls == c) = false := by simpa using fun e => hc e.symm
      simp only [addOrdinal, if_neg hc, List.lookup_cons, ho]
      exact ih

end Scope

/-! ## The registry -/

/-- All objects and scopes of a run. -/
structure Registry (K : Type) where
  /-- The objects; the number of an object is its place in this list. -/
  arena : List (Object K) := []
  /-- The scopes; the first is the top level. -/
  scopes : List (Scope K) := []
  /-- The groups, each with its scope, the latest first. -/
  attached : List (Nat × Nat) := []

namespace Registry

variable {K : Type} [Arith K]

/-- A registry with nothing but the top level and the variables a script starts with. -/
def initial : Registry K := { scopes := [{ bindings := Variables.initial }] }

/-- A scope by its number. -/
def scope (r : Registry K) (s : Nat) : Scope K := (r.scopes[s]?).getD {}

/-- Changes a scope. -/
def modifyScope (r : Registry K) (s : Nat) (f : Scope K → Scope K) : Registry K :=
  { r with scopes := r.scopes.modify s f }

/-- Changes an object. -/
def modifyObject (r : Registry K) (id : Nat) (f : Object K → Object K) : Registry K :=
  { r with arena := r.arena.modify id f }

/-- An object by its number. -/
def object (r : Registry K) (id : Nat) : Except Failure (Object K) :=
  match r.arena[id]? with
  | some o => .ok o
  | none => .error .outOfRange

/-- The objects with the given numbers. -/
def objects (r : Registry K) (ids : List Nat) : List (Object K) := ids.filterMap (r.arena[·]?)

/-- The finished objects of all scopes, in the order of creation. -/
def finished (r : Registry K) : List (Object K) := r.arena.filter (·.finalized)

/-- The value of a variable. -/
def lookupVariable (r : Registry K) (s : Nat) (name : String) : Option K :=
  Variables.get? (r.scope s).bindings name

/-- Sets a variable. -/
def setVariable (r : Registry K) (s : Nat) (name : String) (value : K) : Registry K :=
  r.modifyScope s fun sc => { sc with bindings := sc.bindings.set name value }

/-! ### Objects -/

/-- Adds an object that references cannot find yet, and gives its number. -/
def create (r : Registry K) (cls : ObjectClass) (direction : Direction) : Nat × Registry K :=
  (r.arena.length,
    { r with arena := r.arena ++ [Object.placeholder r.arena.length cls direction] })

/-- Lets references of a scope find an object, as the last of its class. -/
def finalize (r : Registry K) (s id : Nat) : Except Failure (Registry K) := do
  let o ← r.object id
  let count := ((r.scope s).ofClass o.cls).length
  .ok ((r.modifyObject id fun o => { o with ordinal := count + 1, finalized := true }).modifyScope s
    (·.addMember id o.cls))

/-! ### Labels -/

/-- Refuses a label that is taken in a scope. -/
def requireFree (r : Registry K) (s : Nat) (label : String) : Except Failure Unit :=
  if (r.scope s).isTaken label then .error (.reference (.duplicateLabel label)) else .ok ()

/-- Gives a label to an object, whether or not the label is taken. -/
def recordLabel (r : Registry K) (s : Nat) (label : String) (id : Nat) : Registry K :=
  (r.modifyScope s fun sc => { sc with labels := sc.labels ++ [(label, id)] }).modifyObject id
    fun o => { o with label := some label }

/-- Gives a label to an object, and says what is wrong if it cannot have it. -/
def bindLabel (r : Registry K) (s : Nat) (label : String) (id : Nat) :
    Except Failure Unit × Registry K :=
  match r.requireFree s label with
  | .error e => (.error e, r)
  | .ok () => ((r.object id).map fun _ => (), r.recordLabel s label id)

/-- Gives a label to a point. -/
def bindPlace (r : Registry K) (s : Nat) (label : String) (p : Point K) :
    Except Failure (Registry K) := do
  r.requireFree s label
  .ok (r.modifyScope s fun sc => { sc with places := sc.places ++ [(label, p)] })

/-- A scope and those around it, from the innermost outward. -/
def enclosing (r : Registry K) (s : Nat) : List (Scope K) :=
  match r.scopes[s]? with
  | none => []
  | some sc =>
    match sc.parent with
    | none => [sc]
    | some p => if _h : p < s then sc :: enclosing r p else [sc]
termination_by s

/-- The object with a label, in the innermost of some scopes that knows the label. -/
def findLabel (label : String) : List (Scope K) → Except ReferenceError Nat
  | [] => .error (.unknownLabel label)
  | sc :: outer =>
    match sc.labels.lookup label with
    | some id => .ok id
    | none =>
      match sc.places.lookup label with
      | some _ => .error (.namesPlace label)
      | none => findLabel label outer

/-- The point with a label, in the innermost of some scopes that knows the label. -/
def findPlace (label : String) : List (Scope K) → Option (Point K)
  | [] => none
  | sc :: outer =>
    match sc.labels.lookup label with
    | some _ => none
    | none =>
      match sc.places.lookup label with
      | some p => some p
      | none => findPlace label outer

/-- The object with a label, looked up in one scope only or also in those around it. -/
def resolveLabel (r : Registry K) (s : Nat) (label : String) ( localOnly : Bool) :
    Except Failure Nat :=
  (findLabel label (if localOnly then [r.scope s] else r.enclosing s)).mapError .reference

/-- The point with a label, if the label is that of a point. -/
def resolvePlace (r : Registry K) (s : Nat) (label : String) : Option (Point K) :=
  findPlace label (r.enclosing s)

/-- The `n`-th object of a class, counted from the first or from the last. -/
def resolveOrdinal (r : Registry K) (s : Nat) (cls : ObjectClass) (n : Int) (fromLast : Bool) :
    Except Failure Nat :=
  let ids := (r.scope s).ofClass cls
  let counted := if fromLast then ids.reverse else ids
  match if 1 ≤ n then counted[(n - 1).toNat]? else none with
  | some id => .ok id
  | none => .error (.reference (.ordinalOutOfRange n cls fromLast ids.length))

/-- The latest object of a scope. -/
def previous (r : Registry K) (s : Nat) : Except Failure Nat :=
  match (r.scope s).members.getLast? with
  | some id => .ok id
  | none => .error (.reference .noPrevious)

/-! ### Groups -/

/-- Opens a scope inside another; it starts with the variables of the other. -/
def openScope (r : Registry K) (s : Nat) : Nat × Registry K :=
  (r.scopes.length,
    { r with scopes := r.scopes ++ [{ parent := some s, bindings := (r.scope s).bindings }] })

/-- Gives an object its members, if there is such an object. -/
def adopt (r : Registry K) (id : Nat) (children : List Nat) : Registry K :=
  if id < r.arena.length then
    let r := r.modifyObject id fun o => { o with children := children }
    children.foldl (fun r c => r.modifyObject c fun o => { o with parent := some id }) r
  else r

/-- Makes the members of a scope the members of an object.  A number without an object gets the
scope, but no members. -/
def attachScope (r : Registry K) (id s : Nat) : Registry K :=
  ({ r with attached := (id, s) :: r.attached }).adopt id (r.scope s).members

/-- The scope of a group. -/
def scopeOf (r : Registry K) (id : Nat) : Except Failure Nat :=
  match r.attached.lookup id with
  | some s => .ok s
  | none => do
    let o ← r.object id
    .error (.reference (.noChildren o.cls id))

/-- The members of an object and of the groups among them, each before its own members; groups
nested more than `depth` deep are left out. -/
def descendantsWithin (r : Registry K) : (depth : Nat) → (id : Nat) → List Nat
  | 0, _ => []
  | depth + 1, id =>
    match r.arena[id]? with
    | none => []
    | some o => o.children.flatMap fun c => c :: descendantsWithin r depth c

/-- The members of an object and of the groups among them, each before its own members. -/
def descendants (r : Registry K) (id : Nat) : List Nat := r.descendantsWithin r.arena.length id

/-- Creating an object leaves the scopes alone. -/
@[simp] theorem create_scopes (r : Registry K) (cls : ObjectClass) (d : Direction) :
    (r.create cls d).2.scopes = r.scopes := rfl

omit [Arith K] in
/-- A number without an object gets no members. -/
theorem attachScope_arena_of_le (r : Registry K) (id s : Nat) (h : r.arena.length ≤ id) :
    (r.attachScope id s).arena = r.arena := by
  simp [attachScope, adopt, Nat.not_lt.2 h]

/-- The number of a new object is the number of objects before it. -/
@[simp] theorem create_id (r : Registry K) (cls : ObjectClass) (d : Direction) :
    (r.create cls d).1 = r.arena.length := rfl

end Registry

end DiagramScript
