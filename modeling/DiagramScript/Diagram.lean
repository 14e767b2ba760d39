import DiagramScript.Execution
import DiagramScript.Script.Program

/-!
# Diagrams

What a script draws: the objects it leaves behind, its variables and its messages.

* `Diagram.compile` — from the text of a script to its diagram.
* `Diagram.allObjects` — every object, each group before its members.
* `Diagram.find?` — the object of the top level with a label.
* `Diagram.box` — the bounding box of what can be drawn.
-/

namespace DiagramScript

variable {K : Type} [Arith K]

/-- What a script draws. -/
structure Diagram (K : Type) where
  /-- The objects and scopes. -/
  registry : Registry K
  /-- What was printed. -/
  messages : List String

namespace Diagram

/-! ## From scripts to diagrams -/

/-- The diagram of a drawing as far as it has come. -/
def ofDrawing (d : Drawing K) : Diagram K := { registry := d.registry, messages := d.messages }

/-- The diagram that some statements draw, if none of them fails. -/
def ofStatements (t : Resources K) (ss : List Statement) : Except Failure (Diagram K) :=
  match run t Drawing.initial ss with
  | (.ok (), d) => .ok (ofDrawing d)
  | (.error e, _) => .error e

/-- The diagram of a script. -/
def compile (t : Resources K) (source : String) : Except Failure (Diagram K) := do
  let statements ← Program.ofSource t.colors source
  ofStatements t statements

/-! ## What a diagram holds -/

/-- The numbers of the objects of the top level. -/
def top (d : Diagram K) : List Nat := (d.registry.scope 0).members

/-- The objects of the top level. -/
def objects (d : Diagram K) : List (Object K) := d.registry.objects d.top

/-- The variables of the top level. -/
def bindings (d : Diagram K) : Variables K := (d.registry.scope 0).bindings

/-- The value of a variable of the top level, or else a decimal fraction. -/
def variableOr (d : Diagram K) (name : String) (mantissa places : Nat) : K :=
  (d.bindings.get? name).getD (Arith.dec mantissa places)

/-- An object by its number. -/
def object? (d : Diagram K) (id : Nat) : Option (Object K) := d.registry.arena[id]?

/-- All objects, each followed by those it contains. -/
def allObjects (d : Diagram K) : List (Object K) :=
  d.registry.objects (d.top.flatMap fun id => id :: d.registry.descendants id)

/-- The first object of the top level with a label. -/
def find? (d : Diagram K) (label : String) : Option (Object K) :=
  d.objects.find? (·.label == some label)

/-- Whether an object counts for the extent of the drawing. -/
def isDrawn (o : Object K) : Bool := o.cls ≠ .container && !o.style.invisible

/-- The bounding box of all objects but groups and invisible ones. -/
def box (d : Diagram K) : Option (Box K) :=
  Box.mergeAll none ((d.allObjects.filter isDrawn).map (·.box))

/-- A script without statements draws nothing. -/
@[simp] theorem ofStatements_nil (t : Resources K) :
    ofStatements t [] = .ok (ofDrawing Drawing.initial) := rfl

end Diagram

end DiagramScript
