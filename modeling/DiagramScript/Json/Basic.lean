/-!
# JSON documents

* `Json` — a document; fields keep their order, and whole numbers are kept apart from
  other numbers.
* `Json.field?` — the parts of an object.
-/

namespace DiagramScript

/-- A JSON document over some type of numbers. -/
inductive Json (K : Type) where
  /-- The value `null`. -/
  | null
  /-- A truth value. -/
  | bool (b : Bool)
  /-- A whole number. -/
  | int (i : Int)
  /-- A number that need not be whole. -/
  | number (x : K)
  /-- A text. -/
  | str (s : String)
  /-- A list of documents. -/
  | array (items : List (Json K))
  /-- A list of documents with names. -/
  | object (fields : List (String × Json K))

namespace Json

variable {K : Type}

/-- A whole number that is not negative. -/
def nat (n : Nat) : Json K := int n

/-- A value that may be missing. -/
def optional {α : Type} (f : α → Json K) : Option α → Json K
  | none => null
  | some x => f x

/-- A list of values. -/
def list {α : Type} (f : α → Json K) (xs : List α) : Json K := array (xs.map f)

/-- The field of an object with the given name. -/
def field? : Json K → String → Option (Json K)
  | object fields, name => fields.lookup name
  | _, _ => none

end Json

end DiagramScript
