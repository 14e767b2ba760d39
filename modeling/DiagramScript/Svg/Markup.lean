/-!
# Markup

Elements with attributes, which hold either other elements or a text.

* `Markup` — an element and all it holds.
* `Markup.escapeText`, `Markup.escapeAttribute` — characters that would be taken for
  markup: `escapeText_of_plain` says that all other texts stay as they are.
* `Markup.print` — the text of a document, with every element that is in another on a
  line of its own.
-/

namespace DiagramScript

/-- An element. -/
inductive Markup where
  /-- An element that holds other elements. -/
  | node (tag : String) (attributes : List (String × String)) (children : List Markup)
  /-- An element that holds a text. -/
  | text (tag : String) (attributes : List (String × String)) (content : String)

namespace Markup

/-! ## Escapes -/

/-- A character of a text. -/
def escapeTextChar (c : Char) : List Char :=
  if c = '&' then "&amp;".toList
  else if c = '<' then "&lt;".toList
  else if c = '>' then "&gt;".toList
  else [c]

/-- A character of the value of an attribute. -/
def escapeAttributeChar (c : Char) : List Char :=
  if c = '"' then "&quot;".toList
  else if c = '\r' then "&#13;".toList
  else if c = '\n' then "&#10;".toList
  else if c = '\t' then "&#09;".toList
  else escapeTextChar c

/-- A text inside an element. -/
def escapeText (s : String) : List Char := s.toList.flatMap escapeTextChar

/-- The value of an attribute, inside quotes. -/
def escapeAttribute (s : String) : List Char := s.toList.flatMap escapeAttributeChar

/-- A text without marks of markup stays as it is. -/
theorem escapeText_of_plain {s : String} (h : ∀ c ∈ s.toList, c ≠ '&' ∧ c ≠ '<' ∧ c ≠ '>') :
    escapeText s = s.toList := by
  unfold escapeText
  generalize s.toList = cs at h ⊢
  induction cs with
  | nil => rfl
  | cons c cs ih =>
    obtain ⟨h1, h2, h3⟩ := h c (by simp)
    rw [List.flatMap_cons, ih fun d hd => h d (by simp [hd])]
    simp [escapeTextChar, h1, h2, h3]

/-! ## Printing -/

/-- An attribute. -/
def printAttribute (a : String × String) : List Char :=
  ' ' :: (a.1.toList ++ ['=', '"'] ++ escapeAttribute a.2 ++ ['"'])

/-- A tag that opens an element, but for the end of it. -/
def printOpening (tag : String) (attributes : List (String × String)) : List Char :=
  '<' :: (tag.toList ++ attributes.flatMap printAttribute)

/-- A tag that closes an element. -/
def printClosing (tag : String) : List Char := ['<', '/'] ++ tag.toList ++ ['>']

/-- The start of a line, indented by two blanks for every level. -/
def lineStart (depth : Nat) : List Char := '\n' :: List.replicate (2 * depth) ' '

mutual

/-- The text of an element that stands at some depth. -/
def printAt (depth : Nat) : Markup → List Char
  | node tag attributes [] => printOpening tag attributes ++ [' ', '/', '>']
  | node tag attributes (m :: ms) =>
    printOpening tag attributes ++ ['>'] ++ printAllAt (depth + 1) (m :: ms)
      ++ lineStart depth ++ printClosing tag
  | text tag attributes content =>
    if content.isEmpty then printOpening tag attributes ++ [' ', '/', '>']
    else printOpening tag attributes ++ ['>'] ++ escapeText content ++ printClosing tag

/-- The text of several elements, each on a line of its own. -/
def printAllAt (depth : Nat) : List Markup → List Char
  | [] => []
  | m :: ms => lineStart depth ++ printAt depth m ++ printAllAt depth ms

end

/-- The text of a document. -/
def print (m : Markup) : String := String.ofList (printAt 0 m)

end Markup

end DiagramScript
