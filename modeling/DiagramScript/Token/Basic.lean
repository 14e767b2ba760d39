import DiagramScript.Diagnostic
import DiagramScript.Geometry.Anchor
import DiagramScript.LengthUnit
import DiagramScript.Object.Style

/-!
# Tokens

The words of the language.

* `TokenKind`, `Token` — a token with what it denotes, its text and its place.
* `keywords` — the words that cannot be names of variables.
* `operators` — the marks of punctuation, in the order in which they are tried;
  `operators_longest_first` says that none hides a longer one after it.
-/

namespace DiagramScript

/-! ## Tokens -/

/-- What a token denotes. -/
inductive TokenKind where
  /-- A word with a capital first letter. -/
  | label
  /-- Any other word. -/
  | word
  /-- A word after a dollar or at sign. -/
  | sigil
  /-- A number, perhaps with a unit. -/
  | number (value : Decimal) (unit : Option LengthUnit)
  /-- A percentage. -/
  | percent (value : Decimal)
  /-- A place in a sequence, such as `3rd`. -/
  | nth (n : Nat)
  /-- A string, without its quotes and escapes. -/
  | str (value : String)
  /-- The name of a colour, in small letters. -/
  | color (name : String)
  /-- A block, without its braces. -/
  | block (body : String)
  /-- A dot and the name of an anchor. -/
  | edge (anchor : Anchor)
  /-- Any other dot. -/
  | dot
  /-- An opening parenthesis. -/
  | lparen
  /-- A closing parenthesis. -/
  | rparen
  /-- An opening bracket. -/
  | lbracket
  /-- A closing bracket. -/
  | rbracket
  /-- A comma. -/
  | comma
  /-- A colon. -/
  | colon
  /-- An assignment, perhaps with an operation. -/
  | assign
  /-- A double equals sign. -/
  | equal
  /-- A plus sign. -/
  | plus
  /-- A minus sign. -/
  | minus
  /-- An asterisk. -/
  | star
  /-- A slash. -/
  | slash
  /-- A less-than sign. -/
  | less
  /-- A greater-than sign. -/
  | greater
  /-- An arrow with one head or two. -/
  | arrow
  /-- The end of a statement. -/
  | eol
  /-- The end of the script. -/
  | eof
  deriving DecidableEq, Repr

/-- A token: what it denotes, its text in the script, and its place. -/
structure Token where
  /-- What it denotes. -/
  kind : TokenKind
  /-- Its text. -/
  text : String
  /-- The place of its first character. -/
  pos : SourcePos
  deriving DecidableEq, Repr

namespace Token

/-- Whether the token is the given word. -/
def isWord (t : Token) (word : String) : Bool := t.kind = .word && t.text = word

/-- Whether the token ends a statement. -/
def isTerminator (t : Token) : Bool :=
  t.kind = .eol || t.kind = .eof || t.kind = .rbracket

theorem kind_of_isTerminator {t : Token} (h : t.isTerminator = true) :
    t.kind = .eol ∨ t.kind = .eof ∨ t.kind = .rbracket := by
  simpa [isTerminator, or_assoc] using h

/-- How a message shows the token when something else was expected. -/
def found (t : Token) : Found :=
  match t.kind with
  | .eof => .endOfInput
  | .eol => .endOfStatement
  | _ => .token t.text

/-- The token at another place. -/
def relocate (t : Token) (p : SourcePos) : Token := { t with pos := p }

end Token

/-! ## Vocabulary -/

/-- The words with a meaning of their own, besides those that declare objects. -/
def reservedWords : List String := [
  "right", "left", "up", "down",
  "width", "wid", "height", "ht", "radius", "rad", "diameter",
  "thickness", "thick", "thin", "fill", "color", "colour",
  "solid", "dotted", "dashed", "invisible", "invis",
  "at", "with", "same", "as", "fit",
  "from", "to", "then", "go", "heading", "until", "even", "chop",
  "close", "cw", "ccw",
  "above", "below", "ljust", "rjust", "center", "bold", "italic",
  "mono", "big", "small", "aligned",
  "of", "the", "way", "between", "and", "vertex", "in",
  "last", "previous",
  "print", "assert", "define",
  "n", "ne", "e", "se", "s", "sw", "w", "nw",
  "north", "south", "east", "west", "top", "bottom", "start", "end"]

/-- The words that cannot be names of variables. -/
def keywords : List String := ObjectClass.drawable.map ObjectClass.name ++ reservedWords

/-- Whether a word cannot be the name of a variable. -/
def isKeyword (word : String) : Bool := keywords.contains word

/-- The endings of ordinal numbers. -/
def ordinalEndings : List String := ["st", "nd", "rd", "th"]

/-- The marks of punctuation, in the order in which they are tried. -/
def operators : List (List Char × TokenKind) := [
  (['<', '-', '>'], .arrow), (['-', '>'], .arrow), (['<', '-'], .arrow),
  (['+', '='], .assign), (['-', '='], .assign), (['*', '='], .assign), (['/', '='], .assign),
  (['=', '='], .equal), (['='], .assign),
  (['('], .lparen), ([')'], .rparen), (['['], .lbracket), ([']'], .rbracket),
  ([','], .comma), ([':'], .colon),
  (['+'], .plus), (['-'], .minus), (['*'], .star), (['/'], .slash),
  (['<'], .less), (['>'], .greater)]

/-- No mark is tried before a longer one that starts with it. -/
theorem operators_longest_first :
    operators.Pairwise fun a b => ¬ (a.1.isPrefixOf b.1 = true ∧ a.1 ≠ b.1) := by
  decide

end DiagramScript
