import DiagramScript.Script.Expression
import DiagramScript.Token.Basic

/-!
# Reading tokens one after the other

Statements are read from the list of the tokens that are left.  Whatever is read
comes back together with the tokens after it, and with the proof that there are fewer
of them than before, so that reading always ends.

* `Reader` — what reading depends on: the colour table, and the token at the end of
  the script, which is never used up.
* `Parsed` — something read, and the tokens after it: `Parsed.single` takes one token,
  `Parsed.unread` none; `Parsed.after` and `Parsed.following` count from further back.
* `readObjectRef`, `readPlace` — references to objects, and the positions that are
  named by one.
-/

namespace DiagramScript

/-! ## Readers -/

/-- What reading depends on. -/
structure Reader where
  /-- The colours, which may be named by capitalised words too. -/
  colors : ColorTable
  /-- The token at the end of the script. -/
  final : Token

/-- Something read, and the tokens after it, of which there are fewer than `bound`. -/
structure Parsed (α : Type) (bound : Nat) where
  /-- What was read. -/
  value : α
  /-- The tokens after it. -/
  rest : List Token
  /-- There are fewer than before. -/
  shorter : rest.length < bound

namespace Parsed

variable {α β : Type} {m n : Nat}

/-- The same, with a larger bound. -/
def widen (r : Parsed α m) (h : m ≤ n) : Parsed α n :=
  ⟨r.value, r.rest, Nat.lt_of_lt_of_le r.shorter h⟩

/-- Something else made of what was read. -/
def map (f : α → β) (r : Parsed α n) : Parsed β n := ⟨f r.value, r.rest, r.shorter⟩

/-- What a single token makes up. -/
def single (value : α) (t : Token) (rest : List Token) : Parsed α (t :: rest).length :=
  ⟨value, rest, Nat.lt_succ_self _⟩

/-- What no token makes up: all of them are left. -/
def unread (value : α) (ts : List Token) : Parsed α (ts.length + 1) :=
  ⟨value, ts, Nat.lt_succ_self _⟩

/-- The same, with the next larger bound. -/
def weaken (r : Parsed α n) : Parsed α (n + 1) := r.widen (Nat.le_succ n)

/-- The same, after one more token. -/
def after {ts : List Token} (t : Token) (r : Parsed α ts.length) : Parsed α (t :: ts).length :=
  r.weaken

/-- The same, after a token that was dropped if there was one. -/
def afterDrop {ts : List Token} (r : Parsed α (ts.drop 1).length) : Parsed α (ts.length + 1) :=
  r.widen (by simp only [List.length_drop]; omega)

/-- The same, after something else that was read. -/
def following (first : Parsed α n) (r : Parsed β first.rest.length) : Parsed β n :=
  r.widen (Nat.le_of_lt first.shorter)

/-- The same, after something else that was read; it may have used no token itself. -/
def continuing (first : Parsed α n) (r : Parsed β (first.rest.length + 1)) : Parsed β n :=
  r.widen first.shorter

/-- Behind the first token that is left there are still fewer. -/
theorem length_lt_of_rest {r : Parsed α n} {t : Token} {ts : List Token}
    (h : r.rest = t :: ts) : ts.length < n := by
  have := r.shorter
  rw [h] at this
  exact Nat.lt_of_succ_lt this

/-- What was read and the tokens after it, without the proof. -/
def plain (r : Parsed α n) : α × List Token := (r.value, r.rest)

@[simp] theorem plain_widen (r : Parsed α m) (h : m ≤ n) : (r.widen h).plain = r.plain := rfl

@[simp] theorem plain_map (f : α → β) (r : Parsed α n) :
    (r.map f).plain = (f r.value, r.rest) := rfl

@[simp] theorem plain_single (x : α) (t : Token) (rest : List Token) :
    (single x t rest).plain = (x, rest) := rfl

@[simp] theorem plain_unread (x : α) (ts : List Token) : (unread x ts).plain = (x, ts) := rfl

@[simp] theorem plain_weaken (r : Parsed α n) : r.weaken.plain = r.plain := rfl

@[simp] theorem plain_after {ts : List Token} (t : Token) (r : Parsed α ts.length) :
    (r.after t).plain = r.plain := rfl

@[simp] theorem plain_afterDrop {ts : List Token} (r : Parsed α (ts.drop 1).length) :
    r.afterDrop.plain = r.plain := rfl

@[simp] theorem plain_following (first : Parsed α n) (r : Parsed β first.rest.length) :
    (first.following r).plain = r.plain := rfl

@[simp] theorem plain_continuing (first : Parsed α n) (r : Parsed β (first.rest.length + 1)) :
    (first.continuing r).plain = r.plain := rfl

end Parsed

/-- A reader's answer: something read, or a mistake. -/
abbrev Reading (α : Type) (bound : Nat) := Except Diagnostic (Parsed α bound)

/-- A mistake at a token. -/
def grammarError (t : Token) (e : ParseError) : Diagnostic := ⟨.parse e, some t.pos⟩

/-- The mistake of a token that stands where something else is expected. -/
def unexpected (t : Token) (what : Expected) : Diagnostic :=
  grammarError t (.unexpected what t.found)

namespace Reader

variable (g : Reader)

/-! ## Looking ahead -/

/-- The next token. -/
def peek (ts : List Token) : Token := ts.head?.getD g.final

/-- The token after the next. -/
def peekSecond (ts : List Token) : Token := ts[1]?.getD g.final

/-- The token after that. -/
def peekThird (ts : List Token) : Token := ts[2]?.getD g.final

/-! ## Single tokens -/

/-- Reads a token that satisfies a test. -/
def readToken (ok : Token → Bool) (what : Expected) (ts : List Token) :
    Reading Token ts.length :=
  match ts with
  | [] => .error (unexpected g.final what)
  | t :: rest => if ok t then .ok (.single t t rest) else .error (unexpected t what)

/-- Reads a mark of punctuation. -/
def readMark (kind : TokenKind) (mark : String) (ts : List Token) : Reading Token ts.length :=
  g.readToken (·.kind = kind) (.exactly mark) ts

/-- Reads a word. -/
def readWord (word : String) (ts : List Token) : Reading Token ts.length :=
  g.readToken (·.isWord word) (.exactly word) ts

/-- The tokens after a word, if it stands next, and otherwise all tokens. -/
def skipWord (word : String) : List Token → List Token
  | [] => []
  | t :: rest => if t.isWord word then rest else t :: rest

theorem length_skipWord_le (word : String) (ts : List Token) :
    (skipWord word ts).length ≤ ts.length := by
  cases ts with
  | nil => exact Nat.le_refl _
  | cons t rest =>
    rw [skipWord]
    split
    · exact Nat.le_succ _
    · exact Nat.le_refl _

/-! ## References to objects -/

/-- Reads the class of an object: a word, or a pair of brackets. -/
def readClass (ts : List Token) : Reading ObjectClass ts.length :=
  match ts with
  | [] => .error (unexpected g.final .className)
  | t :: rest =>
    match t.kind with
    | .word =>
      match ObjectClass.ofKeyword? t.text with
      | some cls => .ok (.single cls t rest)
      | none => .error (unexpected t .className)
    | .lbracket =>
      match rest with
      | u :: rest' =>
        if u.kind = .rbracket then .ok ((Parsed.single .container u rest').after t)
        else .error (unexpected t .className)
      | [] => .error (unexpected t .className)
    | _ => .error (unexpected t .className)

/-- Reads a place in a sequence: `3rd`, `3rd last` or `last`; the second component says whether
it is counted from the last.  Without any of them nothing is read. -/
def readOrdinal? (ts : List Token) : Option (Parsed (Nat × Bool) ts.length) :=
  match ts with
  | [] => none
  | t :: rest =>
    match t.kind with
    | .nth n =>
      match rest with
      | u :: rest' =>
        if u.isWord "last" then some ((Parsed.single (n, true) u rest').after t)
        else some (.single (n, false) t (u :: rest'))
      | [] => some (.single (n, false) t [])
    | _ => if t.isWord "last" then some (.single (1, true) t rest) else none

/-- Reads labels of members, each after a dot. -/
def readMembers (pos : SourcePos) (group : ObjectRef) (ts : List Token) :
    Parsed ObjectRef (ts.length + 1) :=
  match ts with
  | d :: l :: rest =>
    if d.kind = .dot ∧ l.kind = .label then
      (readMembers pos (.member pos group l.pos (.label l.text)) rest).widen (by simp)
    else .unread group (d :: l :: rest)
  | ts => .unread group ts

/-- Reads a reference to an object. -/
def readObjectRef (ts : List Token) : Reading ObjectRef ts.length :=
  match ts with
  | [] => .error (unexpected g.final .objectReference)
  | t :: rest =>
    if t.kind = .label then
      .ok ((readMembers t.pos (.select t.pos (.label t.text)) rest).widen (by simp))
    else if t.isWord "previous" then
      .ok ((readMembers t.pos (.previous t.pos) rest).widen (by simp))
    else
      match readOrdinal? (t :: rest) with
      | none => .error (unexpected t .objectReference)
      | some place => do
        have := place.shorter
        let cls ← g.readClass place.rest
        have := cls.shorter
        let selector := Selector.ordinal cls.value place.value.1 place.value.2
        match hr : cls.rest with
        | u :: more =>
          if u.isWord "in" then do
            let group ← readObjectRef more
            have := group.shorter
            have : more.length < cls.rest.length := by rw [hr]; simp
            .ok ((readMembers t.pos (.member t.pos group.value t.pos selector) group.rest).widen
              (by omega))
          else
            .ok ((readMembers t.pos (.select t.pos selector) cls.rest).widen (by omega))
        | [] => .ok ⟨.select t.pos selector, cls.rest, by omega⟩
termination_by ts.length
decreasing_by
  have : more.length < cls.rest.length := by rw [hr]; simp
  omega

/-! ## Positions named by an object -/

/-- The words for anchors that may stand before `of`. -/
def anchorWords : List String :=
  ["n", "ne", "e", "se", "s", "sw", "w", "nw", "north", "south", "east", "west", "top", "bottom",
    "start", "end", "center"]

/-- The anchor that a token names. -/
def anchorOf? (t : Token) : Option Anchor :=
  match t.kind with
  | .edge a => some a
  | .word => if anchorWords.contains t.text then Anchor.ofWord? t.text else none
  | _ => none

/-- Reads the name of an anchor. -/
def readAnchor (ts : List Token) : Reading Anchor ts.length :=
  match ts with
  | [] => .error (unexpected g.final .anchorName)
  | t :: rest =>
    match anchorOf? t with
    | some a => .ok (.single a t rest)
    | none => .error (unexpected t .anchorName)

/-- Reads `vertex of` and an object after a place in a sequence; if the word is missing, nothing
is read. -/
def readVertex (pos : SourcePos) (place : Nat × Bool) (ts : List Token) :
    Except Diagnostic (Option (Parsed Position ts.length)) :=
  match ts with
  | [] => .ok none
  | t :: rest =>
    if t.isWord "vertex" then do
      let ofWord ← g.readWord "of" rest
      let ref ← g.readObjectRef ofWord.rest
      .ok (some ((ofWord.following (ref.map fun r => .vertex pos place.1 r place.2)).after t))
    else .ok none

/-- Reads an object as a position, perhaps with an anchor after it. -/
def readObjectPlace (pos : SourcePos) (ts : List Token) : Reading Position ts.length := do
  let ref ← g.readObjectRef ts
  match hr : ref.rest with
  | t :: rest =>
    match t.kind with
    | .edge a =>
      .ok ⟨.object pos ref.value (some a), rest, Parsed.length_lt_of_rest hr⟩
    | _ => .ok (ref.map fun r => .object pos r none)
  | [] => .ok (ref.map fun r => .object pos r none)

/-- Reads a position that is named by an object: an anchor of it, a point of its path, or the
object itself. -/
def readPlace (ts : List Token) : Reading Position ts.length :=
  match ts with
  | [] => .error (unexpected g.final .objectReference)
  | t :: rest =>
    match anchorOf? t, (g.peek rest).isWord "of" with
    | some a, true => do
      let ref ← g.readObjectRef (rest.drop 1)
      .ok (ref.map fun r => .object t.pos r (some a)).afterDrop
    | _, _ =>
      match readOrdinal? (t :: rest) with
      | some place => do
        have := place.shorter
        match ← g.readVertex t.pos place.value place.rest with
        | some v => .ok (v.widen (by omega))
        | none => g.readObjectPlace t.pos (t :: rest)
      | none => g.readObjectPlace t.pos (t :: rest)

end Reader

end DiagramScript
