import DiagramScript.Token.Scan

/-!
# Scanning step by step

The tokens of a text are found once more by recursion on a number of steps, of which there are
enough if there is one for every character.  So they can be computed for a text that is given.

* `scanSteps`, `faultSteps` — tokens and mistakes, and what is wrong with an ordinal number, that
  are found in so many steps.
* `scan_eq_steps`, `tokenize_eq_steps` — the tokens of a script are those that are found in as many
  steps as it has characters.
-/

namespace DiagramScript

variable (colors : ColorTable)

/-- The tokens and mistakes of a text that are found in some number of steps. -/
def scanSteps : Nat → SourcePos → List Char → List Token × List Diagnostic
  | n + 1, p, c :: cs =>
    let here := piece colors c cs
    let taken := c :: cs.take here.more
    let rest := scanSteps n (p.after taken) (cs.drop here.more)
    (here.kind.toList.map (fun k => ⟨k, String.ofList taken, p⟩) ++ rest.1,
      here.errors.map (fun e => ⟨.lex e.2, some (p.after (taken.take e.1))⟩) ++ rest.2)
  | _, p, _ => ([⟨.eof, "", p⟩], [])

/-- What is wrong with the first ordinal number of too many digits that is found in some number of
steps. -/
def faultSteps : Nat → List Char → Option Fault
  | n + 1, c :: cs =>
    if maxDigits < (piece colors c cs).digits then some (.tooManyDigits (piece colors c cs).digits)
    else faultSteps n (cs.drop (piece colors c cs).more)
  | _, _ => none

/-- A step leaves fewer characters than there were. -/
theorem length_drop_le_of_cons {c : Char} {cs : List Char} {n : Nat} (h : (c :: cs).length ≤ n + 1)
    (more : Nat) : (cs.drop more).length ≤ n := by
  rw [List.length_cons] at h
  rw [List.length_drop]
  omega

theorem scanFrom_eq_steps (p : SourcePos) {cs : List Char} {n : Nat} (h : cs.length ≤ n) :
    scanFrom colors p cs = scanSteps colors n p cs := by
  induction n generalizing p cs with
  | zero =>
    obtain rfl := List.length_eq_zero_iff.1 (Nat.le_zero.1 h)
    rw [scanFrom, scanSteps]
    simp
  | succ n ih =>
    cases cs with
    | nil =>
      rw [scanFrom, scanSteps]
      simp
    | cons c cs => rw [scanFrom, scanSteps, ih _ (length_drop_le_of_cons h _)]

theorem faultFrom_eq_steps {cs : List Char} {n : Nat} (h : cs.length ≤ n) :
    faultFrom colors cs = faultSteps colors n cs := by
  induction n generalizing cs with
  | zero =>
    obtain rfl := List.length_eq_zero_iff.1 (Nat.le_zero.1 h)
    rw [faultFrom, faultSteps]
    simp
  | succ n ih =>
    cases cs with
    | nil =>
      rw [faultFrom, faultSteps]
      simp
    | cons c cs => rw [faultFrom, faultSteps, ih (length_drop_le_of_cons h _)]

theorem scan_eq_steps (source : String) :
    scan colors source =
      match faultSteps colors source.toList.length source.toList with
      | some f => .error f
      | none => .ok (scanSteps colors source.toList.length .first source.toList) := by
  have enough := Nat.le_refl source.toList.length
  have faults := faultFrom_eq_steps colors enough
  have pieces := scanFrom_eq_steps colors .first enough
  cases h : faultSteps colors source.toList.length source.toList with
  | some f => simp only [scan, faults, h]
  | none => simp only [scan, faults, pieces, h]

theorem tokenize_eq_steps (source : String) :
    tokenize colors source =
      match faultSteps colors source.toList.length source.toList,
        scanSteps colors source.toList.length .first source.toList with
      | some f, _ => .error (.fault f)
      | none, (_, e :: _) => .error (.mistake e)
      | none, (ts, []) => .ok ts := by
  rw [tokenize, scan_eq_steps]
  generalize scanSteps colors source.toList.length .first source.toList = r
  cases faultSteps colors source.toList.length source.toList with
  | some f => rfl
  | none =>
    obtain ⟨ts, - | ⟨e, es⟩⟩ := r
    · rfl
    · rfl

end DiagramScript
