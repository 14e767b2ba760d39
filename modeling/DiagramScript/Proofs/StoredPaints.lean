import Mathlib
import DiagramScript.Draft
import DiagramScript.Proofs.LeadingNumbers
import DiagramScript.Proofs.PrintedNumbers
import DiagramScript.Proofs.StatementSteps

/-!
# Paints that are carried as numbers

In an expression a colour is a number that holds its three channels, and no paint is minus one.  The
clauses `fill` and `color` make a paint of such a number again.

* `Rgb.InRange`, `Paint.InRange`, `ColorTable.InRange` — the channels have eight bits each;
  `ColorTable.standard_inRange`.
* `Paint.toNumber_some`, `Paint.ofInteger_natCast` — packing and unpacking as arithmetic.
* `Paint.ofInteger_toNumber`, `Paint.toNumber_ofInteger` — there and back, and back and there.
* `Binary64.integerPart_eq` — the integer part of a machine number is rounded towards zero, and
  `MachineNumber.truncate_ofInt` — small integers come back from machine numbers.
* `Draft.applyClause_fill`, `Draft.applyClause_color` — what the two clauses store.
* `Reader.plain_readAttribute_fill`, `Reader.plain_readAttribute_color` — how they are read.
* `Paint.converts` — all of it.
-/

namespace DiagramScript

/-! ## Channels -/

/-- Whether the channels of a colour have eight bits each. -/
def Rgb.InRange (c : Rgb) : Prop := c.red < 0x100 ∧ c.green < 0x100 ∧ c.blue < 0x100

instance (c : Rgb) : Decidable c.InRange := inferInstanceAs (Decidable (_ ∧ _))

namespace Paint

/-- Whether a paint is none, or a colour whose channels have eight bits each. -/
def InRange : Paint → Prop
  | none => True
  | some c => c.InRange

instance (p : Paint) : Decidable p.InRange :=
  match p with
  | none => isTrue trivial
  | some c => inferInstanceAs (Decidable c.InRange)

/-- Three channels side by side. -/
theorem toNumber_some {c : Rgb} (h : c.InRange) :
    toNumber (some c) = (c.red * 0x10000 + c.green * 0x100 + c.blue : Nat) := by
  obtain ⟨-, green, blue⟩ := h
  have low : c.green <<< 8 < 2 ^ 16 := by
    rw [Nat.shiftLeft_eq]
    omega
  have upper : c.red <<< 16 ||| c.green <<< 8 = (c.red * 0x100 + c.green) <<< 8 := by
    rw [← Nat.shiftLeft_add_eq_or_of_lt low, Nat.shiftLeft_eq, Nat.shiftLeft_eq, Nat.shiftLeft_eq]
    omega
  have all : c.red <<< 16 ||| c.green <<< 8 ||| c.blue =
      c.red * 0x10000 + c.green * 0x100 + c.blue := by
    rw [upper, ← Nat.shiftLeft_add_eq_or_of_lt blue, Nat.shiftLeft_eq]
    omega
  rw [toNumber, all]

/-- The colour of a natural number, channel by channel. -/
theorem ofInteger_natCast (n : Nat) :
    ofInteger n = some ⟨n / 0x10000 % 0x100, n / 0x100 % 0x100, n % 0x100⟩ := by
  have above : ¬ (n : Int) < 0 := by omega
  have red : n % 0x1000000 / 0x10000 = n / 0x10000 % 0x100 := by omega
  have green : n % 0x1000000 / 0x100 % 0x100 = n / 0x100 % 0x100 := by omega
  have blue : n % 0x1000000 % 0x100 = n % 0x100 := by omega
  simp only [ofInteger, if_neg above, Int.toNat_natCast, red, green, blue]

/-- The channels are cut out by shifts and masks. -/
theorem ofInteger_masks (n : Nat) :
    ofInteger n = some ⟨n >>> 16 &&& 0xFF, n >>> 8 &&& 0xFF, n &&& 0xFF⟩ := by
  have mask (k : Nat) : k &&& 0xFF = k % 0x100 := Nat.and_two_pow_sub_one_eq_mod k 8
  rw [ofInteger_natCast, mask, mask, mask, Nat.shiftRight_eq_div_pow, Nat.shiftRight_eq_div_pow]

/-- Whatever an integer stands for has channels of eight bits. -/
theorem ofInteger_inRange (i : Int) : (ofInteger i).InRange := by
  rcases Int.lt_or_le i 0 with below | above
  · rw [ofInteger_of_neg below]
    exact trivial
  · obtain ⟨n, rfl⟩ := Int.eq_ofNat_of_zero_le above
    rw [ofInteger_natCast]
    exact ⟨Nat.mod_lt _ (by decide), Nat.mod_lt _ (by decide), Nat.mod_lt _ (by decide)⟩

end Paint

/-- Whether all paints of a table are in range. -/
def ColorTable.InRange (t : ColorTable) : Prop :=
  ∀ name p, t.resolve name = some p → Paint.InRange p

/-- Those of the standard table are. -/
theorem ColorTable.standard_inRange : standard.InRange := by
  intro name p h
  obtain ⟨before, after, entries, -⟩ := List.lookup_eq_some_iff.1 (Option.join_eq_some_iff.1 h)
  have entry := entries.symm ▸ List.mem_append_right before (List.mem_cons_self ..)
  rcases List.mem_append.1 entry with nothing | named
  · obtain ⟨_, -, same⟩ := List.mem_map.1 nothing
    obtain rfl := Option.some.inj (Prod.mk.inj same).2
    exact trivial
  · obtain ⟨e, -, same⟩ := List.mem_map.1 named
    obtain rfl := Option.some.inj (Prod.mk.inj same).2
    exact Paint.ofInteger_inRange e.2

/-! ## There and back -/

namespace Paint

/-- The number of a paint is small. -/
theorem toNumber_bounds {p : Paint} (h : p.InRange) : -1 ≤ p.toNumber ∧ p.toNumber < 2 ^ 24 := by
  cases p with
  | none => exact ⟨le_rfl, by decide⟩
  | some c =>
    rw [toNumber_some h]
    obtain ⟨red, green, blue⟩ := h
    omega

/-- A paint comes back from its number. -/
theorem ofInteger_toNumber {p : Paint} (h : p.InRange) : ofInteger p.toNumber = p := by
  cases p with
  | none => rfl
  | some c =>
    rw [toNumber_some h, ofInteger_natCast]
    obtain ⟨r, g, b⟩ := c
    obtain ⟨red, green, blue⟩ := h
    dsimp only at red green blue ⊢
    have r' : (r * 0x10000 + g * 0x100 + b) / 0x10000 % 0x100 = r := by omega
    have g' : (r * 0x10000 + g * 0x100 + b) / 0x100 % 0x100 = g := by omega
    have b' : (r * 0x10000 + g * 0x100 + b) % 0x100 = b := by omega
    rw [r', g', b']

/-- An integer comes back from its paint without what lies above the three channels, and every
negative integer as minus one. -/
theorem toNumber_ofInteger (i : Int) :
    toNumber (ofInteger i) = if 0 ≤ i then i % 2 ^ 24 else -1 := by
  rcases Int.lt_or_le i 0 with below | above
  · rw [ofInteger_of_neg below, if_neg (Int.not_le.2 below)]
    rfl
  · obtain ⟨n, rfl⟩ := Int.eq_ofNat_of_zero_le above
    have bytes := ofInteger_inRange n
    rw [ofInteger_natCast] at bytes ⊢
    rw [toNumber_some bytes, if_pos above]
    dsimp only
    omega

/-- The paint of an integer that is not negative depends on the lowest twenty-four bits only. -/
theorem ofInteger_emod {i : Int} (h : 0 ≤ i) : ofInteger i = ofInteger (i % 2 ^ 24) := by
  obtain ⟨n, rfl⟩ := Int.eq_ofNat_of_zero_le h
  exact (ofInteger_mod n).symm

end Paint

/-! ## Machine numbers and their integer parts -/

namespace Binary64

variable {x : Float}

/-- The integer part of a machine number is rounded towards zero. -/
theorem integerPart_eq (h : Arith.isFinite x = true) :
    Arith.integerPart x = if 0 ≤ exact x then ⌊exact x⌋ else ⌈exact x⌉ := by
  obtain ⟨negative, m, e, taken, -⟩ := parts_of_isFinite h
  obtain ⟨positive, value⟩ := toQuotient_value m e
  have whole : ⌊(m * 2 ^ e : ℚ)⌋ = ((toQuotient m e).1 / (toQuotient m e).2 : Nat) := by
    rw [← value]
    have floor := Rat.floor_intCast_div_natCast (toQuotient m e).1 (toQuotient m e).2
    rwa [Int.cast_natCast, ← Int.natCast_div] at floor
  have size : (0 : ℚ) ≤ m * 2 ^ e := by positivity
  show truncate x = _
  rw [truncate, exact, taken]
  dsimp only
  rw [← whole]
  cases negative with
  | false => simp [size]
  | true =>
    rcases size.eq_or_lt with zero | some
    · simp [← zero]
    · simp [Int.ceil_neg, not_le.2 some]

end Binary64

namespace MachineNumber

/-- A small integer is a machine number, and its own integer part. -/
theorem truncate_ofInt {i : Int} (h : i.natAbs < 2 ^ 53) :
    Arith.isFinite (Arith.ofInt i : MachineNumber) = true ∧
      Arith.truncate (Arith.ofInt i : MachineNumber) = .ok i := by
  obtain ⟨finite, value⟩ := Binary64.exact_ofInt (n := i) (Nat.mul_one _).symm h (Nat.zero_le _)
  have marked : Arith.isFinite (Arith.ofInt i : MachineNumber) = true := finite
  have part : Arith.integerPart (Arith.ofInt i : Float) = i := by
    rw [Binary64.integerPart_eq finite, value, Int.floor_intCast, Int.ceil_intCast, ite_self]
  refine ⟨marked, ?_⟩
  rw [Arith.truncate, Arith.finite, if_pos marked]
  exact congrArg Except.ok part

end MachineNumber

namespace Paint

/-- Of a machine number that is not negative only the lowest twenty-four bits of the integer part
matter. -/
theorem ofNumber_eq {x : MachineNumber} (h : Arith.isFinite x = true) (above : 0 ≤ x.exact) :
    ofNumber x = .ok (ofInteger (⌊x.exact⌋ % 2 ^ 24)) := by
  have part : Arith.integerPart x = ⌊x.exact⌋ :=
    (Binary64.integerPart_eq h).trans (if_pos above)
  rw [ofNumber, Arith.truncate, Arith.finite, if_pos h, ← ofInteger_emod (Int.floor_nonneg.2 above),
    ← part]
  rfl

/-- What is not finite has no integer part, and is no paint. -/
theorem ofNumber_of_not_isFinite {x : MachineNumber} (h : Arith.isFinite x = false) :
    ∃ fault, ofNumber x = .error fault := by
  rw [ofNumber, Arith.truncate, Arith.finite, if_neg (Bool.eq_false_iff.1 h)]
  split_ifs
  · exact ⟨_, rfl⟩
  · exact ⟨_, rfl⟩

/-- A paint comes back from its number when that is carried as a machine number. -/
theorem ofNumber_toNumber {p : Paint} (h : p.InRange) :
    Arith.isFinite (Arith.ofInt p.toNumber : MachineNumber) = true ∧
      ofNumber (Arith.ofInt p.toNumber : MachineNumber) = .ok p := by
  have bounds := toNumber_bounds h
  obtain ⟨finite, part⟩ := MachineNumber.truncate_ofInt (i := p.toNumber) (by omega)
  refine ⟨finite, ?_⟩
  rw [ofNumber, part]
  exact congrArg Except.ok (ofInteger_toNumber h)

end Paint

/-! ## Clauses -/

variable {v : View MachineNumber} {name : String} {p : Paint}

/-- The value of the name of a colour. -/
theorem View.scalar_color (found : v.colors.resolve name = some p) (small : p.InRange)
    (pos : SourcePos) : v.scalar (.color pos name) = .ok (Arith.ofInt p.toNumber) := by
  have value : v.colors.value? name = some p.toNumber := by
    rw [ColorTable.value?, found]
    rfl
  rw [View.scalar, View.colorNumber, value, View.settle]
  dsimp only [Except.bind]
  rw [if_pos (Paint.ofNumber_toNumber small).1]
  rfl

namespace Draft

variable {d : Draft MachineNumber}

/-- What is stored for an area that is filled with a named colour. -/
theorem applyClause_fill (found : v.colors.resolve name = some p) (small : p.InRange)
    (pos : SourcePos) : d.applyClause v (.fill (.color pos name)) =
      .ok (d.modifyStyle fun s => { s with fill := p }) := by
  rw [applyClause, View.scalar_color found small, ok_bind, (Paint.ofNumber_toNumber small).2]
  rfl

/-- What is stored for a line that is drawn in a named colour. -/
theorem applyClause_color (found : v.colors.resolve name = some p) (small : p.InRange)
    (pos : SourcePos) : d.applyClause v (.color (.color pos name)) =
      .ok (d.modifyStyle fun s => { s with color := p }) := by
  rw [applyClause, View.scalar_color found small, ok_bind, (Paint.ofNumber_toNumber small).2]
  rfl

end Draft

/-! ## Reading the clauses -/

namespace Reader

variable {g : Reader}

/-- The name of the colour that a token stands for in an expression, given the token after it. -/
def colorName? (g : Reader) (t following : Token) : Option String :=
  match t.kind with
  | .color name => some name
  | .label => if g.namesColor t following then some (lowercase t.text) else none
  | _ => none

variable {w t next : Token}

/-- The name of a colour that no operator follows is an expression by itself. -/
theorem plain_readExpression_color (named : g.colorName? t next = some name)
    (apart : isOperator next.kind = false) (ts : List Token) :
    (g.readExpression (t :: next :: ts)).plain = .ok (.color t.pos name, next :: ts) := by
  refine plain_readExpression_of_apart ?_ apart
  rw [plain_readSigned_cons, plain_readPrimary_cons, peek_cons]
  unfold colorName? at named
  cases kind : t.kind <;> rw [kind] at named <;> dsimp only at named ⊢
  case color =>
    obtain rfl := Option.some.inj named
    rfl
  case label =>
    split_ifs at named ⊢
    obtain rfl := Option.some.inj named
    rfl
  all_goals cases named

/-- After `fill`, the name of a colour makes the clause that stores it. -/
theorem plain_readAttribute_fill (word : w.isWord "fill" = true)
    (named : g.colorName? t next = some name) (apart : isOperator next.kind = false)
    (before : Clauses) (ts : List Token) :
    (g.readAttribute before (w :: t :: next :: ts)).plain =
      .ok (before ++ [⟨w.pos, .fill (.color t.pos name)⟩], next :: ts) := by
  obtain ⟨kind, text⟩ := Token.isWord_iff.1 word
  have clause : Reading.plain? (g.readWordClause w (t :: next :: ts)) =
      .ok (some (.fill (.color t.pos name), next :: ts)) := by
    rw [plain?_readWordClause, text]
    show (do
      let v ← (g.readExpression (t :: next :: ts)).plain
      .ok (some (Clause.fill v.1, v.2))) = _
    rw [plain_readExpression_color named apart, ok_bind]
  exact plain_readAttribute_of_clause kind clause before

/-- After `color`, in either spelling, it makes the other one. -/
theorem plain_readAttribute_color (word : w.isWord "color" = true ∨ w.isWord "colour" = true)
    (named : g.colorName? t next = some name) (apart : isOperator next.kind = false)
    (before : Clauses) (ts : List Token) :
    (g.readAttribute before (w :: t :: next :: ts)).plain =
      .ok (before ++ [⟨w.pos, .color (.color t.pos name)⟩], next :: ts) := by
  have kind : w.kind = .word := by
    rcases word with word | word
    all_goals exact (Token.isWord_iff.1 word).1
  have clause : Reading.plain? (g.readWordClause w (t :: next :: ts)) =
      .ok (some (.color (.color t.pos name), next :: ts)) := by
    rw [plain?_readWordClause]
    rcases word with word | word
    all_goals
      rw [(Token.isWord_iff.1 word).2]
      show (do
        let v ← (g.readExpression (t :: next :: ts)).plain
        .ok (some (Clause.color v.1, v.2))) = _
      rw [plain_readExpression_color named apart, ok_bind]
  exact plain_readAttribute_of_clause kind clause before

end Reader

/-! ## All together -/

/-- Paints and numbers convert back and forth.  A paint in range comes back from its number; an
integer comes back without what lies above the three channels, and every negative one as minus one;
of a number that is not negative only the integer part matters, and of that only the three channels,
and what is not finite is refused.  So a name of a colour that a table resolves makes `fill` and
`color` store just the paint of the table, although a machine number is in between, and that is how
the two clauses are read. -/
theorem Paint.converts :
    (∀ p : Paint, p.InRange → ofInteger p.toNumber = p) ∧
    (∀ i : Int, toNumber (ofInteger i) = if 0 ≤ i then i % 2 ^ 24 else -1) ∧
    (∀ n : Nat, ofInteger n = some ⟨n >>> 16 &&& 0xFF, n >>> 8 &&& 0xFF, n &&& 0xFF⟩) ∧
    (∀ i : Int, 0 ≤ i → ofInteger i = ofInteger (i % 2 ^ 24)) ∧
    (∀ x : MachineNumber, Arith.isFinite x = true → 0 ≤ x.exact →
      ofNumber x = .ok (ofInteger (⌊x.exact⌋ % 2 ^ 24))) ∧
    (∀ x : MachineNumber, Arith.isFinite x = false → ∃ fault, ofNumber x = .error fault) ∧
    (∀ (v : View MachineNumber) (d : Draft MachineNumber) (pos : SourcePos) (name : String)
      (p : Paint), v.colors.InRange → v.colors.resolve name = some p →
      d.applyClause v (.fill (.color pos name)) =
        .ok (d.modifyStyle fun s => { s with fill := p }) ∧
      d.applyClause v (.color (.color pos name)) =
        .ok (d.modifyStyle fun s => { s with color := p })) ∧
    ∀ (g : Reader) (before : List Attribute) (w t next : Token) (ts : List Token) (name : String),
      g.colorName? t next = some name → Reader.isOperator next.kind = false →
      (w.isWord "fill" = true → (g.readAttribute before (w :: t :: next :: ts)).plain =
        .ok (before ++ [⟨w.pos, .fill (.color t.pos name)⟩], next :: ts)) ∧
      (w.isWord "color" = true ∨ w.isWord "colour" = true →
        (g.readAttribute before (w :: t :: next :: ts)).plain =
          .ok (before ++ [⟨w.pos, .color (.color t.pos name)⟩], next :: ts)) :=
  ⟨fun _ => ofInteger_toNumber, toNumber_ofInteger, ofInteger_masks, fun _ => ofInteger_emod,
    fun _ => ofNumber_eq, fun _ => ofNumber_of_not_isFinite,
    fun _ _ pos name p small found =>
      ⟨Draft.applyClause_fill found (small name p found) pos,
        Draft.applyClause_color found (small name p found) pos⟩,
    fun _ before _ _ _ ts _ named apart =>
      ⟨fun word => Reader.plain_readAttribute_fill word named apart before ts,
        fun word => Reader.plain_readAttribute_color word named apart before ts⟩⟩

/-- A box is filled with a colour of the standard table; two larger numbers, one of them not whole,
stand for the same colour. -/
theorem Paint.converts_tomato :
    let v : View MachineNumber := ⟨.initial, 0, .standard, standardUnits⟩
    let d : Draft MachineNumber := { object := .placeholder 0 .box .right }
    let tomato : Paint := some ⟨255, 99, 71⟩
    let x : MachineNumber := Arith.ofDecimal ⟨335143115, -1⟩
    ColorTable.standard.InRange ∧ tomato.InRange ∧
      d.applyClause v (.fill (.color ⟨1, 10⟩ "Tomato")) =
        .ok (d.modifyStyle fun s => { s with fill := tomato }) ∧
      ofInteger 33514311 = tomato ∧ x.exact = 67028623 / 2 ∧ ofNumber x = .ok tomato := by
  intro v d tomato x
  have value : x.exact = 67028623 / 2 := by
    have taken : Binary64.parts x.value = .finite false (67028623 * 2 ^ 27) (-28) := by
      decide +kernel
    rw [MachineNumber.exact, Binary64.exact, taken]
    norm_num
  obtain ⟨-, -, -, integers, numbers, -, clauses, -⟩ := Paint.converts
  have stored := clauses v d ⟨1, 10⟩ "Tomato" tomato ColorTable.standard_inRange (by decide +kernel)
  have number := numbers x (by decide +kernel) (by rw [value]; norm_num)
  have floor : ⌊x.exact⌋ % 2 ^ 24 = 0xFF6347 := by
    rw [value]
    norm_num
  rw [floor] at number
  exact ⟨ColorTable.standard_inRange, by decide, stored.1, integers 33514311 (by decide), value,
    number⟩

end DiagramScript
