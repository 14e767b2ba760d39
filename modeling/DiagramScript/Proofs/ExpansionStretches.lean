import Mathlib.Data.Prod.Lex
import DiagramScript.Proofs.CompleteExpansion

/-!
# Where expanded tokens come from

A list of tokens is expanded in stretches: a definition leaves nothing, a use leaves what it stands
for, and every other token is left as it is.  Whatever a use stands for takes the place of its name,
so that the places of the tokens that are left are still in order.

* `ArgumentList` — what belongs to a use besides its name: nothing, or everything from a parenthesis
  to the one that closes it.
* `Stretch`, `Divides` — the stretches of a list of tokens, and what is known of each.
* `Expands.exists_divides` — whatever is expanded falls into stretches.
* `expandTokens_stretches` — what that says of the tokens that are left, and of their places.
-/

namespace DiagramScript

/-! ## Argument lists -/

/-- How many of some tokens are opening parentheses. -/
def openings (ts : List Token) : Nat := ts.countP (·.kind = .lparen)

/-- How many of some tokens are closing parentheses. -/
def closings (ts : List Token) : Nat := ts.countP (·.kind = .rparen)

/-- Whether the first tokens of some, `n` of them, end with the parenthesis that closes the last of
`depth` open ones. -/
def Closes (depth : Nat) (ts : List Token) (n : Nat) : Prop :=
  ∃ inside closer rest, ts = inside ++ closer :: rest ∧ n = inside.length + 1 ∧
    closer.kind = .rparen ∧ closings inside + 1 = openings inside + depth ∧
    (∀ front, front <+: inside → closings front < openings front + depth) ∧ NoEnd inside

/-- One more token opens a parenthesis, closes one, or does neither. -/
theorem Closes.cons {t : Token} {ts : List Token} {depth deeper n : Nat} (ht : t.kind ≠ .eof)
    (hd : 1 ≤ depth) (level : openings [t] + depth = closings [t] + deeper)
    (h : Closes deeper ts n) : Closes depth (t :: ts) (n + 1) := by
  obtain ⟨inside, closer, rest, rfl, rfl, closes, balance, first, noEnd⟩ := h
  have opened : ∀ us, openings (t :: us) = openings [t] + openings us := fun us => by
    rw [openings, ← List.singleton_append, List.countP_append]
    rfl
  have closed : ∀ us, closings (t :: us) = closings [t] + closings us := fun us => by
    rw [closings, ← List.singleton_append, List.countP_append]
    rfl
  refine ⟨t :: inside, closer, rest, rfl, rfl, closes, ?_, fun front hf => ?_,
    List.forall_mem_cons.2 ⟨ht, noEnd⟩⟩
  · rw [opened, closed]
    omega
  · cases front with
    | nil => exact Nat.lt_of_lt_of_le hd (Nat.le_add_left depth _)
    | cons u front =>
      obtain ⟨rfl, later⟩ := List.cons_prefix_cons.1 hf
      have inner := first front later
      rw [opened, closed]
      omega

/-- The parenthesis that closes the last open one may come first. -/
theorem Closes.last {t : Token} (ht : t.kind = .rparen) (ts : List Token) :
    Closes 1 (t :: ts) 1 := by
  refine ⟨[], t, ts, rfl, rfl, ht, rfl, fun front hf => ?_, by simp [NoEnd]⟩
  rw [List.prefix_nil.1 hf]
  exact Nat.one_pos

/-- Arguments are collected up to the parenthesis that closes the last open one. -/
theorem collectArguments_closes {depth : Nat} {current : List String} {ts : List Token}
    {r : List String × Nat} (hd : 1 ≤ depth) (h : collectArguments depth current ts = some r) :
    Closes depth ts r.2 := by
  induction ts generalizing depth current r with
  | nil => cases h
  | cons t ts ih =>
    have further : ∀ {deeper current q}, t.kind ≠ .eof → 1 ≤ deeper →
        openings [t] + depth = closings [t] + deeper →
        collectArguments deeper current ts = some q → Closes depth (t :: ts) (q.2 + 1) :=
      fun ht hdeeper level hq => (ih hdeeper hq).cons ht hd level
    unfold collectArguments at h
    dsimp only at h
    split at h
    · cases h
    · next hk =>
      obtain ⟨q, hq, rfl⟩ := Option.map_eq_some_iff.1 h
      exact further (by simp [hk]) (by omega) (by simp [openings, closings, hk]; omega) hq
    · next hk =>
      split_ifs at h with last
      · cases h
        obtain rfl : depth = 1 := Nat.le_antisymm last hd
        exact .last hk ts
      · obtain ⟨q, hq, rfl⟩ := Option.map_eq_some_iff.1 h
        exact further (by simp [hk]) (by omega) (by simp [openings, closings, hk]; omega) hq
    · next hk =>
      split_ifs at h
      all_goals
        obtain ⟨q, hq, rfl⟩ := Option.map_eq_some_iff.1 h
        exact further (by simp [hk]) hd (by simp [openings, closings, hk]) hq
    · next hk opens closes _ =>
      obtain ⟨q, hq, rfl⟩ := Option.map_eq_some_iff.1 h
      have opens : t.kind ≠ .lparen := opens
      have closes : t.kind ≠ .rparen := closes
      exact further hk hd (by simp [openings, closings, opens, closes]) hq

/-- What belongs to a use besides its name, and what follows then: nothing, if the next token is no
parenthesis, and otherwise everything up to the parenthesis that closes that one. -/
inductive ArgumentList : List Token → List Token → Prop where
  /-- There are no arguments. -/
  | none {rest : List Token} (next : rest.head?.map Token.kind ≠ some .lparen) :
    ArgumentList [] rest
  /-- There are arguments. -/
  | list {opener closer : Token} {inside rest : List Token} (opens : opener.kind = .lparen)
    (closes : closer.kind = .rparen) (balance : closings inside = openings inside)
    (first : ∀ front, front <+: inside → closings front ≤ openings front) (noEnd : NoEnd inside) :
    ArgumentList (opener :: (inside ++ [closer])) rest

/-- The tokens that the arguments of a use take are an argument list. -/
theorem useArguments_argumentList {ts : List Token} {args : List String × Nat}
    (h : useArguments ts = .ok args) : ArgumentList (ts.take args.2) (ts.drop args.2) := by
  cases ts with
  | nil =>
    cases h
    exact .none (by simp)
  | cons t ts =>
    rw [useArguments] at h
    split_ifs at h with opens
    · cases hc : collectArguments 1 [] ts with
      | none =>
        rw [hc] at h
        cases h
      | some r =>
        rw [hc] at h
        cases h
        obtain ⟨inside, closer, rest, rfl, hn, closes, balance, first, noEnd⟩ :=
          collectArguments_closes (Nat.le_refl 1) hc
        have taken : (inside ++ closer :: rest).take r.2 = inside ++ [closer] := by
          rw [hn, List.take_append, List.take_of_length_le (Nat.le_succ _)]
          simp
        dsimp only
        rw [List.take_succ_cons, taken]
        exact .list opens closes (Nat.succ_injective balance)
          (fun front hf => Nat.le_of_lt_succ (first front hf)) noEnd
    · cases h
      exact .none (by simpa using opens)

/-! ## Stretches -/

/-- Some tokens that are expanded by themselves. -/
inductive Stretch where
  /-- A definition: its keyword, its name and its body. -/
  | definition (keyword name body : Token)
  /-- A use: its name, what belongs to it besides, and what it stands for. -/
  | use (name : Token) (arguments produced : List Token)
  /-- A token that belongs to no definition and no use. -/
  | plain (t : Token)

namespace Stretch

/-- The tokens that are expanded. -/
def source : Stretch → List Token
  | definition keyword name body => [keyword, name, body]
  | use name arguments _ => name :: arguments
  | plain t => [t]

/-- The tokens that are left. -/
def result : Stretch → List Token
  | definition _ _ _ => []
  | use _ _ produced => produced
  | plain t => [t]

/-- The tokens that belong to no definition and no use. -/
def kept : Stretch → List Token
  | plain t => [t]
  | _ => []

/-- The place of the first token. -/
def place : Stretch → SourcePos
  | definition keyword _ _ => keyword.pos
  | use name _ _ => name.pos
  | plain t => t.pos

theorem exists_mem_source (s : Stretch) : ∃ t ∈ s.source, t.pos = s.place := by
  cases s with
  | definition keyword name body => exact ⟨keyword, List.mem_cons_self, rfl⟩
  | use name arguments produced => exact ⟨name, List.mem_cons_self, rfl⟩
  | plain t => exact ⟨t, List.mem_cons_self, rfl⟩

theorem kept_sublist (s : Stretch) : s.kept.Sublist s.result := by
  cases s with
  | plain t => exact .refl _
  | _ => exact List.nil_sublist _

end Stretch

/-- How some tokens fall into stretches when they are expanded with `room` levels of nesting left:
the definitions that are known before, and those that are known afterwards. -/
inductive Divides (colors : ColorTable) (room : Nat) :
    Definitions → List Token → List Stretch → Definitions → Prop where
  /-- There is nothing left to expand. -/
  | nil (defs : Definitions) : Divides colors room defs [] [] defs
  /-- The keyword of a definition, with its name and its body. -/
  | definition {defs after : Definitions} {keyword name body : Token} {ts : List Token}
    {text : String} {stretches : List Stretch} (isKeyword : keyword.isWord "define" = true)
    (isName : name.isDefinable = true) (isBody : body.kind = .block text)
    (rest : Divides colors room ((name.text, text) :: defs) ts stretches after) :
    Divides colors room defs (keyword :: name :: body :: ts)
      (.definition keyword name body :: stretches) after
  /-- The name of something that is defined, with its arguments.  It stands for the tokens of the
  body, expanded one level deeper; what is defined there is known from there on. -/
  | use {defs between after : Definitions} {name : Token}
    {arguments inside produced ts : List Token} {body : String} {args : List String}
    {less : Nat} {stretches : List Stretch} (deeper : room = less + 1)
    (noKeyword : name.isWord "define" = false) (isName : name.isUsable = true)
    (known : defs.lookup name.text = some body) (list : ArgumentList arguments ts)
    (texts : useArguments (arguments ++ ts) = .ok (args, arguments.length))
    (tokens : bodyTokens colors name body args = .ok inside)
    (within : expandWith colors less defs inside = .ok (produced, between))
    (rest : Divides colors room between ts stretches after) :
    Divides colors room defs (name :: (arguments ++ ts)) (.use name arguments produced :: stretches)
      after
  /-- A token that is neither. -/
  | plain {defs after : Definitions} {t : Token} {ts : List Token} {stretches : List Stretch}
    (noKeyword : t.isWord "define" = false)
    (unknown : t.isUsable = true → defs.lookup t.text = none)
    (rest : Divides colors room defs ts stretches after) :
    Divides colors room defs (t :: ts) (.plain t :: stretches) after

theorem readDefinition_eq_ok {keyword : Token} {ts : List Token} {d : String × String}
    (h : readDefinition keyword ts = .ok d) :
    ∃ name body, ts = name :: body :: ts.drop 2 ∧ name.isDefinable = true ∧
      body.kind = .block d.2 ∧ d.1 = name.text := by
  unfold readDefinition at h
  split at h
  · next name body rest =>
    split_ifs at h with hn
    split at h
    · next hb =>
      cases h
      exact ⟨name, body, rfl, hn, hb, rfl⟩
    · cases h
  · cases h

/-- Whatever is expanded falls into stretches. -/
theorem Expands.exists_divides {colors : ColorTable} {room : Nat} {defs after : Definitions}
    {ts : List Token} {out : List (Token × Definitions)}
    (h : Expands colors room defs ts out after) :
    ∃ stretches, Divides colors room defs ts stretches after ∧
      stretches.flatMap Stretch.result = out.map Prod.fst := by
  induction h with
  | nil room defs => exact ⟨[], .nil defs, rfl⟩
  | define keyword read _ ih =>
    obtain ⟨stretches, divides, result⟩ := ih
    obtain ⟨name, body, hts, isName, isBody, text⟩ := readDefinition_eq_ok read
    rw [hts]
    refine ⟨.definition _ name body :: stretches, .definition keyword isName isBody ?_, result⟩
    rw [← text]
    exact divides
  | keep plain unused _ ih =>
    obtain ⟨stretches, divides, result⟩ := ih
    exact ⟨.plain _ :: stretches, .plain plain unused divides, congrArg (List.cons _) result⟩
  | @use room defs between after t ts inside body args out out' plain usable known arguments tokens
      within rest _ ih =>
    obtain ⟨stretches, divides, result⟩ := ih
    have whole : ts.take args.2 ++ ts.drop args.2 = ts := List.take_append_drop _ ts
    have count : (ts.take args.2).length = args.2 :=
      List.length_take_of_le (useArguments_le arguments)
    refine ⟨.use t (ts.take args.2) (out.map Prod.fst) :: stretches, ?_, ?_⟩
    · have texts : useArguments (ts.take args.2 ++ ts.drop args.2) =
          .ok (args.1, (ts.take args.2).length) := by
        rw [whole, count]
        exact arguments
      have divided := Divides.use rfl plain usable known (useArguments_argumentList arguments)
        texts tokens within.expandWith_eq divides
      rwa [whole] at divided
    · rw [List.flatMap_cons, result, List.map_append]
      rfl

namespace Divides

variable {colors : ColorTable} {room : Nat} {defs after : Definitions} {ts : List Token}
  {stretches : List Stretch}

/-- The stretches are all that is expanded. -/
theorem flatMap_source (h : Divides colors room defs ts stretches after) :
    stretches.flatMap Stretch.source = ts := by
  induction h with
  | nil => rfl
  | definition _ _ _ _ ih => rw [List.flatMap_cons, ih]; rfl
  | use _ _ _ _ _ _ _ _ _ ih => rw [List.flatMap_cons, ih]; rfl
  | plain _ _ _ ih => rw [List.flatMap_cons, ih]; rfl

/-- What a use stands for is at the place of its name, however deeply uses are nested in it. -/
theorem pos_eq_place (h : Divides colors room defs ts stretches after) :
    ∀ s ∈ stretches, ∀ t ∈ s.result, t.pos = s.place := by
  induction h with
  | nil => simp
  | definition _ _ _ _ ih => exact List.forall_mem_cons.2 ⟨by simp [Stretch.result], ih⟩
  | @use _ _ _ name _ _ _ _ body args _ _ _ _ _ _ _ _ tokens within _ ih =>
    refine List.forall_mem_cons.2 ⟨?_, ih⟩
    have inside := (bodyTokens_settles (P := (· = name.pos)) colors rfl body args).ok _ tokens
    exact (expandWith_settles colors _ _ inside).ok _ within
  | plain _ _ _ ih =>
    exact List.forall_mem_cons.2 ⟨fun t ht => by rw [List.mem_singleton.1 ht]; rfl, ih⟩

end Divides

/-! ## Places in order -/

/-- Places in the order of a text: by lines, and in a line by columns. -/
def SourcePos.rank (p : SourcePos) : Nat ×ₗ Nat := toLex (p.line, p.column)

/-- If every stretch leaves tokens at its own place only, the tokens that are left are in order. -/
theorem pairwise_result {stretches : List Stretch}
    (placed : ∀ s ∈ stretches, ∀ t ∈ s.result, t.pos = s.place)
    (ordered : (stretches.flatMap Stretch.source).Pairwise fun t u => t.pos.rank < u.pos.rank) :
    (stretches.flatMap Stretch.result).Pairwise fun t u => t.pos.rank ≤ u.pos.rank := by
  rw [List.pairwise_flatMap] at ordered ⊢
  constructor
  · intro s hs
    refine List.pairwise_of_forall_mem_list fun t ht u hu => ?_
    rw [placed s hs t ht, placed s hs u hu]
  · refine ordered.2.imp_of_mem fun {s s'} hs hs' before t ht u hu => ?_
    obtain ⟨v, hv, atS⟩ := s.exists_mem_source
    obtain ⟨w, hw, atS'⟩ := s'.exists_mem_source
    rw [placed s hs t ht, placed s' hs' u hu, ← atS, ← atS']
    exact (before v hv w hw).le

/-- The tokens that belong to no definition and no use are left in their order. -/
theorem kept_sublist_result (stretches : List Stretch) :
    (stretches.flatMap Stretch.kept).Sublist (stretches.flatMap Stretch.result) := by
  induction stretches with
  | nil => exact .slnil
  | cons s stretches ih => exact s.kept_sublist.append ih

/-- How the tokens that expansion leaves of a script come from the script. -/
structure LeavesInPlace (colors : ColorTable) (script expanded : List Token) : Prop where
  /-- The script falls into stretches, and each of them leaves its tokens.  Those that belong to no
  definition and no use are left as they are and in their order, and what a use leaves is at the
  place of its name. -/
  stretches : ∃ stretches after, Divides colors maxExpansionDepth [] script stretches after ∧
    stretches.flatMap Stretch.source = script ∧ stretches.flatMap Stretch.result = expanded ∧
    (stretches.flatMap Stretch.kept).Sublist expanded ∧
    ∀ s ∈ stretches, ∀ t ∈ s.result, t.pos = s.place
  /-- All places are places of the script. -/
  places : ∀ t ∈ expanded, ∃ u ∈ script, u.pos = t.pos
  /-- They are in order. -/
  ordered : expanded.Pairwise fun t u => t.pos.rank ≤ u.pos.rank
  /-- The end of the script is the last token, and no other token ends it. -/
  ends : ∃ front last, expanded = front ++ [last] ∧ script.getLast? = some last ∧
    last.kind = .eof ∧ NoEnd front
  /-- Without definitions nothing changes. -/
  unchanged : (∀ t ∈ script, t.isWord "define" = false) → expanded = script

/-- Whatever expansion leaves of the tokens of a script, whose places are in order and which end
with its end, comes from the script in this way. -/
theorem expandTokens_stretches {colors : ColorTable} {body : List Token} {last : Token}
    (ordered : (body ++ [last]).Pairwise fun t u => t.pos.rank < u.pos.rank)
    (ends : last.kind = .eof) (noEnd : NoEnd body) {expanded : List Token}
    (h : expandTokens colors (body ++ [last]) = .ok expanded) :
    LeavesInPlace colors (body ++ [last]) expanded := by
  obtain ⟨front, hfront, frontNoEnd, -⟩ := expandTokens_append ends noEnd h
  obtain ⟨after, hw⟩ := expandTokens_eq_ok.1 h
  obtain ⟨out, expands, rfl⟩ := expandWith_eq_ok.1 hw
  obtain ⟨stretches, divides, result⟩ := expands.exists_divides
  have source := divides.flatMap_source
  have placed := divides.pos_eq_place
  refine ⟨⟨stretches, after, divides, source, result, ?_, placed⟩, ?_, ?_, ?_, ?_⟩
  case refine_1 => exact result ▸ kept_sublist_result stretches
  case refine_2 =>
    rw [← result, ← source]
    intro t ht
    obtain ⟨s, hs, ht⟩ := List.mem_flatMap.1 ht
    obtain ⟨u, hu, atPlace⟩ := s.exists_mem_source
    exact ⟨u, List.mem_flatMap.2 ⟨s, hs, hu⟩, atPlace.trans (placed s hs t ht).symm⟩
  case refine_3 =>
    rw [← result]
    exact pairwise_result placed (source ▸ ordered)
  case refine_4 => exact ⟨front, last, hfront, List.getLast?_concat, ends, frontNoEnd⟩
  case refine_5 =>
    intro none
    exact Except.ok.inj (h.symm.trans (expandTokens_of_no_define colors none))

/-- A use of `f`, whose text defines `g` and uses it, and a use of `g` with an argument. -/
theorem expandTokens_stretches_nested :
    let body : List Token := [⟨.word, "define", ⟨1, 1⟩⟩, ⟨.word, "f", ⟨1, 8⟩⟩,
      ⟨.block "define g \x7bx\x7d g", "\x7bdefine g \x7bx\x7d g\x7d", ⟨1, 10⟩⟩,
      ⟨.eol, "\n", ⟨1, 26⟩⟩, ⟨.word, "f", ⟨2, 1⟩⟩, ⟨.word, "g", ⟨2, 3⟩⟩, ⟨.lparen, "(", ⟨2, 4⟩⟩,
      ⟨.word, "z", ⟨2, 5⟩⟩, ⟨.rparen, ")", ⟨2, 6⟩⟩]
    let last : Token := ⟨.eof, "", ⟨2, 7⟩⟩
    let expanded : List Token := [⟨.eol, "\n", ⟨1, 26⟩⟩, ⟨.word, "x", ⟨2, 1⟩⟩,
      ⟨.word, "x", ⟨2, 3⟩⟩, last]
    (body ++ [last]).Pairwise (fun t u => t.pos.rank < u.pos.rank) ∧ last.kind = .eof ∧
      NoEnd body ∧ expandTokens .standard (body ++ [last]) = .ok expanded ∧
      LeavesInPlace .standard (body ++ [last]) expanded := by
  intro body last expanded
  let known : Definitions := [("f", "define g \x7bx\x7d g")]
  let inside : List Token := [⟨.word, "define", ⟨2, 1⟩⟩, ⟨.word, "g", ⟨2, 1⟩⟩,
    ⟨.block "x", "\x7bx\x7d", ⟨2, 1⟩⟩, ⟨.word, "g", ⟨2, 1⟩⟩]
  have bodyOfF : bodyTokens .standard ⟨.word, "f", ⟨2, 1⟩⟩ "define g \x7bx\x7d g" [] =
      .ok inside := by
    rw [bodyTokens, tokenize_eq_steps]
    decide +kernel
  have bodyOfG : ∀ p args, bodyTokens .standard ⟨.word, "g", p⟩ "x" args =
      .ok [⟨.word, "x", p⟩] := by
    intro p args
    rw [bodyTokens, show substitute args "x".toList = "x".toList from rfl, tokenize_eq_steps]
    rfl
  have x : ∀ room defs p, defs.lookup "x" = none →
      Expands .standard room defs [⟨.word, "x", p⟩] [(⟨.word, "x", p⟩, defs)] defs :=
    fun room defs p unknown => .keep rfl (fun _ => unknown) (.nil _ _)
  let both : Definitions := ("g", "x") :: known
  have knowsF : known.lookup "f" = some "define g \x7bx\x7d g" := rfl
  have knowsG : both.lookup "g" = some "x" := rfl
  have alone : useArguments [] = .ok ([], 0) := rfl
  have nested : Expands .standard 9 known inside [(⟨.word, "x", ⟨2, 1⟩⟩, both)] both :=
    .define rfl rfl (.use rfl rfl knowsG alone (bodyOfG _ _) (x _ both _ rfl) (.nil _ _))
  let arguments : List Token := [⟨.lparen, "(", ⟨2, 4⟩⟩, ⟨.word, "z", ⟨2, 5⟩⟩,
    ⟨.rparen, ")", ⟨2, 6⟩⟩]
  have useOfG : Expands .standard maxExpansionDepth both
      (⟨.word, "g", ⟨2, 3⟩⟩ :: (arguments ++ [last]))
      [(⟨.word, "x", ⟨2, 3⟩⟩, both), (last, both)] both := by
    have read : useArguments (arguments ++ [last]) = .ok (["z"], 3) := by decide
    exact .use rfl rfl knowsG read (bodyOfG _ _) (x _ both _ rfl) (.keep rfl nofun (.nil _ _))
  have useOfF : Expands .standard maxExpansionDepth known
      (⟨.word, "f", ⟨2, 1⟩⟩ :: ⟨.word, "g", ⟨2, 3⟩⟩ :: (arguments ++ [last]))
      [(⟨.word, "x", ⟨2, 1⟩⟩, both), (⟨.word, "x", ⟨2, 3⟩⟩, both), (last, both)] both := by
    have read : useArguments (⟨.word, "g", ⟨2, 3⟩⟩ :: (arguments ++ [last])) = .ok ([], 0) := rfl
    exact .use rfl rfl knowsF read bodyOfF nested useOfG
  have whole : Expands .standard maxExpansionDepth [] (body ++ [last])
      [(⟨.eol, "\n", ⟨1, 26⟩⟩, known), (⟨.word, "x", ⟨2, 1⟩⟩, both),
        (⟨.word, "x", ⟨2, 3⟩⟩, both), (last, both)] both :=
    .define rfl rfl (.keep rfl nofun useOfF)
  have ordered : (body ++ [last]).Pairwise fun t u => t.pos.rank < u.pos.rank := by decide
  have noEnd : NoEnd body := by simp [NoEnd, body]
  have expands : expandTokens .standard (body ++ [last]) = .ok expanded :=
    expandTokens_eq_ok.2 ⟨_, whole.expandWith_eq⟩
  exact ⟨ordered, rfl, noEnd, expands, expandTokens_stretches ordered rfl noEnd expands⟩

end DiagramScript
