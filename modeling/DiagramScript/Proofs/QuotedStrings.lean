import DiagramScript.Proofs.ArgumentTexts
import DiagramScript.Proofs.CompleteExpansion

/-!
# Strings that are quoted

Every text on one line can be written as a string, with a backslash before each quote and each
backslash in it.  The end of a string is found in two ways, when the string is read and when the
block around it is; both find the same end, so that a string may stand in the body of a definition
whatever braces and comment marks are in it.

* `inQuotes` — the string that denotes a text.
* `Reads` — what a piece of text comes to, whatever stands before it; `Reads.string` and
  `Reads.block` say that of a string and of a block around one.
* `substitute_padded` — no arguments are put into it.
* `scan_inQuotes`, `scan_definition` — what is read of a string alone, and of a definition with it
  as its body.
* `inQuotes_roundTrips` — the text comes back from both.
-/

namespace DiagramScript

variable {colors : ColorTable}

/-! ## Quoting -/

/-- Some characters with a backslash before each quote and each backslash. -/
def escaped : List Char → List Char
  | [] => []
  | c :: cs => if c = '"' ∨ c = '\\' then '\\' :: c :: escaped cs else c :: escaped cs

/-- The characters of the string that denotes some characters. -/
def quotation (cs : List Char) : List Char := '"' :: (escaped cs ++ ['"'])

/-- The same with a space on either side. -/
def padded (cs : List Char) : List Char := ' ' :: (quotation cs ++ [' '])

/-- The string that denotes a text. -/
def inQuotes (s : String) : String := String.ofList (quotation s.toList)

/-- Whether some characters may stand in a string: none of them is a control character other than
a tab. -/
def Quotable (cs : List Char) : Prop := ∀ c ∈ cs, c = '\t' ∨ 0x20 ≤ c.toNat

theorem Quotable.tail {c : Char} {cs : List Char} (h : Quotable (c :: cs)) : Quotable cs :=
  fun d hd => h d (List.mem_cons_of_mem c hd)

theorem Quotable.head_ne_newline {c : Char} {cs : List Char} (h : Quotable (c :: cs)) :
    c ≠ '\n' := by
  rintro rfl
  rcases h '\n' List.mem_cons_self with h | h
  · cases h
  · exact absurd h (by decide)

theorem Quotable.not_isControl {c : Char} {cs : List Char} (h : Quotable (c :: cs)) :
    isControl c = false := by
  rcases h c List.mem_cons_self with rfl | h
  · rfl
  · simp [isControl, Nat.not_lt.2 h]

/-! ## Ends of strings -/

section Ends

variable {c : Char} (quote : c ≠ '"') (backslash : c ≠ '\\') (newline : c ≠ '\n')

include quote backslash newline

theorem stringBody_ordinary (cs : List Char) :
    stringBody (c :: cs) = (stringBody cs).push 1 c (isControl c) := by
  rw [stringBody.eq_6 _ _ newline quote]
  · exact fun rest h => absurd h backslash
  · exact fun rest h => absurd h backslash

theorem blockLength_ordinary (depth : Nat) (cs : List Char) :
    blockLength true depth (c :: cs) = (blockLength true depth cs).map (· + 1) := by
  have inside : (decide (c ≠ '"') && decide (c ≠ '\n')) = true := by simp [quote, newline]
  rw [blockLength.eq_4, inside]
  · exact fun rest h => absurd h backslash
  · exact fun rest h => absurd h backslash

end Ends

/-- A string is read up to its end, and denotes the text that was quoted. -/
theorem stringBody_escaped {cs : List Char} (h : Quotable cs) (rest : List Char) :
    stringBody (escaped cs ++ '"' :: rest) =
      { length := (escaped cs).length + 1, value := cs, controls := [], closed := true } := by
  induction cs with
  | nil => rfl
  | cons c cs ih =>
    have inner := ih h.tail
    rw [escaped]
    split_ifs with special
    · rcases special with rfl | rfl <;> simp [stringBody, inner, StringBody.push]
    · obtain ⟨quote, backslash⟩ := not_or.1 special
      rw [List.cons_append, stringBody_ordinary quote backslash h.head_ne_newline, inner,
        h.not_isControl]
      simp [StringBody.push]

/-- A string in a block ends at the same place. -/
theorem blockLength_escaped {cs : List Char} (h : Quotable cs) (depth : Nat) (rest : List Char) :
    blockLength true depth (escaped cs ++ '"' :: rest) =
      (blockLength false depth rest).map (· + ((escaped cs).length + 1)) := by
  induction cs with
  | nil => simp [escaped, blockLength]
  | cons c cs ih =>
    have inner := ih h.tail
    rw [escaped]
    split_ifs with special
    · rcases special with rfl | rfl <;> simp [blockLength, inner, Function.comp_def, Nat.add_assoc]
    · obtain ⟨quote, backslash⟩ := not_or.1 special
      rw [List.cons_append, blockLength_ordinary quote backslash h.head_ne_newline, inner]
      simp [Function.comp_def, Nat.add_assoc]

/-! ## Reading strings -/

/-- How a text is read that is followed by another: without mistakes, as some tokens that depend on
its place, and then the rest. -/
structure Reads (colors : ColorTable) (text rest : List Char) (ts : SourcePos → List Token) :
    Prop where
  /-- The tokens. -/
  tokens : ∀ p, scanFrom colors p (text ++ rest) =
    (ts p ++ (scanFrom colors (p.after text) rest).1, (scanFrom colors (p.after text) rest).2)
  /-- There is no ordinal number of too many digits. -/
  noFault : faultFrom colors (text ++ rest) = faultFrom colors rest

namespace Reads

variable {text text' rest : List Char} {ts ts' : SourcePos → List Token}

/-- Two texts are read one after the other. -/
theorem append (h : Reads colors text (text' ++ rest) ts) (h' : Reads colors text' rest ts') :
    Reads colors (text ++ text') rest fun p => ts p ++ ts' (p.after text) where
  tokens p := by
    rw [List.append_assoc, h.tokens, h'.tokens, SourcePos.after_append, List.append_assoc]
  noFault := by rw [List.append_assoc, h.noFault, h'.noFault]

/-- A piece that is a token. -/
theorem piece {c : Char} {more : List Char} {kind : TokenKind}
    (h : DiagramScript.piece colors c (more ++ rest) = .token more.length kind) :
    Reads colors (c :: more) rest fun p => [⟨kind, String.ofList (c :: more), p⟩] := by
  have isToken : (DiagramScript.piece colors c (more ++ rest)).kind = some kind := by rw [h]; rfl
  have errors : (DiagramScript.piece colors c (more ++ rest)).errors = [] := by rw [h]; rfl
  have length : (DiagramScript.piece colors c (more ++ rest)).more = more.length := by rw [h]; rfl
  have digits : (DiagramScript.piece colors c (more ++ rest)).digits ≤ maxDigits := by
    rw [h]
    exact Nat.zero_le _
  have read := fun p => scanFrom_of_piece colors p isToken errors length digits
  exact ⟨fun p => (read p).1, (read .first).2⟩

theorem space : Reads colors [' '] rest fun _ => [] where
  tokens p := scanFrom_space colors p rest
  noFault := faultFrom_space colors rest

/-- A text that is read to its end. -/
theorem scan {source : String} (h : Reads colors source.toList [] ts) :
    DiagramScript.scan colors source =
      .ok (ts .first ++ [⟨.eof, "", SourcePos.first.after source.toList⟩], []) := by
  have tokens := h.tokens .first
  have noFault := h.noFault
  rw [List.append_nil] at tokens noFault
  rw [DiagramScript.scan, noFault, faultFrom, tokens, scanFrom]

/-- A string is one token, whatever follows it. -/
theorem string {cs : List Char} (h : Quotable cs) :
    Reads colors (quotation cs) rest fun p =>
      [⟨.str (String.ofList cs), String.ofList (quotation cs), p⟩] := by
  refine piece ?_
  show stringPiece _ = _
  rw [stringPiece, List.append_assoc, List.cons_append, List.nil_append, stringBody_escaped h]
  simp [Piece.token]

/-- A block that holds a string, with a space on either side of it, is one token, whatever braces
are in the string and whatever follows the block. -/
theorem block {cs : List Char} (h : Quotable cs) :
    Reads colors ('\x7b' :: (padded cs ++ ['\x7d'])) rest fun p =>
      [⟨.block (String.ofList (padded cs)), String.ofList ('\x7b' :: (padded cs ++ ['\x7d'])),
        p⟩] := by
  have length : blockLength false 1 (padded cs ++ ['\x7d'] ++ rest) =
      some ((padded cs).length + 1) := by
    simp [blockLength, blockLength_escaped h, padded, quotation]
    omega
  have inside : (padded cs ++ ['\x7d'] ++ rest).take (padded cs).length = padded cs := by
    rw [List.append_assoc, List.take_left]
  refine piece ?_
  show blockPiece _ = _
  rw [blockPiece, length, List.length_append, ← inside]
  simp

end Reads

/-- What is read of a string. -/
theorem scan_inQuotes {s : String} (h : Quotable s.toList) :
    scan colors (inQuotes s) =
      .ok ([⟨.str s, inQuotes s, .first⟩, ⟨.eof, "", .after .first (inQuotes s).toList⟩], []) := by
  have text : (inQuotes s).toList = quotation s.toList := String.toList_ofList
  have read : Reads colors (quotation s.toList) [] _ := .string h
  rw [← text, String.ofList_toList, String.ofList_toList] at read
  exact read.scan

/-! ## Strings in definitions -/

/-- Whether a dollar sign stands before a digit from one to nine. -/
def MentionsArgument (cs : List Char) : Prop := ∃ d, '1' ≤ d ∧ d ≤ '9' ∧ ['$', d] <:+: cs

theorem MentionsArgument.cons {c : Char} {cs : List Char} (h : MentionsArgument cs) :
    MentionsArgument (c :: cs) := by
  obtain ⟨d, low, high, here⟩ := h
  exact ⟨d, low, high, here.trans (List.suffix_cons c cs).isInfix⟩

theorem substitute_cons {c : Char} (h : c ≠ '$') (args : List String) (cs : List Char) :
    substitute args (c :: cs) = c :: substitute args cs := by
  cases cs with
  | nil => rw [substitute]; exact fun _ _ hc => absurd hc h
  | cons d cs => rw [substitute]; exact fun _ _ hc => absurd hc h

/-- A dollar sign that no digit follows stays. -/
theorem substitute_dollar {d : Char} (h : ¬ ('1' ≤ d ∧ d ≤ '9')) (args : List String)
    (cs : List Char) : substitute args ('$' :: d :: cs) = '$' :: substitute args (d :: cs) := by
  rw [substitute, if_neg h]

/-- What follows a dollar sign in a string is no digit if it was none before it was quoted. -/
theorem exists_escaped_eq_cons {cs : List Char} (h : ¬ MentionsArgument ('$' :: cs))
    (rest : List Char) :
    ∃ d more, escaped cs ++ '"' :: rest = d :: more ∧ ¬ ('1' ≤ d ∧ d ≤ '9') := by
  cases cs with
  | nil => exact ⟨'"', rest, rfl, by decide⟩
  | cons c cs =>
    rw [escaped]
    split_ifs
    · exact ⟨'\\', _, rfl, by decide⟩
    · exact ⟨c, _, rfl, fun digit => h ⟨c, digit.1, digit.2, ⟨[], cs, rfl⟩⟩⟩

/-- Filling in arguments leaves a string alone that mentions none. -/
theorem substitute_escaped {cs : List Char} (args : List String) (h : ¬ MentionsArgument cs)
    (rest : List Char) :
    substitute args (escaped cs ++ '"' :: rest) = escaped cs ++ '"' :: substitute args rest := by
  induction cs with
  | nil => exact substitute_cons (by decide) args rest
  | cons c cs ih =>
    have inner := ih fun later => h later.cons
    by_cases dollar : c = '$'
    · subst dollar
      obtain ⟨d, more, hd, noDigit⟩ := exists_escaped_eq_cons h rest
      rw [escaped, if_neg (by decide), List.cons_append, List.cons_append, ← inner, hd,
        substitute_dollar noDigit]
    · rw [escaped]
      split_ifs
      · rw [List.cons_append, List.cons_append, substitute_cons (by decide),
          substitute_cons dollar, inner]
        rfl
      · rw [List.cons_append, substitute_cons dollar, inner]
        rfl

theorem substitute_padded {cs : List Char} (args : List String) (h : ¬ MentionsArgument cs) :
    substitute args (padded cs) = padded cs := by
  have inner := substitute_escaped args h [' ']
  rw [substitute_cons (by decide), substitute] at inner
  rw [padded, quotation, List.cons_append, List.append_assoc, substitute_cons (by decide),
    substitute_cons (by decide), List.singleton_append, inner]

/-- The letter is a word unless it names a colour. -/
theorem Reads.f (hf : colors.knows "f" = false) {rest : List Char} (hd : Breaks rest) :
    Reads colors ['f'] rest fun p => [⟨.word, "f", p⟩] := by
  have alone : rest.takeWhile continuesWord = [] := by
    cases rest with
    | nil => rfl
    | cons d rest =>
      have stops := hd.stops (p := continuesWord) (by decide) d rfl
      exact List.takeWhile_cons_of_neg (by simp [stops])
  have chars : leadingWord ('f' :: rest) = ['f'] := by rw [leadingWord, if_pos (by decide), alone]
  have kind : ∀ next, wordKind colors ['f'] next = .word := fun next => by simp [wordKind, hf]
  refine .piece ?_
  show wordPiece colors ('f' :: rest) = _
  rw [wordPiece_eq, chars, kind]
  rfl

/-- What is read of a definition with a string as its text, and of a use of it in the next line. -/
theorem scan_definition (hf : colors.knows "f" = false) {s : String} (h : Quotable s.toList) :
    ∃ name text body line use last,
      scan colors ("define f \x7b " ++ inQuotes s ++ " \x7d\nf") =
        .ok ([⟨.word, "define", .first⟩, ⟨.word, "f", name⟩,
          ⟨.block (String.ofList (padded s.toList)), text, body⟩, ⟨.eol, "\n", line⟩,
          ⟨.word, "f", use⟩, ⟨.eof, "", last⟩], []) := by
  have keyword : ∀ rest,
      Reads colors "define".toList (' ' :: rest) fun p => [⟨.word, "define", p⟩] :=
    fun rest => .piece rfl
  have line : ∀ rest, Reads colors ['\n'] rest fun p => [⟨.eol, "\n", p⟩] := fun rest => .piece rfl
  have whole := (keyword _).append (Reads.space.append ((Reads.f hf (.space _)).append
    (Reads.space.append ((Reads.block h).append ((line _).append (Reads.f hf .nil))))))
  have chars : ("define f \x7b " ++ inQuotes s ++ " \x7d\nf").toList =
      "define".toList ++ ([' '] ++ (['f'] ++ ([' '] ++
        ('\x7b' :: (padded s.toList ++ ['\x7d']) ++ (['\n'] ++ ['f']))))) := by
    simp [inQuotes, padded]
  rw [← chars] at whole
  exact ⟨_, _, _, _, _, _, whole.scan⟩

/-- What a definition with a string as its text stands for: the string. -/
theorem bodyTokens_padded {s : String} (h : Quotable s.toList) (hm : ¬ MentionsArgument s.toList)
    (use : Token) (args : List String) :
    bodyTokens colors use (String.ofList (padded s.toList)) args =
      .ok [⟨.str s, inQuotes s, use.pos⟩] := by
  have space : Reads colors [' '] [] _ := .space
  have read := Reads.space.append ((Reads.string h).append space)
  have text : substitute args (String.ofList (padded s.toList)).toList = padded s.toList := by
    rw [String.toList_ofList, substitute_padded args hm]
  have chars : (String.ofList (padded s.toList)).toList =
      [' '] ++ (quotation s.toList ++ [' ']) := String.toList_ofList
  rw [← chars] at read
  rw [bodyTokens, text, tokenize, read.scan]
  simp [Token.relocate, inQuotes]

/-- A text comes back from the string that denotes it, and from a use of a definition with that
string as its text, if arguments are not mentioned in it. -/
theorem inQuotes_roundTrips (colors : ColorTable) {s : String} (h : Quotable s.toList) :
    (∃ last, scan colors (inQuotes s) = .ok ([⟨.str s, inQuotes s, .first⟩, last], []) ∧
      last.kind = .eof) ∧
    (colors.knows "f" = false → ¬ MentionsArgument s.toList →
      ∃ ts line use last,
        scan colors ("define f \x7b " ++ inQuotes s ++ " \x7d\nf") = .ok (ts, []) ∧
        expandTokens colors ts = .ok [line, ⟨.str s, inQuotes s, use⟩, last] ∧
        line.kind = .eol ∧ last.kind = .eof) := by
  refine ⟨⟨_, scan_inQuotes h, rfl⟩, fun hf hm => ?_⟩
  obtain ⟨name, text, body, line, use, last, scanned⟩ := scan_definition hf h
  refine ⟨_, ⟨.eol, "\n", line⟩, use, ⟨.eof, "", last⟩, scanned, ?_, rfl, rfl⟩
  let known : Definitions := [("f", String.ofList (padded s.toList))]
  have knows : known.lookup "f" = some (String.ofList (padded s.toList)) := rfl
  have arguments : useArguments [⟨.eof, "", last⟩] = .ok ([], 0) := rfl
  have tokens : bodyTokens colors ⟨.word, "f", use⟩ _ [] = _ := bodyTokens_padded h hm _ []
  have inside : Expands colors 9 known [⟨.str s, inQuotes s, use⟩]
      [(⟨.str s, inQuotes s, use⟩, known)] known := .keep rfl nofun (.nil _ _)
  have stop : Expands colors maxExpansionDepth known [⟨.eof, "", last⟩]
      [(⟨.eof, "", last⟩, known)] known := .keep rfl nofun (.nil _ _)
  have used : Expands colors maxExpansionDepth known [⟨.word, "f", use⟩, ⟨.eof, "", last⟩]
      [(⟨.str s, inQuotes s, use⟩, known), (⟨.eof, "", last⟩, known)] known :=
    .use rfl rfl knows arguments tokens inside stop
  have whole : Expands colors maxExpansionDepth [] [⟨.word, "define", .first⟩, ⟨.word, "f", name⟩,
      ⟨.block (String.ofList (padded s.toList)), text, body⟩, ⟨.eol, "\n", line⟩,
      ⟨.word, "f", use⟩, ⟨.eof, "", last⟩]
      [(⟨.eol, "\n", line⟩, known), (⟨.str s, inQuotes s, use⟩, known),
        (⟨.eof, "", last⟩, known)] known := .define rfl rfl (.keep rfl nofun used)
  exact expandTokens_eq_ok.2 ⟨_, whole.expandWith_eq⟩

/-- A text with a brace that closes a block, a quote, backslashes, the start of a comment, and
dollar signs before other characters. -/
theorem inQuotes_roundTrips_braces :
    let s := "\x7d\" \\ /* # $0 \\$"
    Quotable s.toList ∧ ColorTable.standard.knows "f" = false ∧ ¬ MentionsArgument s.toList ∧
      (∃ last, scan .standard (inQuotes s) = .ok ([⟨.str s, inQuotes s, .first⟩, last], []) ∧
        last.kind = .eof) ∧
      ∃ ts line use last,
        scan .standard ("define f \x7b " ++ inQuotes s ++ " \x7d\nf") = .ok (ts, []) ∧
        expandTokens .standard ts = .ok [line, ⟨.str s, inQuotes s, use⟩, last] ∧
        line.kind = .eol ∧ last.kind = .eof := by
  intro s
  have quotable : Quotable s.toList := by simp [s, Quotable]
  have unknown : ColorTable.standard.knows "f" = false := by decide
  have plain : ¬ MentionsArgument s.toList := by
    rintro ⟨d, low, high, here⟩
    simp [s, List.infix_cons_iff] at here
    subst here
    exact absurd low (by decide)
  obtain ⟨alone, defined⟩ := inQuotes_roundTrips .standard quotable
  exact ⟨quotable, unknown, plain, alone, defined unknown plain⟩

end DiagramScript
