import TypedMessages.Format.Basic
import TypedMessages.Proofs.Format.PatternPieces
import TypedMessages.Proofs.Format.PlaceholderForm

/-!
# The grammar of patterns

A pattern is a sequence of single characters and of placeholders. Whether a brace begins a placeholder is a matter of counting: the apostrophes that stand before it, outside of placeholders, have to be even in number, and where they are odd the brace is a character like any other. A text can be read exactly if it is such a sequence, and what is read are its placeholders with the runs of characters between them.

Doubled apostrophes need no rule of their own. A reader that looks one character ahead and passes over two apostrophes at once, with quoting left as it is, reads every text in the same way.
-/

namespace TypedMessages

namespace Pattern

/-- What a text is made of: single characters, and placeholders with their braces. -/
inductive Token
  | character (c : Char)
  | placeholder (body : List Char) (content : Placeholder) (balanced : Closes 0 body)
      (spelled : Placeholder.Spells body content)

namespace Token

def written : Token → List Char
  | character c => [c]
  | placeholder body _ _ _ => '{' :: body ++ ['}']

def placeholder? : Token → Option Placeholder
  | character _ => none
  | placeholder _ content _ _ => some content

def isApostrophe : Token → Bool
  | character c => c = '\''
  | placeholder _ _ _ _ => false

def part : Token → Part
  | character c => .literal (String.singleton c)
  | placeholder body content _ _ => .placeholder ⟨content, 0, String.ofList ('{' :: body ++ ['}'])⟩

theorem text_part (token : Token) : token.part.text = String.ofList token.written := by
  cases token with
  | character c => exact String.singleton_eq_ofList
  | placeholder body content balanced spelled => rfl

/-- Whether the token can stand where quoting is on or off: an opening brace only where it is on, a placeholder only where it is off. -/
def Allowed (quoted : Bool) : Token → Prop
  | character c => c = '{' → quoted = true
  | placeholder _ _ _ _ => quoted = false

/-- Whether quoting is on behind some tokens: so it is if the apostrophes among their characters are odd in number. -/
def quotedAfter (tokens : List Token) : Bool :=
  tokens.countP isApostrophe % 2 = 1

/-- Tokens that make up a text, each of them in a place where it can stand. -/
structure Spell (tokens : List Token) (text : String) : Prop where
  written : tokens.flatMap written = text.toList
  allowed : ∀ (before : List Token) (token : Token) (after : List Token),
    tokens = before ++ token :: after → token.Allowed (quotedAfter before)

/-! ### One token after another -/

/-- Every token can stand in its place if quoting is on or off in front of them all. -/
def AllAllowed (quoted : Bool) (tokens : List Token) : Prop :=
  ∀ (before : List Token) (token : Token) (after : List Token),
    tokens = before ++ token :: after → token.Allowed (quoted ^^ quotedAfter before)

theorem quotedAfter_cons (token : Token) (tokens : List Token) :
    quotedAfter (token :: tokens) = (token.isApostrophe ^^ quotedAfter tokens) := by
  rw [quotedAfter, quotedAfter, List.countP_cons]
  cases token.isApostrophe with
  | false => simp
  | true =>
    rw [if_pos rfl, Bool.true_xor, ← decide_not, decide_eq_decide]
    omega

theorem allAllowed_nil (quoted : Bool) : AllAllowed quoted [] := by
  intro before token after h
  cases before <;> cases h

theorem allAllowed_cons_iff {quoted : Bool} {token : Token} {tokens : List Token} :
    AllAllowed quoted (token :: tokens) ↔
      token.Allowed quoted ∧ AllAllowed (quoted ^^ token.isApostrophe) tokens := by
  constructor
  · intro h
    refine ⟨?_, fun before next after htokens => ?_⟩
    · have hfirst := h [] token tokens rfl
      rwa [show quotedAfter [] = false from rfl, Bool.xor_false] at hfirst
    · have hnext := h (token :: before) next after (by rw [htokens]; rfl)
      rwa [quotedAfter_cons, ← Bool.xor_assoc] at hnext
  · rintro ⟨hfirst, hrest⟩ before next after htokens
    cases before with
    | nil =>
      cases htokens
      rwa [show quotedAfter [] = false from rfl, Bool.xor_false]
    | cons first before =>
      cases htokens
      rw [quotedAfter_cons, ← Bool.xor_assoc]
      exact hrest before next after rfl

/-! ### Tokens as pieces -/

theorem takes_part {quoted : Bool} {token : Token} (h : token.Allowed quoted) :
    Takes quoted token.part (quoted ^^ token.isApostrophe) := by
  cases token with
  | character c =>
    have hplain : ¬(c = '{' ∧ quoted = false) := by
      rintro ⟨hc, hquoted⟩
      rw [h hc] at hquoted
      cases hquoted
    have hnext : (quoted ^^ isApostrophe (.character c)) = if c = '\'' then !quoted else quoted := by
      by_cases hc : c = '\'' <;> simp [isApostrophe, hc]
    rw [hnext]
    exact .character hplain
  | placeholder body content balanced spelled =>
    cases h
    have hread := Placeholder.read_eq_ok_iff.2 spelled
    exact .placeholder (splitAtClosing_eq_some_iff.2 ⟨rfl, balanced⟩) hread

theorem exists_of_takes {quoted next : Bool} {piece : Part} (h : Takes quoted piece next) :
    ∃ token : Token, token.part = piece ∧ token.Allowed quoted ∧ (quoted ^^ token.isApostrophe) = next := by
  cases h with
  | @character _ c plain =>
    refine ⟨.character c, rfl, fun hc => ?_, ?_⟩
    · simpa [hc] using plain
    · by_cases hc : c = '\'' <;> simp [isApostrophe, hc]
  | @placeholder body content closed read =>
    have hbalanced := (splitAtClosing_eq_some_iff.1 closed).2
    exact ⟨.placeholder body content hbalanced (Placeholder.read_eq_ok_iff.1 read), rfl, rfl, rfl⟩

theorem scan_iff {quoted : Bool} {pieces : List Part} :
    rules.Scan quoted pieces ↔ ∃ tokens : List Token, AllAllowed quoted tokens ∧ tokens.map part = pieces := by
  constructor
  · intro h
    induction h with
    | nil quoted => exact ⟨[], allAllowed_nil quoted, rfl⟩
    | cons htakes _ ih =>
      obtain ⟨token, rfl, hallowed, rfl⟩ := exists_of_takes htakes
      obtain ⟨tokens, htokens, rfl⟩ := ih
      exact ⟨token :: tokens, allAllowed_cons_iff.2 ⟨hallowed, htokens⟩, rfl⟩
  · rintro ⟨tokens, htokens, rfl⟩
    induction tokens generalizing quoted with
    | nil => exact .nil quoted
    | cons token tokens ih =>
      obtain ⟨hallowed, hrest⟩ := allAllowed_cons_iff.1 htokens
      exact .cons (takes_part hallowed) (ih hrest)

end Token

open Token

/-- What is read is laid out from tokens that make up the text, and any such tokens are what is read. -/
theorem parse_eq_ok_iff {text : String} {parts : List Part} :
    parse text = .ok parts ↔
      ∃ tokens : List Token, Spell tokens text ∧ Part.joinLiterals (Part.layOut 0 (tokens.map part)) = parts := by
  have hallowed (tokens : List Token) : AllAllowed false tokens ↔ ∀ before token after,
      tokens = before ++ token :: after → token.Allowed (quotedAfter before) := by
    simp only [AllAllowed, Bool.false_xor]
  refine follows_pieces.parse_eq_ok_iff.trans ⟨?_, ?_⟩
  · rintro ⟨_, hscan, rfl, rfl⟩
    obtain ⟨tokens, htokens, rfl⟩ := scan_iff.1 hscan
    have hwritten := (Part.toList_source_map text_part tokens).symm
    exact ⟨tokens, ⟨hwritten, (hallowed tokens).1 htokens⟩, rfl⟩
  · rintro ⟨tokens, htokens, rfl⟩
    have hscan := scan_iff.2 ⟨tokens, (hallowed tokens).2 htokens.allowed, rfl⟩
    refine ⟨_, hscan, String.toList_inj.1 ?_, rfl⟩
    rw [Part.toList_source_map text_part, htokens.written]

theorem placeholdersOf_layOut (tokens : List Token) :
    (placeholdersOf (Part.joinLiterals (Part.layOut 0 (tokens.map part)))).map (·.content) =
      tokens.filterMap placeholder? := by
  have hmoved (position : Nat) (part : Part) :
      (part.movedTo position).placeholder?.map (·.content) = part.placeholder?.map (·.content) := by
    cases part <;> rfl
  rw [placeholdersOf, List.map_filterMap, Part.filterMap_joinLiterals (fun _ => rfl), Part.filterMap_layOut hmoved,
    List.filterMap_map]
  refine List.filterMap_congr fun token _ => ?_
  cases token <;> rfl

/-! ### Looking ahead -/

/-- A literal that has been gathered, as a part, unless there is none. -/
def gathered (literal : List Char) : List Part :=
  if literal = [] then [] else [.literal (String.ofList literal)]

/-- Reads a text behind a literal that has been gathered. Of two apostrophes side by side neither turns quoting on or off. -/
def readAhead (quoted : Bool) (literal : List Char) (position : Nat) : List Char → Except ParseError (List Part)
  | [] => .ok (gathered literal)
  | '\'' :: '\'' :: rest => readAhead quoted (literal ++ ['\'', '\'']) (position + 2) rest
  | c :: rest =>
    if c = '\'' then readAhead (!quoted) (literal ++ [c]) (position + c.utf8Size) rest
    else if c = '{' ∧ quoted = false then
      match _hsplit : splitAtClosing 0 rest with
      | none => .error ⟨.unmatchedBrace, position, String.ofList (c :: rest)⟩
      | some (body, left) =>
        let text := String.ofList ('{' :: body ++ ['}'])
        match Placeholder.read body with
        | .error fault => .error ⟨fault, position, text⟩
        | .ok content =>
          (readAhead quoted [] (position + text.utf8ByteSize) left).map
            (gathered literal ++ .placeholder ⟨content, position, text⟩ :: ·)
    else readAhead quoted (literal ++ [c]) (position + c.utf8Size) rest
termination_by text => text.length
decreasing_by
  · simp only [List.length_cons]
    omega
  · simp
  · have := congrArg List.length (eq_append_of_splitAtClosing _hsplit)
    simp only [List.length_cons, List.length_append] at this ⊢
    omega
  · simp

theorem joinLiterals_gathered_concat (literal : List Char) (c : Char) (parts : List Part) :
    Part.joinLiterals (gathered (literal ++ [c]) ++ parts) =
      Part.joinLiterals (gathered literal ++ .literal (String.singleton c) :: parts) := by
  have hgathered : gathered (literal ++ [c]) = [.literal (String.ofList literal ++ String.singleton c)] := by
    rw [gathered, if_neg (by simp), String.ofList_append, ← String.singleton_eq_ofList]
  rw [hgathered, List.singleton_append, Part.joinLiterals_cons]
  by_cases hempty : literal = []
  · rw [hempty, gathered, if_pos rfl, List.nil_append, Part.joinLiterals_cons, String.ofList_nil, String.empty_append]
  · rw [gathered, if_neg hempty, List.singleton_append, Part.joinLiterals_cons, Part.joinLiterals_cons,
      Part.cons_append_literal]

theorem joinLiterals_gathered_placeholder (literal : List Char) (located : Located Placeholder) (parts : List Part) :
    Part.joinLiterals (gathered literal ++ .placeholder located :: parts) =
      gathered literal ++ .placeholder located :: Part.joinLiterals parts := by
  unfold gathered
  split <;> rfl

theorem map_gathered_character {quoted : Bool} {c : Char} (hplain : ¬(c = '{' ∧ quoted = false)) (literal : List Char)
    (position : Nat) (rest : List Char) :
    ((pieces quoted position (c :: rest)).map fun parts => Part.joinLiterals (gathered literal ++ parts)) =
      (pieces (if c = '\'' then !quoted else quoted) (position + c.utf8Size) rest).map fun parts =>
        Part.joinLiterals (gathered (literal ++ [c]) ++ parts) := by
  rw [pieces_character hplain]
  simp only [joinLiterals_gathered_concat]
  cases pieces (if c = '\'' then !quoted else quoted) (position + c.utf8Size) rest <;> rfl

/-- Passing over doubled apostrophes at once, and gathering literals on the way, gives what reading piece by piece gives. -/
theorem readAhead_eq (quoted : Bool) (literal : List Char) (position : Nat) (text : List Char) :
    readAhead quoted literal position text =
      (pieces quoted position text).map fun parts => Part.joinLiterals (gathered literal ++ parts) := by
  have hapostrophe (quoted : Bool) : ¬('\'' = '{' ∧ quoted = false) := fun h => absurd h.1 (by decide)
  fun_induction readAhead quoted literal position text with
  | case1 quoted literal position =>
    rw [pieces]
    unfold gathered
    split <;> rfl
  | case2 quoted literal position rest ih =>
    -- The first apostrophe turns quoting on or off, and the second turns it back.
    rw [ih, map_gathered_character (hapostrophe quoted), if_pos rfl, map_gathered_character (hapostrophe _), if_pos rfl,
      Bool.not_not, List.append_assoc]
    rfl
  | case3 quoted literal position rest _ ih =>
    rw [ih, map_gathered_character (hapostrophe quoted), if_pos rfl]
  | case4 quoted literal position c rest _ _ hopening hsplit =>
    obtain ⟨rfl, rfl⟩ := hopening
    rw [pieces_unclosed hsplit]
    rfl
  | case5 quoted literal position c rest _ _ hopening body left hsplit text fault hread =>
    obtain ⟨rfl, rfl⟩ := hopening
    rw [pieces_misread hsplit hread]
    rfl
  | case6 quoted literal position c rest _ _ hopening body left hsplit text content hread ih =>
    obtain ⟨rfl, rfl⟩ := hopening
    obtain ⟨rfl, hbalanced⟩ := splitAtClosing_eq_some_iff.1 hsplit
    rw [ih, pieces_placeholder (splitAtClosing_eq_some_iff.2 ⟨rfl, hbalanced⟩) hread]
    cases pieces false (position + text.utf8ByteSize) left with
    | error error => rfl
    | ok parts => exact congrArg Except.ok (joinLiterals_gathered_placeholder literal _ parts).symm
  | case7 quoted literal position c rest _ hc hplain ih =>
    rw [ih, map_gathered_character hplain, if_neg hc]

end Pattern

open Pattern in
/-- **Patterns are read by their grammar, and quoting is counted.** A text can be read exactly if it is a sequence of characters and of placeholders, where an opening brace is a character only behind an odd number of apostrophes and a placeholder stands only behind an even number of them, those inside placeholders left out. Whatever such sequence it is, the parts that are read are its placeholders, with their argument number, type and style, and the runs of its characters. A reader that passes over doubled apostrophes at once reads the same, and fails in the same way. -/
theorem parse_eq_ok_iff_placeholders (text : String) :
    ((∃ parts, parseFormat .messageFormat text = .ok parts) ↔ ∃ tokens : List Token, Token.Spell tokens text) ∧
    (∀ parts, parseFormat .messageFormat text = .ok parts → ∀ tokens : List Token, Token.Spell tokens text →
      parts = Part.joinLiterals (Part.layOut 0 (tokens.map Token.part)) ∧
      (placeholdersOf parts).map (·.content) = tokens.filterMap Token.placeholder?) ∧
    parseFormat .messageFormat text = readAhead false [] 0 text.toList := by
  have hread : ∀ tokens : List Token, Token.Spell tokens text →
      parseFormat .messageFormat text = .ok (Part.joinLiterals (Part.layOut 0 (tokens.map Token.part))) :=
    fun tokens htokens => parse_eq_ok_iff.2 ⟨tokens, htokens, rfl⟩
  refine ⟨⟨?_, ?_⟩, ?_, ?_⟩
  · rintro ⟨parts, hparts⟩
    obtain ⟨tokens, htokens, _⟩ := parse_eq_ok_iff.1 hparts
    exact ⟨tokens, htokens⟩
  · rintro ⟨tokens, htokens⟩
    exact ⟨_, hread tokens htokens⟩
  · intro parts hparts tokens htokens
    cases hparts.symm.trans (hread tokens htokens)
    exact ⟨rfl, placeholdersOf_layOut tokens⟩
  · rw [readAhead_eq]
    rfl

def dateTokens : List Pattern.Token :=
  [.character '\'', .character '\'',
    .placeholder ([' ', '1', ' '] ++ ',' :: ['D', 'a', 't', 'e']) ⟨1, some .date, none⟩
      (splitAtClosing_eq_some_iff.1 (by decide : splitAtClosing 0 " 1 ,Date\x7d".toList = some (_, []))).2
      (.typed (by decide) (trimmed_iff.2 (rfl : trimBlanks [' ', '1', ' '] = ['1']))
        (.plain ⟨['1'], List.cons_ne_nil _ _, List.forall_mem_singleton.2 rfl, by decide⟩) (by decide)
        (trimmed_iff.2 (rfl : trimBlanks ['D', 'a', 't', 'e'] = ['D', 'a', 't', 'e'])) (by unfold SpellsType; decide)),
    .character '\'', .character '{', .character '\'']

theorem spell_dateTokens : Pattern.Token.Spell dateTokens "''\x7b 1 ,Date\x7d'\x7b'" := by
  have hallowed : Pattern.Token.AllAllowed false dateTokens := by
    simp [dateTokens, Pattern.Token.allAllowed_cons_iff, Pattern.Token.allAllowed_nil, Pattern.Token.Allowed,
      Pattern.Token.isApostrophe]
  exact ⟨by decide, by simpa [Pattern.Token.AllAllowed] using hallowed⟩

theorem parse_eq_ok_iff_placeholders_date :
    Pattern.Token.Spell dateTokens "''\x7b 1 ,Date\x7d'\x7b'" ∧
      parseFormat .messageFormat "''\x7b 1 ,Date\x7d'\x7b'" =
        .ok [.literal "''", .placeholder ⟨⟨1, some .date, none⟩, 2, "\x7b 1 ,Date\x7d"⟩, .literal "'\x7b'"] := by
  obtain ⟨hreadable, hparts, _⟩ := parse_eq_ok_iff_placeholders "''\x7b 1 ,Date\x7d'\x7b'"
  obtain ⟨parts, hread⟩ := hreadable.2 ⟨dateTokens, spell_dateTokens⟩
  refine ⟨spell_dateTokens, ?_⟩
  rw [hread, (hparts parts hread dateTokens spell_dateTokens).1]
  decide

end TypedMessages
