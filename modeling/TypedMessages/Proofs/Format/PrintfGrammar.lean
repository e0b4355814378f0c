import TypedMessages.Proofs.Format.Indices
import TypedMessages.Proofs.Format.Scanning
import TypedMessages.Proofs.Format.SpecifierReading

/-!
# The grammar of texts with percent conversions

A text with percent conversions is a sequence of characters other than the percent sign and of specifiers. It can be read exactly if it is such a sequence, and the conversions that are read are then the specifiers of the sequence that have a conversion, with what they mean, in order. A specifier can be followed by anything, so the grammar needs no rule about where one ends.
-/

namespace TypedMessages

namespace Printf

/-- What a text is made of: a character that is no percent sign, or a specifier. -/
inductive Token
  | character (c : Char) (plain : c ≠ '%')
  | specifier (form : SpecifierForm)

namespace Token

def written : Token → List Char
  | character c _ => [c]
  | specifier form => '%' :: form.written

theorem written_ne_nil (token : Token) : token.written ≠ [] := by
  cases token <;> exact List.cons_ne_nil _ _

def specifier? : Token → Option Specifier
  | character _ _ => none
  | specifier form => form.specifier?

def part (token : Token) : Part :=
  match token.specifier? with
  | none => .literal (String.ofList token.written)
  | some content => .conversion ⟨content, 0, String.ofList token.written⟩

@[simp]
theorem text_part (token : Token) : token.part.text = String.ofList token.written := by
  unfold part
  split <;> rfl

theorem conversion?_part (token : Token) (position : Nat) :
    ((token.part.movedTo position).conversion?.map (·.content)) = token.specifier? := by
  unfold part
  split
  · next hnone => rw [hnone]; rfl
  · next hsome => rw [hsome]; rfl

end Token

/-! ### Reading tokens -/

theorem pieces_character {c : Char} (hplain : c ≠ '%') (position : Nat) (rest : List Char) :
    pieces position (c :: rest) =
      (pieces (position + c.utf8Size) rest).map (.literal (String.singleton c) :: ·) := by
  rw [pieces.eq_3 position c rest hplain]
  cases pieces (position + c.utf8Size) rest <;> rfl

theorem pieces_specifier (form : SpecifierForm) (position : Nat) (rest : List Char) :
    pieces position ('%' :: (form.written ++ rest)) =
      (pieces (position + (String.ofList ('%' :: form.written)).utf8ByteSize) rest).map
        ((Token.specifier form).part.movedTo position :: ·) := by
  have hread := Specifier.read_written form rest
  rw [pieces.eq_2]
  split
  · next fault left hfault =>
    rw [hread] at hfault
    cases hfault
  · next specifier left hspecifier =>
    rw [hread] at hspecifier
    cases hspecifier
    simp only [consumed_append, Token.part, Token.specifier?, Token.written]
    cases pieces (position + (String.ofList ('%' :: form.written)).utf8ByteSize) rest with
    | error error => rfl
    | ok others => cases form.specifier? <;> rfl

theorem pieces_written (position : Nat) (token : Token) (rest : List Char) :
    pieces position (token.written ++ rest) =
      (pieces (position + token.part.text.utf8ByteSize) rest).map (token.part.movedTo position :: ·) := by
  rw [token.text_part]
  cases token with
  | character c hplain =>
    have hpart : (Token.character c hplain).part.movedTo position = .literal (String.singleton c) := by
      rw [String.singleton_eq_ofList]
      rfl
    rw [hpart, Token.written, ← String.singleton_eq_ofList, String.utf8ByteSize_singleton]
    exact pieces_character hplain position rest
  | specifier form => exact pieces_specifier form position rest

theorem exists_token_of_pieces {position : Nat} {c : Char} {text : List Char} {parts : List Part}
    (h : pieces position (c :: text) = .ok parts) : ∃ (token : Token) (rest : List Char), c :: text = token.written ++ rest := by
  by_cases hc : c = '%'
  · subst hc
    rw [pieces.eq_2] at h
    split at h
    · cases h
    · next specifier left hread =>
      obtain ⟨form, rfl, _⟩ := Specifier.read_eq_ok_iff.1 hread
      exact ⟨.specifier form, left, rfl⟩
  · exact ⟨.character c hc, text, rfl⟩

/-- Every token can be taken at any time: nothing is remembered from one to the next. -/
def rules : PieceRules Unit where
  start := ()
  takes _ piece _ := ∃ token : Token, token.part = piece
  text_ne_empty := by
    rintro _ _ _ ⟨token, rfl⟩ hempty
    rw [token.text_part, String.ofList_eq_empty_iff] at hempty
    exact token.written_ne_nil hempty
  neutral _ _ := ⟨rfl, rfl⟩

theorem follows_pieces : rules.Follows fun _ => pieces where
  atEnd _ position := by rw [pieces]
  taking := by
    rintro _ _ _ ⟨token, rfl⟩ position rest
    rw [← pieces_written, token.text_part, String.toList_ofList]
  allowed := by
    intro _ position c text parts h
    obtain ⟨token, rest, htext⟩ := exists_token_of_pieces h
    refine ⟨token.part, (), rest, ⟨token, rfl⟩, ?_⟩
    rw [token.text_part, String.toList_ofList, htext]

theorem scan_iff {state : Unit} {pieces : List Part} :
    rules.Scan state pieces ↔ ∃ tokens : List Token, tokens.map Token.part = pieces := by
  constructor
  · intro h
    induction h with
    | nil => exact ⟨[], rfl⟩
    | cons htakes _ ih =>
      obtain ⟨token, rfl⟩ := htakes
      obtain ⟨tokens, rfl⟩ := ih
      exact ⟨token :: tokens, rfl⟩
  · rintro ⟨tokens, rfl⟩
    induction tokens with
    | nil => exact .nil ()
    | cons token tokens ih => exact .cons ⟨token, rfl⟩ ih

/-- What is read is laid out from tokens that make up the text, and any such tokens are what is read. -/
theorem parse_eq_ok_iff {text : String} {parts : List Part} :
    parse text = .ok parts ↔
      ∃ tokens : List Token, tokens.flatMap Token.written = text.toList ∧
        Part.joinLiterals (Part.layOut 0 (tokens.map Token.part)) = parts := by
  refine follows_pieces.parse_eq_ok_iff.trans ⟨?_, ?_⟩
  · rintro ⟨_, hscan, rfl, rfl⟩
    obtain ⟨tokens, rfl⟩ := scan_iff.1 hscan
    exact ⟨tokens, (Part.toList_source_map Token.text_part tokens).symm, rfl⟩
  · rintro ⟨tokens, htokens, rfl⟩
    refine ⟨_, scan_iff.2 ⟨tokens, rfl⟩, String.toList_inj.1 ?_, rfl⟩
    rw [Part.toList_source_map Token.text_part, htokens]

/-! ### Conversions -/

theorem conversionsOf_layOut (position : Nat) (tokens : List Token) :
    (conversionsOf (Part.layOut position (tokens.map Token.part))).map (·.content) =
      tokens.filterMap Token.specifier? := by
  induction tokens generalizing position with
  | nil => rfl
  | cons token tokens ih =>
    have hfirst := token.conversion?_part position
    rw [List.map_cons, Part.layOut, conversionsOf, List.filterMap_cons, List.filterMap_cons, ← conversionsOf, ← ih,
      ← hfirst]
    cases (token.part.movedTo position).conversion? <;> rfl

end Printf

open Printf in
/-- **Texts with percent conversions are read by their grammar.** A text can be read exactly if it is a sequence of characters other than the percent sign and of specifiers. Whatever such sequence it is, the conversions that are read are the specifiers of the sequence that have one, in order, with their argument, flags, width, precision, letter and suffix. -/
theorem parse_eq_ok_iff_tokens (text : String) :
    ((∃ parts, parseFormat .printf text = .ok parts) ↔
      ∃ tokens : List Token, tokens.flatMap Token.written = text.toList) ∧
    ∀ parts, parseFormat .printf text = .ok parts →
      ∀ tokens : List Token, tokens.flatMap Token.written = text.toList →
        (conversionsOf parts).map (·.content) = tokens.filterMap Token.specifier? := by
  have hread : ∀ tokens : List Token, tokens.flatMap Token.written = text.toList →
      parseFormat .printf text = .ok (Part.joinLiterals (Part.layOut 0 (tokens.map Token.part))) :=
    fun tokens htokens => parse_eq_ok_iff.2 ⟨tokens, htokens, rfl⟩
  refine ⟨⟨?_, ?_⟩, ?_⟩
  · rintro ⟨parts, hparts⟩
    obtain ⟨tokens, htokens, _⟩ := parse_eq_ok_iff.1 hparts
    exact ⟨tokens, htokens⟩
  · rintro ⟨tokens, htokens⟩
    exact ⟨_, hread tokens htokens⟩
  · intro parts hparts tokens htokens
    cases hparts.symm.trans (hread tokens htokens)
    rw [conversionsOf_joinLiterals, conversionsOf_layOut]

def amountTokens : List Printf.Token :=
  [.character '€' (by decide),
    .specifier
      { number := some ⟨['1'], by decide, by simp, by decide⟩
        flags := [.leftJustify]
        width := some ⟨['1', '0'], by decide, by simp, by decide⟩
        precision := some ⟨['2'], by decide, by simp, by decide⟩
        conversion := some ⟨.decimal, false, none, by decide, by decide, by simp⟩
        counted := by decide
        distinct := by decide
        unpadded := by decide },
    .specifier ⟨none, [], none, none, none, by decide, by decide, by decide⟩,
    .specifier
      { number := none
        flags := [.previous]
        width := none
        precision := none
        conversion := some ⟨.dateTime, false, some 'H', by decide, by decide, by rintro _ ⟨⟩; decide⟩
        counted := by decide
        distinct := by decide
        unpadded := by decide }]

theorem parse_eq_ok_iff_tokens_amount :
    amountTokens.flatMap Printf.Token.written = "€%1$-10.2f%%%<tH".toList ∧
    ∃ parts, parseFormat .printf "€%1$-10.2f%%%<tH" = .ok parts ∧
      (conversionsOf parts).map (·.content) =
        [{ index := .explicit 1, flags := [.leftJustify], width := some 10, precision := some 2,
            conversion := .decimal, upperCase := false, dateTime := none },
          { index := .previous, flags := [.previous], width := none, precision := none,
            conversion := .dateTime, upperCase := false, dateTime := some 'H' }] := by
  have hwritten : amountTokens.flatMap Printf.Token.written = "€%1$-10.2f%%%<tH".toList := by decide
  obtain ⟨hreadable, hconversions⟩ := parse_eq_ok_iff_tokens "€%1$-10.2f%%%<tH"
  obtain ⟨parts, hparts⟩ := hreadable.2 ⟨amountTokens, hwritten⟩
  refine ⟨hwritten, parts, hparts, ?_⟩
  rw [hconversions parts hparts amountTokens hwritten]
  decide

end TypedMessages
