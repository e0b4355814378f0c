import TypedMessages.Format.Basic
import TypedMessages.Proofs.Format.PatternPieces
import TypedMessages.Proofs.Format.PrintfGrammar

/-!
# Parts account for their text

Whatever notation a text is in, the parts that it is read into are the text, cut into pieces: nothing is lost or moved, literals are as long as they can be, and every piece is read as the same part when it stands alone.
-/

namespace TypedMessages

/-- The parts are the text cut into pieces that a way to read texts knows again one by one. -/
structure Tokenizes (read : String → Except ParseError (List Part)) (text : String) (parts : List Part) : Prop where
  lossless : String.join (parts.map Part.text) = text
  placed : ∀ (before : List Part) (part : Part) (after : List Part), parts = before ++ part :: after →
    ∀ position, part.position? = some position → position = (before.map (·.text.utf8ByteSize)).sum
  nonempty : ∀ part ∈ parts, part.text ≠ ""
  separated : Part.Separated parts
  readable : ∀ part ∈ parts, read part.text = .ok [part.movedTo 0]

theorem PieceRules.Follows.tokenizes {State : Type} {rules : PieceRules State}
    {read : State → Nat → List Char → Except ParseError (List Part)} (hfollows : rules.Follows read) {text : String}
    {parts : List Part} (h : (read rules.start 0 text.toList).map Part.joinLiterals = .ok parts) :
    Tokenizes (fun text => (read rules.start 0 text.toList).map Part.joinLiterals) text parts := by
  obtain ⟨pieces, hscan, rfl, rfl⟩ := hfollows.parse_eq_ok_iff.1 h
  have hlayout : Part.joinLiterals (Part.layOut 0 pieces) = Part.layOut 0 (Part.joinLiterals pieces) :=
    (Part.layOut_joinLiterals 0 pieces).symm
  constructor
  case lossless =>
    change Part.source _ = _
    rw [Part.source_joinLiterals, Part.source_layOut]
  case placed =>
    intro before part after hparts position hposition
    have hplaced : Part.layOut 0 (before ++ part :: after) = before ++ part :: after := by
      rw [← hparts, Part.layOut_joinLiterals, Part.layOut_layOut]
    rw [Part.position?_of_layOut_eq hplaced hposition, Nat.zero_add]
  case nonempty =>
    rw [hlayout]
    intro placed hplaced
    obtain ⟨part, hpart, offset, rfl⟩ := Part.exists_of_mem_layOut hplaced
    rw [Part.text_movedTo]
    exact Part.text_ne_empty_of_mem_joinLiterals hscan.text_ne_empty part hpart
  case separated => exact Part.separated_joinLiterals _
  case readable =>
    rw [hlayout]
    intro placed hplaced
    obtain ⟨part, hpart, offset, rfl⟩ := Part.exists_of_mem_layOut hplaced
    obtain ⟨again, hagain, hjoined⟩ := hscan.yields part hpart
    refine hfollows.parse_eq_ok_iff.2 ⟨again, hagain, ?_, ?_⟩
    · rw [← Part.source_joinLiterals, hjoined, Part.source_cons, Part.source_nil, String.append_empty,
        Part.text_movedTo]
    · rw [← Part.layOut_joinLiterals, hjoined, Part.movedTo_movedTo]
      rfl

theorem tokenizes_plain {text : String} {parts : List Part} (h : parseFormat .noFormat text = .ok parts) :
    Tokenizes (parseFormat .noFormat) text parts := by
  by_cases hempty : text = ""
  · subst hempty
    cases h
    exact ⟨rfl, by simp, by simp, .nil, by simp⟩
  · have hnonempty : text.isEmpty = false := by simpa using hempty
    have hparse : parseFormat .noFormat text = .ok [.literal text] := by
      rw [parseFormat, hnonempty]
      rfl
    cases hparse.symm.trans h
    constructor
    case lossless => simp [Part.text]
    case placed =>
      intro before part after hparts position hposition
      rcases List.append_eq_singleton_iff.1 hparts.symm with ⟨rfl, hpart⟩ | ⟨_, hnil⟩
      · cases hpart
        cases hposition
      · cases hnil
    case nonempty => simpa [Part.text] using hempty
    case separated => exact .singleton _
    case readable => simpa [Part.text, Part.movedTo] using hparse

/-- **The parts of a text account for it.** Whenever a text can be read, in any notation, the texts of the parts one after another are the text; every conversion and every placeholder stands at the number of bytes that the parts before it take; no part is empty and no two literals are neighbours; and the text of each part, read by itself, is that part alone. -/
theorem tokenizes_of_parseFormat {kind : FormatKind} {text : String} {parts : List Part}
    (h : parseFormat kind text = .ok parts) : Tokenizes (parseFormat kind) text parts := by
  cases kind with
  | printf => exact Printf.follows_pieces.tokenizes h
  | messageFormat => exact Pattern.follows_pieces.tokenizes h
  | noFormat => exact tokenizes_plain h

def amountParts : List Part :=
  [.literal "€",
    .conversion
      { content :=
          { index := .explicit 1, flags := [.leftJustify], width := some 10, precision := some 2,
            conversion := .decimal, upperCase := false, dateTime := none }
        position := 3
        text := "%1$-10.2f" },
    .literal "%%",
    .conversion
      { content :=
          { index := .previous, flags := [.previous], width := none, precision := none,
            conversion := .dateTime, upperCase := false, dateTime := some 'H' }
        position := 14
        text := "%<tH" }]

theorem tokenizes_of_parseFormat_amount :
    parseFormat .printf "€%1$-10.2f%%%<tH" = .ok amountParts ∧
      Tokenizes (parseFormat .printf) "€%1$-10.2f%%%<tH" amountParts := by
  have hparse : parseFormat .printf "€%1$-10.2f%%%<tH" = .ok amountParts :=
    Printf.parse_eq_ok_iff.2 ⟨amountTokens, by decide, by decide⟩
  exact ⟨hparse, tokenizes_of_parseFormat hparse⟩

end TypedMessages
