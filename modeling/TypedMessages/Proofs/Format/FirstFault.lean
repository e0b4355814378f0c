import TypedMessages.Format.Basic
import TypedMessages.Proofs.Format.PatternPieces
import TypedMessages.Proofs.Format.PrintfGrammar

/-!
# The first fault of a text

A text that cannot be read has a first specifier or placeholder with a fault, and that is the one that the error names: all before it can be read, and the text of the error, which begins at its percent sign or brace, is enough to show the fault.

The reader of specifiers says what is left where it stops, and the error's text is what it has read until then. That this part has the same fault by itself is a fact about each stage: a stage is local if it never looks behind what it takes, so that the text may be cut anywhere behind that. Stages that are local remain so when they are put one after another.
-/

namespace TypedMessages

namespace Specifier

/-- What a stage reads, and in what it fails, does not change when the text is cut behind what it has read. -/
structure IsLocal {α : Type} (stage : List Char → Reading α) : Prop where
  ok : ∀ {text rest : List Char} {value : α}, stage text = .ok (value, rest) →
    ∃ front, text = front ++ rest ∧ ∀ ahead, ahead <+: rest → stage (front ++ ahead) = .ok (value, ahead)
  error : ∀ {text left : List Char} {fault : FormatFault}, stage text = .error (fault, left) →
    ∃ front, text = front ++ left ∧ stage front = .error (fault, [])

namespace IsLocal

variable {α β : Type}

theorem pure (value : α) : IsLocal fun text => .ok (value, text) where
  ok h := by
    cases h
    exact ⟨[], rfl, fun ahead _ => rfl⟩
  error h := by cases h

theorem bind {stage : List Char → Reading α} {next : α → List Char → Reading β} (hstage : IsLocal stage)
    (hnext : ∀ value, IsLocal (next value)) :
    IsLocal fun text => Except.bind (stage text) fun read => next read.1 read.2 where
  ok {text rest value} h := by
    obtain ⟨⟨first, middle⟩, hfirst, hsecond⟩ := bind_eq_ok_iff.1 h
    obtain ⟨front, rfl, hfront⟩ := hstage.ok hfirst
    obtain ⟨back, rfl, hback⟩ := (hnext first).ok hsecond
    refine ⟨front ++ back, (List.append_assoc ..).symm, fun ahead hahead => ?_⟩
    have hread := hfront (back ++ ahead) ((List.prefix_append_right_inj back).2 hahead)
    rw [List.append_assoc]
    exact bind_eq_ok_iff.2 ⟨_, hread, hback ahead hahead⟩
  error {text left fault} h := by
    cases hfirst : stage text with
    | error failed =>
      rw [hfirst] at h
      cases h
      obtain ⟨front, rfl, hfront⟩ := hstage.error hfirst
      refine ⟨front, rfl, ?_⟩
      rw [hfront]
      rfl
    | ok read =>
      rw [hfirst] at h
      obtain ⟨front, rfl, hfront⟩ := hstage.ok hfirst
      obtain ⟨back, heq, hback⟩ := (hnext read.1).error h
      have hread := hfront back (heq ▸ List.prefix_append back left)
      refine ⟨front ++ back, by rw [heq, List.append_assoc], ?_⟩
      rw [hread]
      exact hback

end IsLocal

/-! ### Stages -/

theorem spanDigits_cut {text digits rest : List Char} (hspan : spanDigits text = (digits, rest)) {ahead : List Char}
    (hahead : ahead <+: rest) : text = digits ++ rest ∧ spanDigits (digits ++ ahead) = (digits, ahead) := by
  have happend := spanDigits_append text
  have hdecimal := @isDigit_of_mem_spanDigits text
  have hstop : ∀ c ∈ rest.head?, c.isDigit = false := by
    have hnot := List.head?_dropWhile_not Char.isDigit text
    rw [show text.dropWhile Char.isDigit = rest from congrArg Prod.snd hspan] at hnot
    intro c hc
    rw [hc] at hnot
    exact hnot
  rw [hspan] at happend hdecimal
  refine ⟨happend.symm, spanDigits_of_append hdecimal fun c hc => hstop c ?_⟩
  obtain ⟨behind, rfl⟩ := hahead
  rw [List.head?_append, hc]
  rfl

/-- Where no number is read of a text, none is read of its beginning. -/
theorem readIndex_of_prefix {text ahead : List Char} (h : readIndex text = .ok (.implicit, text)) (hahead : ahead <+: text) :
    readIndex ahead = .ok (.implicit, ahead) := by
  obtain ⟨behind, rfl⟩ := hahead
  unfold readIndex
  split
  · next digit digits rest hspan =>
    exfalso
    have hdecimal := @isDigit_of_mem_spanDigits ahead
    obtain ⟨rfl, _⟩ := spanDigits_cut hspan (List.prefix_refl _)
    rw [hspan] at hdecimal
    have hlonger : spanDigits (digit :: digits ++ '$' :: rest ++ behind) = (digit :: digits, '$' :: (rest ++ behind)) := by
      rw [List.append_assoc]
      refine spanDigits_of_append hdecimal ?_
      rintro _ ⟨⟩
      decide
    rw [readIndex, hlonger] at h
    simp only at h
    split at h <;> cases h
  · rfl

theorem readIndex_isLocal : IsLocal readIndex where
  ok {text rest index} h := by
    obtain ⟨number, hcounted, rfl, rfl⟩ := of_readIndex h
    cases number with
    | none => exact ⟨[], rfl, fun ahead hahead => readIndex_of_prefix h hahead⟩
    | some numeral =>
      refine ⟨SpecifierForm.writtenNumber (some numeral), rfl, fun ahead _ => ?_⟩
      rw [SpecifierForm.writtenNumber, Option.elim_some, List.append_assoc]
      exact readIndex_numeral (hcounted numeral rfl) ahead
  error {text left fault} h := by
    unfold readIndex at h
    split at h
    · next digit digits rest hspan =>
      obtain ⟨htext, hcut⟩ := spanDigits_cut hspan (show ['$'] <+: '$' :: rest from ⟨rest, rfl⟩)
      split at h
      · cases h
      · next hvalue =>
        cases h
        refine ⟨digit :: digits ++ ['$'], by rw [htext, List.append_assoc]; rfl, ?_⟩
        simp only [readIndex, hcut]
    · cases h

theorem readFlags_isLocal (seen : List Flag) : IsLocal (readFlags seen) where
  ok {text rest flags} h := by
    induction text generalizing seen flags with
    | nil =>
      cases h
      exact ⟨[], rfl, fun ahead hahead => by rw [List.prefix_nil.1 hahead]; rfl⟩
    | cons c text ih =>
      unfold readFlags at h
      split at h
      · next hc =>
        cases h
        refine ⟨[], rfl, fun ahead hahead => ?_⟩
        rcases List.prefix_cons_iff.1 hahead with rfl | ⟨left, rfl, _⟩
        · rfl
        · simp only [List.nil_append, readFlags, hc]
      · next flag hflag =>
        split at h
        · cases h
        · next hnew =>
          split at h
          · cases h
          · next others left hread =>
            cases h
            obtain ⟨front, rfl, hfront⟩ := ih _ hread
            refine ⟨c :: front, rfl, fun ahead hahead => ?_⟩
            simp only [List.cons_append, readFlags, hflag, if_neg hnew, hfront ahead hahead]
  error {text left fault} h := by
    induction text generalizing seen with
    | nil => cases h
    | cons c text ih =>
      unfold readFlags at h
      split at h
      · cases h
      · next flag hflag =>
        split at h
        · next hseen =>
          cases h
          exact ⟨[c], rfl, by simp only [readFlags, hflag, if_pos hseen]⟩
        · next hnew =>
          split at h
          · next hread =>
            cases h
            obtain ⟨front, rfl, hfront⟩ := ih _ hread
            exact ⟨c :: front, rfl, by simp only [readFlags, hflag, if_neg hnew, hfront]⟩
          · cases h

theorem readWidth_isLocal : IsLocal readWidth where
  ok {text rest width} h := by
    unfold readWidth at h
    split at h
    · next rest hspan =>
      cases h
      refine ⟨[], rfl, fun ahead hahead => ?_⟩
      obtain ⟨rfl, _⟩ := spanDigits_cut hspan (List.prefix_refl _)
      have hcut := (spanDigits_cut hspan hahead).2
      rw [List.nil_append] at hcut ⊢
      rw [readWidth, hcut]
    · next digits rest hnonempty hspan =>
      split at h
      · next number hnumber =>
        cases h
        obtain ⟨htext, _⟩ := spanDigits_cut hspan (List.prefix_refl _)
        refine ⟨digits, htext, fun ahead hahead => ?_⟩
        obtain ⟨_, hcut⟩ := spanDigits_cut hspan hahead
        unfold readWidth
        rw [hcut]
        simp only [hnumber]
      · cases h
  error {text left fault} h := by
    unfold readWidth at h
    split at h
    · cases h
    · next digits rest hnonempty hspan =>
      obtain ⟨htext, hcut⟩ := spanDigits_cut hspan List.nil_prefix
      split at h
      · cases h
      · next hnumber =>
        cases h
        refine ⟨digits, htext, ?_⟩
        unfold readWidth
        rw [List.append_nil] at hcut
        rw [hcut]
        simp only [hnumber]

theorem readPrecision_isLocal : IsLocal readPrecision where
  ok {text rest precision} h := by
    unfold readPrecision at h
    split at h
    · next digits =>
      split at h
      · cases h
      · next hsome =>
        obtain ⟨front, rfl, hfront⟩ := readWidth_isLocal.ok h
        refine ⟨'.' :: front, rfl, fun ahead hahead => ?_⟩
        rw [List.cons_append, readPrecision, hfront ahead hahead]
        split
        · next heq =>
          cases heq
          exact absurd h (hsome rest)
        · rfl
    · next hpoint =>
      cases h
      refine ⟨[], rfl, fun ahead hahead => ?_⟩
      unfold readPrecision
      split
      · next left hleft =>
        obtain ⟨behind, rfl⟩ := hahead
        rw [List.nil_append] at hleft
        exact (hpoint (left ++ behind) (by rw [hleft]; rfl)).elim
      · rfl
  error {text left fault} h := by
    unfold readPrecision at h
    split at h
    · next digits =>
      split at h
      · next rest hnone =>
        cases h
        obtain ⟨front, rfl, hfront⟩ := readWidth_isLocal.ok hnone
        have hcut := hfront [] List.nil_prefix
        rw [List.append_nil] at hcut
        exact ⟨'.' :: front, rfl, by rw [readPrecision, hcut]⟩
      · obtain ⟨front, rfl, hfront⟩ := readWidth_isLocal.error h
        exact ⟨'.' :: front, rfl, by rw [readPrecision, hfront]⟩
    · cases h

theorem readConversion_isLocal : IsLocal readConversion where
  ok {text rest reading} h := by
    obtain ⟨conversion, rfl, rfl⟩ := of_readConversion h
    exact ⟨_, rfl, fun ahead _ => readConversion_written conversion ahead⟩
  error {text left fault} h := by
    unfold readConversion at h
    split at h
    · cases h
      exact ⟨[], rfl, rfl⟩
    · cases h
    · next c text hpercent =>
      split at h
      · next hc =>
        cases h
        exact ⟨[c], rfl, by simp only [readConversion, hc]⟩
      · next hc =>
        split at h
        · cases h
          exact ⟨[c], rfl, by simp only [readConversion, hc]⟩
        · next suffix rest =>
          split at h
          · cases h
          · next hsuffix =>
            cases h
            exact ⟨[c, suffix], rfl, by simp only [readConversion, hc, if_neg hsuffix]⟩
      · cases h

theorem read_isLocal : IsLocal read := by
  have hlocal := readIndex_isLocal.bind fun index => (readFlags_isLocal []).bind fun flags =>
    readWidth_isLocal.bind fun width => readPrecision_isLocal.bind fun precision =>
      readConversion_isLocal.bind fun reading =>
        IsLocal.pure (reading.map fun kind =>
          Specifier.mk (if Flag.previous ∈ flags then .previous else index) flags width precision kind.1 kind.2.1
            kind.2.2)
  exact hlocal

end Specifier

/-! ### The piece with the fault -/

namespace PieceRules

variable {State : Type} {rules : PieceRules State} {read : State → Nat → List Char → Except ParseError (List Part)}
  {opening : Char} {state : State} {position : Nat} {text : List Char} {error : ParseError}

/-- The error names the place where the text begins, and its text, which begins with the opening character, fails in the same way without what follows. -/
structure IsFrontFault (read : State → Nat → List Char → Except ParseError (List Part)) (opening : Char) (state : State)
    (position : Nat) (text : List Char) (error : ParseError) : Prop where
  position_eq : error.position = position
  front : error.text.toList <+: text
  opened : error.text.toList.head? = some opening
  repeated : read state position error.text.toList = .error error

/-- A reader by the rules that, where it cannot take a piece, fails with the fault that is in front there. -/
structure FailsInFront (rules : PieceRules State) (opening : Char)
    (read : State → Nat → List Char → Except ParseError (List Part)) : Prop extends rules.Follows read where
  failing : ∀ {state : State} {position : Nat} {c : Char} {text : List Char} {error : ParseError},
    read state position (c :: text) = .error error →
      (∃ piece next rest, rules.takes state piece next ∧ c :: text = piece.text.toList ++ rest) ∨
        IsFrontFault read opening state position (c :: text) error

theorem FailsInFront.exists_fault (h : rules.FailsInFront opening read)
    (hread : read state position text = .error error) :
    ∃ before after : String, text = (before ++ error.text ++ after).toList ∧
      error.position = position + before.utf8ByteSize ∧ error.text.toList.head? = some opening ∧
      (∃ parts, read state position before.toList = .ok parts) ∧
      read state position (before ++ error.text).toList = .error error := by
  induction hlength : text.length using Nat.strong_induction_on generalizing state position text with
  | _ length ih =>
    cases text with
    | nil =>
      rw [h.atEnd] at hread
      cases hread
    | cons c text =>
      rcases h.failing hread with ⟨piece, next, rest, htakes, htext⟩ | hfront
      · rw [htext] at hread hlength ⊢
        rw [h.taking htakes, map_eq_error_iff] at hread
        have hshorter : rest.length < length := hlength ▸ rules.length_lt_of_takes htakes rest
        obtain ⟨before, after, rfl, hposition, hopened, ⟨parts, hbefore⟩, hrepeated⟩ := ih _ hshorter hread rfl
        refine ⟨piece.text ++ before, after, ?_, ?_, hopened, ?_, ?_⟩
        · simp only [String.toList_append, List.append_assoc]
        · rw [hposition, String.utf8ByteSize_append, Nat.add_assoc]
        · rw [String.toList_append, h.taking htakes, hbefore]
          exact ⟨_, rfl⟩
        · rw [String.append_assoc, String.toList_append, h.taking htakes, hrepeated]
          rfl
      · obtain ⟨after, hafter⟩ := hfront.front
        refine ⟨"", String.ofList after, ?_, ?_, hfront.opened, ⟨[], h.atEnd state position⟩, ?_⟩
        · rw [String.empty_append, String.toList_append, String.toList_ofList, hafter]
        · exact hfront.position_eq
        · rw [String.empty_append]
          exact hfront.repeated

end PieceRules

/-- The error is about the first specifier or placeholder that keeps a text from being read: the text of the error stands between two others, at the byte offset that the error gives. -/
structure IsFirstFault (parse : String → Except ParseError (List Part)) (opening : Char) (text : String)
    (error : ParseError) (before after : String) : Prop where
  text_eq : text = before ++ error.text ++ after
  position_eq : error.position = before.utf8ByteSize
  opened : error.text.toList.head? = some opening
  readable : ∃ parts, parse before = .ok parts
  repeated : parse (before ++ error.text) = .error error

theorem PieceRules.FailsInFront.isFirstFault_of_error {State : Type} {rules : PieceRules State} {opening : Char}
    {read : State → Nat → List Char → Except ParseError (List Part)} (hfails : rules.FailsInFront opening read)
    {text : String} {error : ParseError} (h : (read rules.start 0 text.toList).map Part.joinLiterals = .error error) :
    ∃ before after, IsFirstFault (fun text => (read rules.start 0 text.toList).map Part.joinLiterals) opening text error
      before after := by
  obtain ⟨before, after, htext, hposition, hopened, ⟨parts, hbefore⟩, hrepeated⟩ :=
    hfails.exists_fault (map_eq_error_iff.1 h)
  have hoffset : error.position = before.utf8ByteSize := by rw [hposition, Nat.zero_add]
  have hread : (read rules.start 0 before.toList).map Part.joinLiterals = .ok (Part.joinLiterals parts) :=
    map_eq_ok_iff.2 ⟨parts, hbefore, rfl⟩
  exact ⟨before, after, String.toList_inj.1 htext, hoffset, hopened, ⟨_, hread⟩, map_eq_error_iff.2 hrepeated⟩

/-! ### Faults of both notations -/

theorem Printf.pieces_misread {rest left : List Char} {fault : FormatFault}
    (hread : Specifier.read rest = .error (fault, left)) (position : Nat) :
    pieces position ('%' :: rest) = .error ⟨fault, position, String.ofList ('%' :: consumed rest left)⟩ := by
  rw [pieces.eq_2]
  split
  · next hfault =>
    rw [hread] at hfault
    cases hfault
    rfl
  · next hspecifier =>
    rw [hread] at hspecifier
    cases hspecifier

theorem Printf.front_fault {state : Unit} {position : Nat} {c : Char} {text : List Char} {error : ParseError}
    (h : pieces position (c :: text) = .error error) :
    (∃ piece next rest, rules.takes state piece next ∧ c :: text = piece.text.toList ++ rest) ∨
      PieceRules.IsFrontFault (fun _ => pieces) '%' state position (c :: text) error := by
  by_cases hc : c = '%'
  · subst hc
    cases hread : Specifier.read text with
    | error failed =>
      obtain ⟨fault, left⟩ := failed
      right
      rw [pieces_misread hread] at h
      cases h
      obtain ⟨front, rfl, hfront⟩ := Specifier.read_isLocal.error hread
      have hconsumed : consumed front [] = front := by simpa using consumed_append front []
      rw [consumed_append]
      constructor
      case position_eq => rfl
      case front =>
        rw [String.toList_ofList]
        exact ⟨left, rfl⟩
      case opened =>
        rw [String.toList_ofList]
        rfl
      case repeated => rw [String.toList_ofList, pieces_misread hfront, hconsumed]
    | ok read =>
      left
      obtain ⟨form, rfl, _⟩ := Specifier.read_eq_ok_iff.1 hread
      refine ⟨(Token.specifier form).part, (), read.2, ⟨_, rfl⟩, ?_⟩
      rw [Token.text_part, String.toList_ofList]
      rfl
  · left
    refine ⟨(Token.character c hc).part, (), text, ⟨_, rfl⟩, ?_⟩
    rw [Token.text_part, String.toList_ofList]
    rfl

theorem Printf.failsInFront_pieces : rules.FailsInFront '%' fun _ => pieces :=
  { follows_pieces with failing := front_fault }

theorem Pattern.front_fault {quoted : Bool} {position : Nat} {c : Char} {text : List Char} {error : ParseError}
    (h : pieces quoted position (c :: text) = .error error) :
    (∃ piece next rest, rules.takes quoted piece next ∧ c :: text = piece.text.toList ++ rest) ∨
      PieceRules.IsFrontFault pieces '{' quoted position (c :: text) error := by
  by_cases hopening : c = '{' ∧ quoted = false
  · obtain ⟨rfl, rfl⟩ := hopening
    cases hsplit : splitAtClosing 0 text with
    | none =>
      right
      rw [pieces_unclosed hsplit] at h
      cases h
      constructor
      case position_eq => rfl
      case front => simp only [String.toList_ofList, List.prefix_refl]
      case opened => rw [String.toList_ofList]; rfl
      case repeated => rw [String.toList_ofList, pieces_unclosed hsplit]
    | some split =>
      obtain ⟨body, left⟩ := split
      cases hread : Placeholder.read body with
      | error fault =>
        right
        rw [pieces_misread hsplit hread] at h
        cases h
        have htext := eq_append_of_splitAtClosing hsplit
        subst htext
        have hclosed := splitAtClosing_append hsplit []
        constructor
        case position_eq => rfl
        case front =>
          rw [String.toList_ofList]
          exact ⟨left, braced_append body left⟩
        case opened =>
          rw [String.toList_ofList]
          rfl
        case repeated =>
          rw [String.toList_ofList]
          exact pieces_misread hclosed hread position
      | ok content =>
        left
        have htext := eq_append_of_splitAtClosing hsplit
        subst htext
        refine ⟨_, false, left, .placeholder (splitAtClosing_append hsplit []) hread, ?_⟩
        rw [Part.text, String.toList_ofList, braced_append]
  · left
    refine ⟨_, _, text, .character hopening, ?_⟩
    rw [Part.text, String.toList_singleton]
    rfl

theorem Pattern.failsInFront_pieces : rules.FailsInFront '{' pieces :=
  { follows_pieces with failing := front_fault }

def FormatKind.opening? : FormatKind → Option Char
  | printf => some '%'
  | messageFormat => some '{'
  | noFormat => none

/-- **Errors point at the first fault.** Whenever a text cannot be read, the error's text is a part of it that begins with a percent sign or an opening brace, and stands at the byte offset that the error gives. All before this offset can be read, and the text up to the end of the part cannot, for the same reason. -/
theorem exists_isFirstFault {kind : FormatKind} {text : String} {error : ParseError}
    (h : parseFormat kind text = .error error) :
    ∃ opening before after, kind.opening? = some opening ∧
      IsFirstFault (parseFormat kind) opening text error before after := by
  cases kind with
  | printf =>
    obtain ⟨before, after, hfirst⟩ := Printf.failsInFront_pieces.isFirstFault_of_error h
    exact ⟨'%', before, after, rfl, hfirst⟩
  | messageFormat =>
    obtain ⟨before, after, hfirst⟩ := Pattern.failsInFront_pieces.isFirstFault_of_error h
    exact ⟨'{', before, after, rfl, hfirst⟩
  | noFormat => cases h

/-- What stands before a fault is settled: a specifier and a doubled percent sign, or an apostrophe written twice, a placeholder and a quoted brace. -/
theorem exists_isFirstFault_prices :
    (parseFormat .printf "€%1$s %% %5$v left" = .error ⟨.unknownConversion 'v', 11, "%5$v"⟩ ∧
      ∃ before after, IsFirstFault (parseFormat .printf) '%' "€%1$s %% %5$v left"
        ⟨.unknownConversion 'v', 11, "%5$v"⟩ before after) ∧
    parseFormat .messageFormat "''\x7b0\x7d '\x7b' \x7b1,money\x7d \x7b" =
        .error ⟨.unknownPlaceholderType "money", 10, "\x7b1,money\x7d"⟩ ∧
      ∃ before after, IsFirstFault (parseFormat .messageFormat) '{' "''\x7b0\x7d '\x7b' \x7b1,money\x7d \x7b"
        ⟨.unknownPlaceholderType "money", 10, "\x7b1,money\x7d"⟩ before after := by
  have hspecifier : parseFormat .printf "€%1$s %% %5$v left" = .error ⟨.unknownConversion 'v', 11, "%5$v"⟩ := by decide +kernel
  have hplaceholder : parseFormat .messageFormat "''\x7b0\x7d '\x7b' \x7b1,money\x7d \x7b" =
      .error ⟨.unknownPlaceholderType "money", 10, "\x7b1,money\x7d"⟩ := by decide +kernel
  obtain ⟨_, before, after, hpercent, hfirst⟩ := exists_isFirstFault hspecifier
  cases hpercent
  obtain ⟨_, left, right, hbrace, hother⟩ := exists_isFirstFault hplaceholder
  cases hbrace
  exact ⟨⟨hspecifier, before, after, hfirst⟩, hplaceholder, left, right, hother⟩

end TypedMessages
