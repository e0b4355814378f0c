import TypedMessages.Format.Pattern
import TypedMessages.Proofs.Format.Scanning

/-!
# The pieces of patterns

A pattern is read character by character, with a bit that says whether quoting is on, except that a whole placeholder is taken where an opening brace stands while quoting is off. The brace that ends a placeholder is found without regard to what follows it.
-/

namespace TypedMessages

theorem splitAtClosing_append {depth : Nat} {body rest : List Char}
    (h : splitAtClosing depth (body ++ '}' :: rest) = some (body, rest)) (other : List Char) :
    splitAtClosing depth (body ++ '}' :: other) = some (body, other) := by
  induction body generalizing depth with
  | nil =>
    cases depth with
    | zero => rfl
    | succ depth =>
      obtain ⟨_, _, heq⟩ := Option.map_eq_some_iff.1 h
      cases heq
  | cons c body ih =>
    by_cases hc : c = '}'
    · subst hc
      cases depth with
      | zero => cases h
      | succ depth =>
        obtain ⟨_, hsplit, heq⟩ := Option.map_eq_some_iff.1 h
        cases heq
        exact Option.map_eq_some_iff.2 ⟨_, ih hsplit, rfl⟩
    · rw [List.cons_append, splitAtClosing.eq_4 depth _ _ hc] at h ⊢
      obtain ⟨_, hsplit, heq⟩ := Option.map_eq_some_iff.1 h
      cases heq
      exact Option.map_eq_some_iff.2 ⟨_, ih hsplit, rfl⟩

namespace Pattern

theorem braced_append (body rest : List Char) : '{' :: body ++ ['}'] ++ rest = '{' :: (body ++ '}' :: rest) := by
  rw [List.append_assoc]
  rfl

/-- A piece that can be next while quoting is on or off, and whether it is on after the piece. -/
inductive Takes : Bool → Part → Bool → Prop
  | character {quoted : Bool} {c : Char} (plain : ¬(c = '{' ∧ quoted = false)) :
      Takes quoted (.literal (String.singleton c)) (if c = '\'' then !quoted else quoted)
  | placeholder {body : List Char} {content : Placeholder}
      (closed : splitAtClosing 0 (body ++ ['}']) = some (body, [])) (read : Placeholder.read body = .ok content) :
      Takes false (.placeholder ⟨content, 0, String.ofList ('{' :: body ++ ['}'])⟩) false

theorem Takes.text_ne_empty {quoted next : Bool} {piece : Part} (h : Takes quoted piece next) : piece.text ≠ "" := by
  cases h with
  | character plain => exact String.singleton_ne_empty
  | placeholder closed read =>
    intro hempty
    cases String.ofList_eq_empty_iff.1 hempty

theorem Takes.neutral {quoted next : Bool} {piece : Part} (h : Takes quoted piece next)
    (hliteral : piece.isLiteral = false) : quoted = false ∧ next = false := by
  cases h with
  | character plain => cases hliteral
  | placeholder closed read => exact ⟨rfl, rfl⟩

/-- Quoting is off at the start and around placeholders. -/
def rules : PieceRules Bool where
  start := false
  takes := Takes
  text_ne_empty := Takes.text_ne_empty
  neutral := Takes.neutral

theorem pieces_character {quoted : Bool} {c : Char} (hplain : ¬(c = '{' ∧ quoted = false)) (position : Nat)
    (rest : List Char) :
    pieces quoted position (c :: rest) =
      (pieces (if c = '\'' then !quoted else quoted) (position + c.utf8Size) rest).map
        (.literal (String.singleton c) :: ·) := by
  rw [pieces.eq_2, if_neg hplain]
  cases pieces (if c = '\'' then !quoted else quoted) (position + c.utf8Size) rest <;> rfl

theorem pieces_unclosed {rest : List Char} (hsplit : splitAtClosing 0 rest = none) (position : Nat) :
    pieces false position ('{' :: rest) = .error ⟨.unmatchedBrace, position, String.ofList ('{' :: rest)⟩ := by
  rw [pieces.eq_2, if_pos ⟨rfl, rfl⟩]
  split
  · rfl
  · next hsome =>
    rw [hsplit] at hsome
    cases hsome

theorem pieces_misread {rest body left : List Char} {fault : FormatFault}
    (hsplit : splitAtClosing 0 rest = some (body, left)) (hread : Placeholder.read body = .error fault)
    (position : Nat) :
    pieces false position ('{' :: rest) = .error ⟨fault, position, String.ofList ('{' :: body ++ ['}'])⟩ := by
  rw [pieces.eq_2, if_pos ⟨rfl, rfl⟩]
  split
  · next hnone =>
    rw [hsplit] at hnone
    cases hnone
  · next hsome =>
    rw [hsplit] at hsome
    cases hsome
    simp only [hread]

theorem pieces_placeholder {body : List Char} {content : Placeholder}
    (hclosed : splitAtClosing 0 (body ++ ['}']) = some (body, [])) (hread : Placeholder.read body = .ok content)
    (position : Nat) (rest : List Char) :
    pieces false position ('{' :: (body ++ '}' :: rest)) =
      (pieces false (position + (String.ofList ('{' :: body ++ ['}'])).utf8ByteSize) rest).map
        (.placeholder ⟨content, position, String.ofList ('{' :: body ++ ['}'])⟩ :: ·) := by
  have hsplit := splitAtClosing_append hclosed rest
  rw [pieces.eq_2, if_pos ⟨rfl, rfl⟩]
  split
  · next hnone =>
    rw [hsplit] at hnone
    cases hnone
  · next hsome =>
    rw [hsplit] at hsome
    cases hsome
    simp only [hread]
    cases pieces false (position + (String.ofList ('{' :: body ++ ['}'])).utf8ByteSize) rest <;> rfl

theorem pieces_takes {quoted next : Bool} {piece : Part} (h : Takes quoted piece next) (position : Nat)
    (rest : List Char) :
    pieces quoted position (piece.text.toList ++ rest) =
      (pieces next (position + piece.text.utf8ByteSize) rest).map (piece.movedTo position :: ·) := by
  cases h with
  | character plain =>
    rw [Part.text, String.utf8ByteSize_singleton, String.toList_singleton]
    exact pieces_character plain position rest
  | placeholder closed read =>
    rw [Part.text, String.toList_ofList, braced_append]
    exact pieces_placeholder closed read position rest

theorem exists_takes_of_pieces {quoted : Bool} {position : Nat} {c : Char} {text : List Char} {parts : List Part}
    (h : pieces quoted position (c :: text) = .ok parts) :
    ∃ piece next rest, Takes quoted piece next ∧ c :: text = piece.text.toList ++ rest := by
  by_cases hopening : c = '{' ∧ quoted = false
  · rw [pieces.eq_2, if_pos hopening] at h
    obtain ⟨rfl, rfl⟩ := hopening
    split at h
    · cases h
    · next body left hsplit =>
      split at h
      · cases h
      · next content hread =>
        have htext := eq_append_of_splitAtClosing hsplit
        rw [htext] at hsplit
        refine ⟨_, false, left, .placeholder (splitAtClosing_append hsplit []) hread, ?_⟩
        rw [Part.text, String.toList_ofList, braced_append, htext]
  · refine ⟨_, _, text, .character hopening, ?_⟩
    rw [Part.text, String.toList_singleton]
    rfl

theorem follows_pieces : rules.Follows pieces where
  atEnd quoted position := by rw [pieces]
  taking := pieces_takes
  allowed := exists_takes_of_pieces

end Pattern

end TypedMessages
