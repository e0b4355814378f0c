import TypedMessages.Format.ParseError
import TypedMessages.Proofs.Errors
import TypedMessages.Proofs.Format.Layout

/-!
# Reading piece by piece

A text is read from left to right. At every moment the reader is in some state, which says what it may take for the next piece of the text and in which state that leaves it. Pieces that are not literal are only taken in the state that the reader starts in, and leave it there. This is why literals can be joined without loss: every part that comes of the joining can be read again by itself, from the start.
-/

namespace TypedMessages

/-- What a reader in each of its states may take for the next piece, given at offset zero, and the state after it. -/
structure PieceRules (State : Type) where
  start : State
  takes : State → Part → State → Prop
  text_ne_empty : ∀ {state next : State} {piece : Part}, takes state piece next → piece.text ≠ ""
  neutral : ∀ {state next : State} {piece : Part},
    takes state piece next → piece.isLiteral = false → state = start ∧ next = start

namespace PieceRules

variable {State : Type} {rules : PieceRules State}

/-- Pieces that can be read one after another, beginning in a state. -/
inductive Scan (rules : PieceRules State) : State → List Part → Prop
  | nil (state : State) : Scan rules state []
  | cons {state next : State} {piece : Part} {pieces : List Part} :
      rules.takes state piece next → Scan rules next pieces → Scan rules state (piece :: pieces)

theorem Scan.text_ne_empty {state : State} {pieces : List Part} (h : rules.Scan state pieces) :
    ∀ piece ∈ pieces, piece.text ≠ "" := by
  induction h with
  | nil state => simp
  | cons htakes _ ih => exact List.forall_mem_cons.2 ⟨rules.text_ne_empty htakes, ih⟩

theorem length_lt_of_takes {state next : State} {piece : Part} (h : rules.takes state piece next) (rest : List Char) :
    rest.length < (piece.text.toList ++ rest).length := by
  have hnonempty : piece.text.toList ≠ [] := fun hempty => rules.text_ne_empty h (String.toList_eq_nil_iff.1 hempty)
  have := List.length_pos_iff.2 hnonempty
  rw [List.length_append]
  omega

/-! ### Readers -/

/-- A reader by the rules: at the end of the text it stops, and otherwise it takes a piece that the rules allow, whatever follows, or reads nothing at all. -/
structure Follows (rules : PieceRules State) (read : State → Nat → List Char → Except ParseError (List Part)) : Prop where
  atEnd : ∀ (state : State) (position : Nat), read state position [] = .ok []
  taking : ∀ {state next : State} {piece : Part}, rules.takes state piece next → ∀ (position : Nat) (rest : List Char),
    read state position (piece.text.toList ++ rest) =
      (read next (position + piece.text.utf8ByteSize) rest).map (piece.movedTo position :: ·)
  allowed : ∀ {state : State} {position : Nat} {c : Char} {text : List Char} {parts : List Part},
    read state position (c :: text) = .ok parts →
      ∃ piece next rest, rules.takes state piece next ∧ c :: text = piece.text.toList ++ rest

namespace Follows

variable {read : State → Nat → List Char → Except ParseError (List Part)}

theorem read_source (h : rules.Follows read) {state : State} {pieces : List Part} (hscan : rules.Scan state pieces)
    (position : Nat) : read state position (Part.source pieces).toList = .ok (Part.layOut position pieces) := by
  induction hscan generalizing position with
  | nil state => exact h.atEnd state position
  | cons htakes _ ih =>
    rw [Part.source_cons, String.toList_append, h.taking htakes, ih]
    rfl

theorem exists_scan (h : rules.Follows read) {state : State} {position : Nat} {text : List Char} {parts : List Part}
    (hread : read state position text = .ok parts) :
    ∃ pieces, rules.Scan state pieces ∧ (Part.source pieces).toList = text ∧ Part.layOut position pieces = parts := by
  induction hlength : text.length using Nat.strong_induction_on generalizing state position text parts with
  | _ length ih =>
    cases text with
    | nil =>
      rw [h.atEnd] at hread
      cases hread
      exact ⟨[], .nil state, rfl, rfl⟩
    | cons c text =>
      obtain ⟨piece, next, rest, htakes, htext⟩ := h.allowed hread
      rw [htext] at hread hlength ⊢
      rw [h.taking htakes] at hread
      obtain ⟨others, hothers, rfl⟩ := map_eq_ok_iff.1 hread
      have hshorter : rest.length < length := hlength ▸ rules.length_lt_of_takes htakes rest
      obtain ⟨pieces, hscan, rfl, rfl⟩ := ih rest.length hshorter hothers rfl
      refine ⟨piece :: pieces, .cons htakes hscan, ?_, rfl⟩
      rw [Part.source_cons, String.toList_append]

/-- What a text is read into is laid out from pieces that make it up, and any such pieces are what it is read into. -/
theorem parse_eq_ok_iff (h : rules.Follows read) {text : String} {parts : List Part} :
    (read rules.start 0 text.toList).map Part.joinLiterals = .ok parts ↔
      ∃ pieces, rules.Scan rules.start pieces ∧ Part.source pieces = text ∧
        Part.joinLiterals (Part.layOut 0 pieces) = parts := by
  rw [map_eq_ok_iff]
  constructor
  · rintro ⟨found, hfound, rfl⟩
    obtain ⟨pieces, hscan, hsource, rfl⟩ := h.exists_scan hfound
    exact ⟨pieces, hscan, String.toList_inj.1 hsource, rfl⟩
  · rintro ⟨pieces, hscan, rfl, rfl⟩
    exact ⟨_, h.read_source hscan 0, rfl⟩

end Follows

/-! ### Reading a part again -/

/-- Reading from the state, and joining what is read, can give the part and nothing else. -/
def Yields (rules : PieceRules State) (state : State) (part : Part) : Prop :=
  ∃ pieces, rules.Scan state pieces ∧ Part.joinLiterals pieces = [part]

theorem yields_of_takes {state next : State} {piece : Part} (h : rules.takes state piece next) :
    rules.Yields state piece :=
  ⟨[piece], .cons h (.nil next), Part.joinLiterals_singleton piece⟩

/-- A literal piece in front of a literal that can be read where the piece ends. -/
theorem Yields.literal_cons {state next : State} {left right : String}
    (htakes : rules.takes state (.literal left) next) (h : rules.Yields next (.literal right)) :
    rules.Yields state (.literal (left ++ right)) := by
  obtain ⟨pieces, hscan, hjoined⟩ := h
  refine ⟨.literal left :: pieces, .cons htakes hscan, ?_⟩
  rw [Part.joinLiterals_cons, hjoined]
  rfl

/-- The state in which the first of the joined parts is read: a literal is read where the reader is, everything else from the start. -/
def entryState (rules : PieceRules State) (state : State) (part : Part) : State :=
  if part.isLiteral then state else rules.start

/-- Only the first of the joined parts can depend on the state that reading begins in. -/
def AllYield (rules : PieceRules State) (state : State) : List Part → Prop
  | [] => True
  | part :: parts => rules.Yields (rules.entryState state part) part ∧ ∀ other ∈ parts, rules.Yields rules.start other

theorem AllYield.from_start {parts : List Part} (h : rules.AllYield rules.start parts) :
    ∀ part ∈ parts, rules.Yields rules.start part := by
  cases parts with
  | nil => simp
  | cons part parts =>
    obtain ⟨hpart, hparts⟩ := h
    rw [entryState, ite_self] at hpart
    exact List.forall_mem_cons.2 ⟨hpart, hparts⟩

theorem AllYield.cons {state next : State} {piece : Part} {parts : List Part}
    (htakes : rules.takes state piece next) (hparts : rules.AllYield next parts) :
    rules.AllYield state (Part.cons piece parts) := by
  cases hliteral : piece.isLiteral with
  | false =>
    obtain ⟨rfl, rfl⟩ := rules.neutral htakes hliteral
    rw [Part.cons_of_not_isLiteral hliteral]
    refine ⟨?_, hparts.from_start⟩
    rw [entryState, ite_self]
    exact yields_of_takes htakes
  | true =>
    rw [Part.eq_literal_of_isLiteral hliteral] at htakes ⊢
    rcases Part.cons_literal piece.text parts with ⟨hcons, hnext⟩ | ⟨right, rest, rfl, hcons⟩
    · rw [hcons]
      refine ⟨yields_of_takes htakes, ?_⟩
      cases parts with
      | nil => simp
      | cons other parts =>
        obtain ⟨hother, hparts⟩ := hparts
        have hnonliteral : other.isLiteral = false := hnext other rfl
        rw [entryState, hnonliteral] at hother
        exact List.forall_mem_cons.2 ⟨hother, hparts⟩
    · rw [hcons]
      exact ⟨hparts.1.literal_cons htakes, hparts.2⟩

theorem Scan.allYield {state : State} {pieces : List Part} (h : rules.Scan state pieces) :
    rules.AllYield state (Part.joinLiterals pieces) := by
  induction h with
  | nil state => trivial
  | cons htakes _ ih => exact ih.cons htakes

theorem Scan.yields {pieces : List Part} (h : rules.Scan rules.start pieces) :
    ∀ part ∈ Part.joinLiterals pieces, rules.Yields rules.start part :=
  h.allYield.from_start

end PieceRules

end TypedMessages
