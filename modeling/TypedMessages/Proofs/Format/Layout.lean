import Mathlib.Algebra.GroupWithZero.Nat
import Mathlib.Data.List.Chain
import TypedMessages.Format.Part

/-!
# Parts one after another

Parts that are read off a text stand one behind the other: each at the offset where those before it end. Making one literal of every run of literals changes neither the text that the parts make up nor the offsets of the other parts, and leaves no two literals side by side.
-/

namespace TypedMessages

namespace Part

/-- The part as it reads at another offset. -/
def movedTo (position : Nat) : Part → Part
  | literal text => literal text
  | conversion located => conversion { located with position }
  | placeholder located => placeholder { located with position }

/-- The offset at which the part says that it stands; literals do not say. -/
def position? : Part → Option Nat
  | literal _ => none
  | conversion located => some located.position
  | placeholder located => some located.position

/-- The parts as they read one behind the other, the first at the given offset. -/
def layOut (position : Nat) : List Part → List Part
  | [] => []
  | part :: parts => part.movedTo position :: layOut (position + part.text.utf8ByteSize) parts

/-- The text that the parts make up. -/
def source (parts : List Part) : String :=
  String.join (parts.map text)

@[simp]
theorem text_movedTo (position : Nat) (part : Part) : (part.movedTo position).text = part.text := by
  cases part <;> rfl

@[simp]
theorem movedTo_movedTo (first second : Nat) (part : Part) : (part.movedTo first).movedTo second = part.movedTo second := by
  cases part <;> rfl

theorem eq_literal_of_isLiteral {part : Part} (h : part.isLiteral = true) : part = literal part.text := by
  cases part with
  | literal text => rfl
  | conversion located => cases h
  | placeholder located => cases h

theorem position?_movedTo {position : Nat} {part : Part} {stated : Nat}
    (h : (part.movedTo position).position? = some stated) : stated = position := by
  cases part with
  | literal text => cases h
  | conversion located => exact (Option.some.inj h).symm
  | placeholder located => exact (Option.some.inj h).symm

@[simp]
theorem source_nil : source [] = "" := rfl

@[simp]
theorem source_cons (part : Part) (parts : List Part) : source (part :: parts) = part.text ++ source parts :=
  String.join_cons

theorem toList_source_map {α : Type} {part : α → Part} {written : α → List Char}
    (htext : ∀ a, (part a).text = String.ofList (written a)) (items : List α) :
    (source (items.map part)).toList = items.flatMap written := by
  induction items with
  | nil => rfl
  | cons a items ih =>
    rw [List.map_cons, source_cons, String.toList_append, ih, htext, String.toList_ofList, List.flatMap_cons]

/-! ### Parts in their places -/

@[simp]
theorem layOut_layOut (first second : Nat) (parts : List Part) :
    layOut second (layOut first parts) = layOut second parts := by
  induction parts generalizing first second with
  | nil => rfl
  | cons part parts ih => simp only [layOut, movedTo_movedTo, text_movedTo, ih]

@[simp]
theorem source_layOut (position : Nat) (parts : List Part) : source (layOut position parts) = source parts := by
  induction parts generalizing position with
  | nil => rfl
  | cons part parts ih => rw [layOut, source_cons, source_cons, ih, text_movedTo]

theorem exists_of_mem_layOut {position : Nat} {parts : List Part} {placed : Part} (h : placed ∈ layOut position parts) :
    ∃ part ∈ parts, ∃ offset, part.movedTo offset = placed := by
  induction parts generalizing position with
  | nil => cases h
  | cons part parts ih =>
    rcases List.mem_cons.1 h with rfl | hrest
    · exact ⟨part, List.mem_cons_self, position, rfl⟩
    · obtain ⟨other, hother, hmoved⟩ := ih hrest
      exact ⟨other, List.mem_cons_of_mem part hother, hmoved⟩

/-- What is picked of parts wherever they stand is picked of the same parts in their places. -/
theorem filterMap_layOut {α : Type} {f : Part → Option α} (hmoved : ∀ position part, f (movedTo position part) = f part)
    (position : Nat) (parts : List Part) : (layOut position parts).filterMap f = parts.filterMap f := by
  induction parts generalizing position with
  | nil => rfl
  | cons part parts ih => rw [layOut, List.filterMap_cons, List.filterMap_cons, hmoved, ih]

/-- In a layout every part that says where it stands names the number of bytes before it. -/
theorem position?_of_layOut_eq {position : Nat} {before after : List Part} {part : Part}
    (hplaced : layOut position (before ++ part :: after) = before ++ part :: after) {stated : Nat}
    (h : part.position? = some stated) : stated = position + (before.map (·.text.utf8ByteSize)).sum := by
  induction before generalizing position with
  | nil =>
    have hmoved := (List.cons.inj hplaced).1
    rw [← hmoved] at h
    exact position?_movedTo h
  | cons first before ih =>
    have hstated := ih (List.cons.inj hplaced).2
    rw [List.map_cons, List.sum_cons]
    omega

/-! ### Runs of literals -/

theorem cons_of_not_isLiteral {part : Part} (h : part.isLiteral = false) (parts : List Part) :
    cons part parts = part :: parts := by
  cases part with
  | literal text => cases h
  | conversion located => rfl
  | placeholder located => rfl

/-- A literal in front of parts either stands alone or takes in the literal that they begin with. -/
theorem cons_literal (text : String) (parts : List Part) :
    (cons (literal text) parts = literal text :: parts ∧ ∀ next ∈ parts.head?, next.isLiteral = false) ∨
      ∃ right rest, parts = literal right :: rest ∧ cons (literal text) parts = literal (text ++ right) :: rest := by
  cases parts with
  | nil => exact Or.inl ⟨rfl, by simp⟩
  | cons next rest =>
    cases next with
    | literal right => exact Or.inr ⟨right, rest, rfl, rfl⟩
    | conversion located => exact Or.inl ⟨rfl, by simp [isLiteral]⟩
    | placeholder located => exact Or.inl ⟨rfl, by simp [isLiteral]⟩

theorem cons_append_literal (left right : String) (parts : List Part) :
    cons (literal (left ++ right)) parts = cons (literal left) (cons (literal right) parts) := by
  cases parts with
  | nil => rfl
  | cons next rest =>
    cases next with
    | literal third => simp only [cons, String.append_assoc]
    | conversion located => rfl
    | placeholder located => rfl

theorem source_part_cons (part : Part) (parts : List Part) : source (cons part parts) = part.text ++ source parts := by
  unfold cons
  split
  · rw [source_cons, source_cons]
    exact String.append_assoc
  · exact source_cons ..

theorem joinLiterals_cons (part : Part) (parts : List Part) :
    joinLiterals (part :: parts) = cons part (joinLiterals parts) := rfl

theorem joinLiterals_singleton (part : Part) : joinLiterals [part] = [part] := by
  cases part <;> rfl

theorem source_joinLiterals (parts : List Part) : source (joinLiterals parts) = source parts := by
  induction parts with
  | nil => rfl
  | cons part parts ih =>
    rw [joinLiterals_cons, source_part_cons, source_cons, ih]

theorem filterMap_joinLiterals {α : Type} {f : Part → Option α} (hliteral : ∀ text, f (literal text) = none)
    (parts : List Part) : (joinLiterals parts).filterMap f = parts.filterMap f := by
  have hcons (part : Part) (others : List Part) : (cons part others).filterMap f = (part :: others).filterMap f := by
    unfold cons
    split
    · simp only [List.filterMap_cons, hliteral]
    · rfl
  induction parts with
  | nil => rfl
  | cons part parts ih => rw [joinLiterals_cons, hcons, List.filterMap_cons, List.filterMap_cons, ih]

theorem layOut_part_cons (position : Nat) (part : Part) (parts : List Part) :
    layOut position (cons part parts) =
      cons (part.movedTo position) (layOut (position + part.text.utf8ByteSize) parts) := by
  cases hliteral : part.isLiteral with
  | false =>
    have hmoved : (part.movedTo position).isLiteral = false := by
      cases part <;> exact hliteral
    rw [cons_of_not_isLiteral hliteral, cons_of_not_isLiteral hmoved]
    rfl
  | true =>
    rw [eq_literal_of_isLiteral hliteral]
    cases parts with
    | nil => rfl
    | cons next rest =>
      cases next with
      | literal right =>
        simp only [cons, layOut, movedTo, text, String.utf8ByteSize_append, Nat.add_assoc]
      | conversion located => rfl
      | placeholder located => rfl

theorem layOut_joinLiterals (position : Nat) (parts : List Part) :
    layOut position (joinLiterals parts) = joinLiterals (layOut position parts) := by
  induction parts generalizing position with
  | nil => rfl
  | cons part parts ih =>
    rw [joinLiterals_cons, layOut_part_cons, ih, layOut, joinLiterals_cons]

/-- No two literals stand side by side. -/
def Separated (parts : List Part) : Prop :=
  parts.IsChain fun left right => left.isLiteral = false ∨ right.isLiteral = false

theorem Separated.part_cons {parts : List Part} (hparts : Separated parts) (part : Part) : Separated (cons part parts) := by
  cases hliteral : part.isLiteral with
  | false =>
    rw [cons_of_not_isLiteral hliteral]
    exact List.isChain_cons.2 ⟨fun _ _ => Or.inl hliteral, hparts⟩
  | true =>
    rw [eq_literal_of_isLiteral hliteral]
    rcases cons_literal part.text parts with ⟨hcons, hnext⟩ | ⟨right, rest, rfl, hcons⟩
    · rw [hcons]
      exact List.isChain_cons.2 ⟨fun next hmem => Or.inr (hnext next hmem), hparts⟩
    · rw [hcons]
      exact List.isChain_cons.2 (List.isChain_cons.1 hparts)

theorem separated_joinLiterals (parts : List Part) : Separated (joinLiterals parts) := by
  induction parts with
  | nil => exact .nil
  | cons part parts ih => exact ih.part_cons part

theorem text_ne_empty_of_mem_cons {part : Part} {parts : List Part} (hpart : part.text ≠ "")
    (hparts : ∀ other ∈ parts, other.text ≠ "") : ∀ joined ∈ cons part parts, joined.text ≠ "" := by
  cases hliteral : part.isLiteral with
  | false =>
    rw [cons_of_not_isLiteral hliteral]
    exact List.forall_mem_cons.2 ⟨hpart, hparts⟩
  | true =>
    rw [eq_literal_of_isLiteral hliteral]
    rcases cons_literal part.text parts with ⟨hcons, _⟩ | ⟨right, rest, rfl, hcons⟩
    · rw [hcons]
      exact List.forall_mem_cons.2 ⟨hpart, hparts⟩
    · have hjoined : part.text ++ right ≠ "" := fun hempty => hpart (String.append_eq_empty_iff.1 hempty).1
      obtain ⟨_, hrest⟩ := List.forall_mem_cons.1 hparts
      rw [hcons]
      exact List.forall_mem_cons.2 ⟨hjoined, hrest⟩

theorem text_ne_empty_of_mem_joinLiterals {parts : List Part} (hparts : ∀ part ∈ parts, part.text ≠ "") :
    ∀ joined ∈ joinLiterals parts, joined.text ≠ "" := by
  induction parts with
  | nil => simp [joinLiterals]
  | cons part parts ih =>
    obtain ⟨hpart, hparts⟩ := List.forall_mem_cons.1 hparts
    exact text_ne_empty_of_mem_cons hpart (ih hparts)

end Part

end TypedMessages
