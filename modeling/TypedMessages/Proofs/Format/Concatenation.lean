import TypedMessages.Format.Basic
import TypedMessages.Proofs.Format.PrintfGrammar

/-!
# Texts put one behind the other

A text with percent conversions that can be read leaves nothing open at its end: every specifier is closed by its own last letter, so what follows cannot become a part of it. Put in front of another text, it is read as it is by itself, and the other text is read as it is by itself, only further on; if that one cannot be read, its fault is found further on. At the seam two literals become one.
-/

namespace TypedMessages

namespace Part

/-- The part as it reads with that many more bytes in front of it. -/
def movedBy (offset : Nat) : Part → Part
  | literal text => literal text
  | conversion located => conversion { located with position := located.position + offset }
  | placeholder located => placeholder { located with position := located.position + offset }

/-- Parts in front of others; a literal at the end of the first is joined with one at the beginning of the second. -/
def joinEnds (left right : List Part) : List Part :=
  match left.getLast?, right with
  | some (literal last), literal first :: rest => left.dropLast ++ literal (last ++ first) :: rest
  | _, _ => left ++ right

/-! ### Joining at a seam -/

theorem joinEnds_nil (right : List Part) : joinEnds [] right = right := rfl

theorem joinEnds_singleton (part : Part) (right : List Part) : joinEnds [part] right = cons part right := by
  cases part with
  | literal text =>
    rcases cons_literal text right with ⟨hcons, hnext⟩ | ⟨first, rest, rfl, hcons⟩
    · rw [hcons]
      cases right with
      | nil => rfl
      | cons next rest =>
        cases next with
        | literal first => cases hnext _ rfl
        | conversion located => rfl
        | placeholder located => rfl
    · rw [hcons]
      rfl
  | conversion located => rfl
  | placeholder located => rfl

theorem joinEnds_cons_cons (part next : Part) (left right : List Part) :
    joinEnds (part :: next :: left) right = part :: joinEnds (next :: left) right := by
  have hlast : (part :: next :: left).getLast? = (next :: left).getLast? := List.getLast?_cons_cons
  unfold joinEnds
  rw [hlast]
  split
  · rfl
  · rfl

theorem joinEnds_of_not_isLiteral {part : Part} (h : part.isLiteral = false) (left right : List Part) :
    joinEnds (part :: left) right = part :: joinEnds left right := by
  cases left with
  | nil => rw [joinEnds_singleton, cons_of_not_isLiteral h, joinEnds_nil]
  | cons next left => exact joinEnds_cons_cons part next left right

theorem cons_joinEnds (part : Part) (left right : List Part) :
    cons part (joinEnds left right) = joinEnds (cons part left) right := by
  cases hliteral : part.isLiteral with
  | false =>
    rw [cons_of_not_isLiteral hliteral, cons_of_not_isLiteral hliteral, joinEnds_of_not_isLiteral hliteral]
  | true =>
    rw [eq_literal_of_isLiteral hliteral]
    rcases cons_literal part.text left with ⟨hcons, hnext⟩ | ⟨next, rest, rfl, hcons⟩
    · rw [hcons]
      cases left with
      | nil => rw [joinEnds_nil, joinEnds_singleton]
      | cons first left =>
        have hfirst : first.isLiteral = false := hnext first rfl
        rw [joinEnds_cons_cons, joinEnds_of_not_isLiteral hfirst]
        rcases cons_literal part.text (first :: joinEnds left right) with ⟨hcons, _⟩ | ⟨next, rest, heq, _⟩
        · exact hcons
        · cases heq
          cases hfirst
    · rw [hcons]
      cases rest with
      | nil => rw [joinEnds_singleton, joinEnds_singleton, cons_append_literal]
      | cons second rest => rw [joinEnds_cons_cons, joinEnds_cons_cons, cons]

/-- Literals are joined on both sides of a seam and then across it. -/
theorem joinLiterals_append (left right : List Part) :
    joinLiterals (left ++ right) = joinEnds (joinLiterals left) (joinLiterals right) := by
  induction left with
  | nil => rfl
  | cons part left ih => rw [List.cons_append, joinLiterals_cons, ih, cons_joinEnds, joinLiterals_cons]

theorem cons_map_movedBy (offset : Nat) (part : Part) (parts : List Part) :
    cons (part.movedBy offset) (parts.map (movedBy offset)) = (cons part parts).map (movedBy offset) := by
  cases part with
  | literal text =>
    cases parts with
    | nil => rfl
    | cons next parts => cases next <;> rfl
  | conversion located => rfl
  | placeholder located => rfl

theorem joinLiterals_map_movedBy (offset : Nat) (parts : List Part) :
    joinLiterals (parts.map (movedBy offset)) = (joinLiterals parts).map (movedBy offset) := by
  induction parts with
  | nil => rfl
  | cons part parts ih => rw [List.map_cons, joinLiterals_cons, ih, cons_map_movedBy, joinLiterals_cons]

end Part

/-- The fault as it is found with that many more bytes in front of it. -/
def ParseError.movedBy (offset : Nat) (error : ParseError) : ParseError :=
  { error with position := error.position + offset }

namespace Printf

/-! ### Reading further on -/

/-- Where a text begins moves what is read of it, and its fault, and changes nothing else. -/
theorem pieces_add (position offset : Nat) (text : List Char) :
    pieces (position + offset) text =
      ((pieces position text).map (List.map (Part.movedBy offset))).mapError (ParseError.movedBy offset) := by
  fun_induction pieces position text with
  | case1 position => rw [pieces.eq_1]; rfl
  | case2 position rest fault left hread =>
    rw [pieces.eq_2]
    split
    · next hfault =>
      rw [hread] at hfault
      cases hfault
      rfl
    · next hspecifier =>
      rw [hread] at hspecifier
      cases hspecifier
  | case3 position rest specifier left hread text ih =>
    rw [pieces.eq_2]
    split
    · next hfault =>
      rw [hread] at hfault
      cases hfault
    · next hspecifier =>
      rw [hread] at hspecifier
      cases hspecifier
      rw [Nat.add_right_comm] at ih
      dsimp only
      rw [ih]
      cases pieces (position + text.utf8ByteSize) left with
      | error error => rfl
      | ok others => cases specifier <;> rfl
  | case4 position c rest hplain ih =>
    rw [pieces.eq_3 _ c rest hplain, Nat.add_right_comm, ih]
    cases pieces (position + c.utf8Size) rest <;> rfl

theorem pieces_flatMap_written (position : Nat) (tokens : List Token) (rest : List Char) :
    pieces position (tokens.flatMap Token.written ++ rest) =
      (pieces (position + (Part.source (tokens.map Token.part)).utf8ByteSize) rest).map
        (Part.layOut position (tokens.map Token.part) ++ ·) := by
  induction tokens generalizing position with
  | nil =>
    show pieces position rest = (pieces position rest).map ([] ++ ·)
    cases pieces position rest <;> rfl
  | cons token tokens ih =>
    rw [List.flatMap_cons, List.append_assoc, pieces_written, ih, List.map_cons, Part.source_cons,
      String.utf8ByteSize_append, Nat.add_assoc]
    cases pieces _ rest <;> rfl

end Printf

open Printf in
/-- **Reading goes on where it left off.** A readable text in front of another one is read as it is by itself. If the other text can be read, its parts follow, each that says where it stands moved on by the bytes of the first text, with the two literals that may meet made one. If it cannot, the fault is the same, moved on as well. -/
theorem parseFormat_append {left right : String} {leftParts : List Part}
    (h : parseFormat .printf left = .ok leftParts) :
    (∀ rightParts, parseFormat .printf right = .ok rightParts →
      parseFormat .printf (left ++ right) =
        .ok (Part.joinEnds leftParts (rightParts.map (Part.movedBy left.utf8ByteSize)))) ∧
    ∀ error, parseFormat .printf right = .error error →
      parseFormat .printf (left ++ right) = .error (error.movedBy left.utf8ByteSize) := by
  obtain ⟨tokens, htokens, rfl⟩ := parse_eq_ok_iff.1 h
  have hsource : Part.source (tokens.map Token.part) = left := by
    rw [← String.toList_inj, Part.toList_source_map Token.text_part, htokens]
  have hread : pieces 0 (left ++ right).toList =
      (pieces (0 + left.utf8ByteSize) right.toList).map (Part.layOut 0 (tokens.map Token.part) ++ ·) := by
    rw [String.toList_append, ← htokens, pieces_flatMap_written, hsource]
  rw [pieces_add] at hread
  constructor
  · intro rightParts hright
    obtain ⟨others, hothers, rfl⟩ := map_eq_ok_iff.1 hright
    show (pieces 0 (left ++ right).toList).map Part.joinLiterals = _
    rw [hread, hothers, ← Part.joinLiterals_map_movedBy, ← Part.joinLiterals_append]
    rfl
  · intro error hright
    have hothers : pieces 0 right.toList = .error error := map_eq_error_iff.1 hright
    show (pieces 0 (left ++ right).toList).map Part.joinLiterals = _
    rw [hread, hothers]
    rfl

def priceParts : List Part :=
  [.literal "€",
    .conversion
      { content :=
          { index := .explicit 1, flags := [], width := none, precision := none, conversion := .string,
            upperCase := false, dateTime := none }
        position := 3
        text := "%1$s" },
    .literal " 5"]

def shareParts : List Part :=
  [.literal "0%% of ",
    .conversion
      { content :=
          { index := .previous, flags := [.previous], width := none, precision := none, conversion := .decimalInteger,
            upperCase := false, dateTime := none }
        position := 7
        text := "%<d" }]

/-- A digit or a dollar sign at the seam is in no number of the first text. -/
theorem parseFormat_append_price :
    parseFormat .printf "€%1$s 5" = .ok priceParts ∧
      parseFormat .printf ("€%1$s 5" ++ "0%% of %<d") =
        .ok (priceParts.take 2 ++ .literal " 50%% of " :: (shareParts.drop 1).map (Part.movedBy 9)) ∧
      parseFormat .printf ("€%1$s 5" ++ "$s for %5$v") = .error ⟨.unknownConversion 'v', 16, "%5$v"⟩ := by
  have hprice : parseFormat .printf "€%1$s 5" = .ok priceParts := by decide +kernel
  have hshare : parseFormat .printf "0%% of %<d" = .ok shareParts := by decide +kernel
  have hfault : parseFormat .printf "$s for %5$v" = .error ⟨.unknownConversion 'v', 7, "%5$v"⟩ := by decide +kernel
  exact ⟨hprice, (parseFormat_append hprice).1 _ hshare, (parseFormat_append hprice).2 _ hfault⟩

end TypedMessages
