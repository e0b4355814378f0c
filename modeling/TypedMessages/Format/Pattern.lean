import TypedMessages.Format.Part
import TypedMessages.Format.ParseError
import TypedMessages.Text.Blank
import TypedMessages.Text.Numeral

/-!
# Patterns with placeholders in braces

Outside placeholders an apostrophe turns quoting on or off, so a doubled one changes nothing; while quoting is off an opening brace starts a placeholder, which ends at the brace that balances it. Apostrophes inside a placeholder mean nothing. All else is literal, the apostrophes included.
-/

namespace TypedMessages

/-- Splits the text after an opening brace at the brace that closes it, `depth` further braces being open. -/
def splitAtClosing (depth : Nat) : List Char → Option (List Char × List Char)
  | [] => none
  | '}' :: rest =>
    match depth with
    | 0 => some ([], rest)
    | depth + 1 => (splitAtClosing depth rest).map fun (body, rest) => ('}' :: body, rest)
  | c :: rest =>
    (splitAtClosing (if c = '{' then depth + 1 else depth) rest).map fun (body, rest) => (c :: body, rest)

theorem eq_append_of_splitAtClosing {depth : Nat} {text body rest : List Char}
    (h : splitAtClosing depth text = some (body, rest)) : text = body ++ '}' :: rest := by
  induction text generalizing depth body with
  | nil => cases h
  | cons c text ih =>
    unfold splitAtClosing at h
    split at h
    · next heq => cases heq
    · next heq =>
      cases heq
      split at h
      · cases h; rfl
      · obtain ⟨⟨inner, rest⟩, hsplit, heq⟩ := Option.map_eq_some_iff.1 h
        cases heq
        rw [ih hsplit]
        rfl
    · next heq =>
      cases heq
      obtain ⟨⟨inner, rest⟩, hsplit, heq⟩ := Option.map_eq_some_iff.1 h
      cases heq
      rw [ih hsplit]
      rfl

namespace Placeholder

/-- Cuts a text at its first `count` commas. -/
def segments : Nat → List Char → List (List Char)
  | 0, text => [text]
  | count + 1, text =>
    match text.dropWhile (· != ',') with
    | [] => [text]
    | _ :: rest => text.takeWhile (· != ',') :: segments count rest

/-- An argument number counted from zero: digits, after an optional plus sign. No number at all means zero. -/
def readIndex (text : List Char) : Option Nat :=
  match text with
  | [] => some 0
  | c :: rest =>
    let digits := if c = '+' then rest else text
    if digits.isEmpty || !digits.all Char.isDigit then none else numeralBelow countLimit digits

def readType (segment : Option (List Char)) : Except FormatFault (Option PlaceholderType) :=
  match segment with
  | none => .ok none
  | some segment =>
    let name := String.ofList (trimBlanks segment)
    match PlaceholderType.ofName? name with
    | some type => .ok (some type)
    | none => .error (.unknownPlaceholderType name)

def readStyle (segment : Option (List Char)) : Option String :=
  match segment.map trimBlanks with
  | none | some [] => none
  | some style => some (String.ofList style)

/-- Reads what stands between the braces: an argument number, a type and a style, with commas between them. -/
def read (body : List Char) : Except FormatFault Placeholder :=
  let parts := segments 2 body
  match readIndex (trimBlanks (parts.headD [])) with
  | none => .error .invalidIndex
  | some index => do
    let type ← readType parts[1]?
    return { index, type, style := readStyle parts[2]? }

end Placeholder

namespace Pattern

/-- The pieces of a text that starts at a byte offset: single characters and placeholders. -/
def pieces (quoted : Bool) (position : Nat) : List Char → Except ParseError (List Part)
  | [] => .ok []
  | c :: rest =>
    if c = '{' ∧ quoted = false then
      match _hsplit : splitAtClosing 0 rest with
      | none => .error ⟨.unmatchedBrace, position, String.ofList (c :: rest)⟩
      | some (body, left) =>
        let text := String.ofList ('{' :: body ++ ['}'])
        match Placeholder.read body with
        | .error fault => .error ⟨fault, position, text⟩
        | .ok placeholder => do
          let others ← pieces quoted (position + text.utf8ByteSize) left
          return .placeholder ⟨placeholder, position, text⟩ :: others
    else do
      let others ← pieces (if c = '\'' then !quoted else quoted) (position + c.utf8Size) rest
      return .literal (String.singleton c) :: others
termination_by text => text.length
decreasing_by
  · have := congrArg List.length (eq_append_of_splitAtClosing _hsplit)
    simp only [List.length_cons, List.length_append] at this ⊢
    omega
  · simp

def parse (text : String) : Except ParseError (List Part) :=
  (pieces false 0 text.toList).map Part.joinLiterals

end Pattern

end TypedMessages
