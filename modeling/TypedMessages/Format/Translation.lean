import TypedMessages.Format.Basic
import TypedMessages.Format.Check

/-!
# Translations of a message text

A translated text has to show the arguments of the text it stands for, in any order. Two texts are compared by their shape: the first way in which each argument is shown, and the number of line separators.
-/

namespace TypedMessages

/-- How an argument is shown. -/
inductive Showing
  | conversion (conversion : Conversion)
  | placeholder (type : Option PlaceholderType)
  deriving DecidableEq, Repr

/-- The shape of a text: the arguments in the order in which it shows them, and its line separators. -/
structure FormatShape where
  showings : List (Nat × Showing)
  lineSeparators : Nat
  deriving DecidableEq, Repr

def FormatShape.at? (shape : FormatShape) (index : Nat) : Option Showing :=
  shape.showings.lookup index

/-- Two shapes agree if they have as many line separators and show the same arguments first in the same way. -/
def FormatShape.agrees (left right : FormatShape) : Bool :=
  left.lineSeparators == right.lineSeparators &&
    (left.showings ++ right.showings).all fun (index, _) => left.at? index == right.at? index

def formatShape (kind : FormatKind) (parts : List Part) : Except ArgumentFault FormatShape :=
  match kind with
  | .printf => do
    let uses ← argumentUses parts
    return { showings := uses.map fun (index, specifier) => (index, .conversion specifier.content.conversion)
             lineSeparators := (conversionsOf parts).countP (·.content.conversion == .lineSeparator) }
  | .messageFormat =>
    .ok { showings := (placeholdersOf parts).map fun placeholder =>
            (placeholder.content.index, .placeholder placeholder.content.type)
          lineSeparators := 0 }
  | .noFormat => .ok ⟨[], 0⟩

inductive TranslationFault
  | unreadableText (text : String) (error : ParseError)
  | unreadableTranslation (text : String) (error : ParseError)
  | unresolved (fault : ArgumentFault)
  | differs (text translation : String)
  deriving DecidableEq, Repr

def TranslationFault.message : TranslationFault → String
  | unreadableText text error => s!"Format '{text}' appears to be invalid. Error: {error.message}"
  | unreadableTranslation text error => s!"Translation '{text}' appears to be invalid. Error: {error.message}"
  | unresolved fault => fault.message
  | differs text translation =>
    s!"The translation '{translation}' does not match the conversions of '{text}'"

/-- What keeps a text from being a translation of another. Both have to be readable, and a fault of the text itself goes before one of its translation. -/
def translationFault? (kind : FormatKind) (text translation : String) : Option TranslationFault :=
  match parseFormat kind text with
  | .error error => some (.unreadableText text error)
  | .ok parts =>
    match parseFormat kind translation with
    | .error error => some (.unreadableTranslation translation error)
    | .ok translatedParts =>
      match formatShape kind parts, formatShape kind translatedParts with
      | .error fault, _ => some (.unresolved fault)
      | _, .error fault => some (.unresolved fault)
      | .ok shape, .ok translatedShape =>
        if shape.agrees translatedShape then none else some (.differs text translation)

end TypedMessages
