import TypedMessages.Format.Part
import TypedMessages.Text.Ascending
import TypedMessages.Types.Basic

/-!
# Message texts and their arguments

Checks the parts of a message text against the types of the arguments it is given. Every conversion that shows an argument has an effective number, counted from one: its own number if it has one, the number of the conversion before it if it asks for the previous argument, and otherwise the next number of a count that only such conversions advance. Placeholders carry their numbers themselves, counted from zero. A number has to denote an argument, and the type of that argument has to suit. Arguments that nothing refers to do no harm unless an exact count is asked for.
-/

namespace TypedMessages

inductive ArgumentFault
  | noPrevious (specifier : Located Specifier)
  | conversionOutOfRange (specifier : Located Specifier) (index available : Nat)
  | conversionMismatch (specifier : Located Specifier) (index : Nat) (typeName : String)
  | placeholderOutOfRange (placeholder : Located Placeholder) (available : Nat)
  | placeholderMismatch (placeholder : Located Placeholder) (expected typeName : String)
  | wrongCount (required provided : Nat)
  deriving DecidableEq, Repr

def ConversionCategory.describe : ConversionCategory → String
  | general | noArgument => "any value"
  | character => "a character"
  | integral => "an integral value"
  | floatingPoint => "a floating point value"
  | dateTime => "a date/time value"

def Located.describe {α : Type} (located : Located α) : String :=
  s!"'{located.text}' at position {located.position}"

def ArgumentFault.message : ArgumentFault → String
  | noPrevious specifier =>
    s!"Conversion {specifier.describe} refers to a previous argument but none precedes it"
  | conversionOutOfRange specifier index available =>
    s!"Conversion {specifier.describe} refers to argument {index} but only {available} argument(s) are available"
  | conversionMismatch specifier index typeName =>
    let expected := specifier.content.conversion.category.describe
    s!"Conversion {specifier.describe} requires {expected} but argument {index} is of type {typeName}"
  | placeholderOutOfRange placeholder available =>
    let index := placeholder.content.index
    s!"Placeholder {placeholder.describe} refers to argument {index} but only {available} argument(s) are available"
  | placeholderMismatch placeholder expected typeName =>
    let index := placeholder.content.index
    s!"Placeholder {placeholder.describe} requires {expected} but argument {index} is of type {typeName}"
  | wrongCount required provided => s!"Required {required} argument(s) but {provided} provided"

def ConversionCategory.accepts (argument : ArgumentType) : ConversionCategory → Bool
  | general | noArgument => true
  | character => argument.belongsTo .character
  | integral => argument.belongsTo .integral
  | floatingPoint => argument.belongsTo .floatingPoint
  | dateTime => argument.belongsTo .temporal

def PlaceholderType.accepts (argument : ArgumentType) : PlaceholderType → Bool
  | number | choice => argument.belongsTo .integral || argument.belongsTo .floatingPoint
  | date | time => argument.belongsTo .temporal

def PlaceholderType.describe : PlaceholderType → String
  | number | choice => "a numeric value"
  | date | time => "a date/time value"

/-- A conversion with the number of the argument that it shows, counted from one. -/
abbrev ArgumentUse := Nat × Located Specifier

/-- The number that a conversion denotes after `count` conversions took the next argument and the last one showed `previous`, together with the count from there on. -/
def nextIndex (count : Nat) (previous : Option Nat) : ArgumentIndex → Option (Nat × Nat)
  | .explicit number => some (number, count)
  | .implicit => some (count + 1, count + 1)
  | .previous => previous.map fun number => (number, count)

/-- The effective numbers of conversions, after `count` conversions took the next argument and the last one showed `previous`. -/
def resolveIndices (count : Nat) (previous : Option Nat) :
    List (Located Specifier) → Except ArgumentFault (List ArgumentUse)
  | [] => .ok []
  | specifier :: rest =>
    match nextIndex count previous specifier.content.index with
    | none => .error (.noPrevious specifier)
    | some (index, count) => (resolveIndices count (some index) rest).map ((index, specifier) :: ·)

def argumentConversions (parts : List Part) : List (Located Specifier) :=
  (conversionsOf parts).filter (·.content.conversion.takesArgument)

def argumentUses (parts : List Part) : Except ArgumentFault (List ArgumentUse) :=
  resolveIndices 0 none (argumentConversions parts)

def conversionFault? (types : List ArgumentType) (use : ArgumentUse) : Option ArgumentFault :=
  let (index, specifier) := use
  match index with
  | 0 => some (.conversionOutOfRange specifier 0 types.length)
  | position + 1 =>
    match types[position]? with
    | none => some (.conversionOutOfRange specifier index types.length)
    | some argument =>
      if specifier.content.conversion.category.accepts argument then none
      else some (.conversionMismatch specifier index argument.name)

def placeholderFault? (types : List ArgumentType) (placeholder : Located Placeholder) : Option ArgumentFault :=
  match types[placeholder.content.index]? with
  | none => some (.placeholderOutOfRange placeholder types.length)
  | some argument =>
    match placeholder.content.type with
    | none => none
    | some type =>
      if type.accepts argument then none else some (.placeholderMismatch placeholder type.describe argument.name)

/-- The first fault of the parts against the types of their arguments. -/
def argumentFault? (kind : FormatKind) (parts : List Part) (types : List ArgumentType) : Option ArgumentFault :=
  match kind with
  | .printf =>
    match argumentUses parts with
    | .error fault => some fault
    | .ok uses => uses.findSome? (conversionFault? types)
  | .messageFormat => (placeholdersOf parts).findSome? (placeholderFault? types)
  | .noFormat => none

/-- The arguments that the parts refer to, counted from zero, in ascending order. -/
def referencedArguments (kind : FormatKind) (parts : List Part) : List Nat :=
  match kind with
  | .printf =>
    match argumentUses parts with
    | .error _ => []
    | .ok uses => ascending (uses.map (·.1 - 1))
  | .messageFormat => ascending ((placeholdersOf parts).map (·.content.index))
  | .noFormat => []

def argumentCount (kind : FormatKind) (parts : List Part) : Nat :=
  (referencedArguments kind parts).length

def exactFault? (kind : FormatKind) (parts : List Part) (types : List ArgumentType) : Option ArgumentFault :=
  match argumentFault? kind parts types with
  | some fault => some fault
  | none =>
    let required := argumentCount kind parts
    if required = types.length then none else some (.wrongCount required types.length)

end TypedMessages
