/-!
# Parts of a message text

A message text is a sequence of literal runs and of places where an argument is shown. Two notations for such a place are known: a conversion specifier introduced by a percent sign, and a placeholder in braces. Every part keeps the text it was read from and the byte offset where that text starts.
-/

namespace TypedMessages

/-- How a message text is written: with percent conversions, with placeholders in braces, or as plain text. -/
inductive FormatKind
  | printf
  | messageFormat
  | noFormat
  deriving DecidableEq, Repr

def FormatKind.name : FormatKind → String
  | .printf => "printf"
  | .messageFormat => "message_format"
  | .noFormat => "no_format"

/-- The argument that a conversion shows: the next one in turn, the one with a given number counted from one, or the one that the conversion before it shows. -/
inductive ArgumentIndex
  | implicit
  | explicit (number : Nat)
  | previous
  deriving DecidableEq, Repr

inductive Flag
  | leftJustify
  | alternate
  | sign
  | space
  | zeroPad
  | grouping
  | parentheses
  | previous
  deriving DecidableEq, Repr

def Flag.ofChar? : Char → Option Flag
  | '-' => some .leftJustify
  | '#' => some .alternate
  | '+' => some .sign
  | ' ' => some .space
  | '0' => some .zeroPad
  | ',' => some .grouping
  | '(' => some .parentheses
  | '<' => some .previous
  | _ => none

def Flag.toChar : Flag → Char
  | .leftJustify => '-'
  | .alternate => '#'
  | .sign => '+'
  | .space => ' '
  | .zeroPad => '0'
  | .grouping => ','
  | .parentheses => '('
  | .previous => '<'

theorem Flag.ofChar?_toChar (flag : Flag) : Flag.ofChar? flag.toChar = some flag := by
  cases flag <;> rfl

inductive ConversionCategory
  | general
  | character
  | integral
  | floatingPoint
  | dateTime
  | noArgument
  deriving DecidableEq, Repr

inductive Conversion
  | boolean
  | hashCode
  | string
  | character
  | decimalInteger
  | octalInteger
  | hexInteger
  | scientific
  | decimal
  | general
  | hexFloat
  | dateTime
  | lineSeparator
  deriving DecidableEq, Repr

namespace Conversion

def ofChar? : Char → Option Conversion
  | 'b' | 'B' => some .boolean
  | 'h' | 'H' => some .hashCode
  | 's' | 'S' => some .string
  | 'c' | 'C' => some .character
  | 'd' => some .decimalInteger
  | 'o' => some .octalInteger
  | 'x' | 'X' => some .hexInteger
  | 'e' | 'E' => some .scientific
  | 'f' => some .decimal
  | 'g' | 'G' => some .general
  | 'a' | 'A' => some .hexFloat
  | 't' | 'T' => some .dateTime
  | 'n' => some .lineSeparator
  | _ => none

def toChar : Conversion → Char
  | boolean => 'b'
  | hashCode => 'h'
  | string => 's'
  | character => 'c'
  | decimalInteger => 'd'
  | octalInteger => 'o'
  | hexInteger => 'x'
  | scientific => 'e'
  | decimal => 'f'
  | general => 'g'
  | hexFloat => 'a'
  | dateTime => 't'
  | lineSeparator => 'n'

theorem ofChar?_toChar (conversion : Conversion) : ofChar? conversion.toChar = some conversion := by
  cases conversion <;> rfl

def category : Conversion → ConversionCategory
  | boolean | hashCode | string => .general
  | character => .character
  | decimalInteger | octalInteger | hexInteger => .integral
  | scientific | decimal | general | hexFloat => .floatingPoint
  | dateTime => .dateTime
  | lineSeparator => .noArgument

def takesArgument (conversion : Conversion) : Bool :=
  conversion.category != .noArgument

end Conversion

/-- The letters that may follow a date or time conversion. -/
def dateTimeSuffixes : List Char :=
  "HIklMSLNpzZsQBbhAaCYyjmdeRTrDFc".toList

/-- A percent conversion, apart from where it stands. -/
structure Specifier where
  index : ArgumentIndex
  flags : List Flag
  width : Option Nat
  precision : Option Nat
  conversion : Conversion
  upperCase : Bool
  dateTime : Option Char
  deriving DecidableEq, Repr

inductive PlaceholderType
  | number
  | date
  | time
  | choice
  deriving DecidableEq, Repr

def PlaceholderType.ofName? (name : String) : Option PlaceholderType :=
  match name.toLower with
  | "number" => some .number
  | "date" => some .date
  | "time" => some .time
  | "choice" => some .choice
  | _ => none

/-- A placeholder in braces, apart from where it stands. Its argument is counted from zero. -/
structure Placeholder where
  index : Nat
  type : Option PlaceholderType
  style : Option String
  deriving DecidableEq, Repr

/-- Something read from a text, with the byte offset where it starts and the text it was read from. -/
structure Located (α : Type) where
  content : α
  position : Nat
  text : String
  deriving DecidableEq, Repr

inductive Part
  | literal (text : String)
  | conversion (located : Located Specifier)
  | placeholder (located : Located Placeholder)
  deriving DecidableEq, Repr

namespace Part

/-- The text that the part was read from. -/
def text : Part → String
  | literal text => text
  | conversion located => located.text
  | placeholder located => located.text

def conversion? : Part → Option (Located Specifier)
  | conversion located => some located
  | _ => none

def placeholder? : Part → Option (Located Placeholder)
  | placeholder located => some located
  | _ => none

def isLiteral : Part → Bool
  | literal _ => true
  | _ => false

/-- Puts a part in front of others; a literal run is joined with one that follows it. -/
def cons : Part → List Part → List Part
  | literal left, literal right :: rest => literal (left ++ right) :: rest
  | part, rest => part :: rest

/-- The same parts with every maximal run of literals made one. -/
def joinLiterals (parts : List Part) : List Part :=
  parts.foldr cons []

end Part

def conversionsOf (parts : List Part) : List (Located Specifier) :=
  parts.filterMap Part.conversion?

def placeholdersOf (parts : List Part) : List (Located Placeholder) :=
  parts.filterMap Part.placeholder?

end TypedMessages
