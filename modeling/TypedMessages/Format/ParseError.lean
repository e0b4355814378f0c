/-!
# Faults of a message text

Why a message text cannot be read: the fault, the byte offset of the specifier or placeholder that has it, and the text of that specifier up to where the fault shows.
-/

namespace TypedMessages

inductive FormatFault
  | unknownConversion (conversion : Char)
  | unknownDateTimeConversion (conversion : Char)
  | duplicateFlag (flag : Char)
  | invalidIndex
  | invalidNumber
  | unterminated
  | unmatchedBrace
  | unknownPlaceholderType (name : String)
  deriving DecidableEq, Repr

structure ParseError where
  fault : FormatFault
  position : Nat
  text : String
  deriving DecidableEq, Repr

def FormatFault.message : FormatFault → String
  | unknownConversion conversion => s!"Unknown format conversion '{conversion}' in"
  | unknownDateTimeConversion conversion => s!"Unknown date/time conversion '{conversion}' in"
  | duplicateFlag flag => s!"Duplicate flag '{flag}' in"
  | invalidIndex => "Invalid argument index in"
  | invalidNumber => "Invalid width or precision in"
  | unterminated => "Incomplete format specifier"
  | unmatchedBrace => "Unmatched brace in"
  | unknownPlaceholderType name => s!"Unknown format type '{name}' in"

def ParseError.message (error : ParseError) : String :=
  s!"{error.fault.message} '{error.text}' at position {error.position}"

end TypedMessages
