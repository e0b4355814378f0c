import TypedMessages.Format.Printf
import TypedMessages.Format.Pattern

/-!
# Reading a message text

The parts of a message text in each of its notations.
-/

namespace TypedMessages

/-- Reads a text in one pass; plain text is a single literal, if there is any. -/
def parseFormat (kind : FormatKind) (text : String) : Except ParseError (List Part) :=
  match kind with
  | .printf => Printf.parse text
  | .messageFormat => Pattern.parse text
  | .noFormat => .ok (if text.isEmpty then [] else [.literal text])

end TypedMessages
