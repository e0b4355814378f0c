import TypedMessages.Declaration.Decode
import TypedMessages.Extension.Fault

/-!
# Loading batches

A batch is loaded from a file in three steps, each of which can fail: the file is read, its text is decoded, and the batch is looked through for faults.
-/

namespace TypedMessages

inductive LoadError
  /-- The file cannot be read, for a reason given by the system. -/
  | unreadable (path reason : String)
  | malformed
  | faulty (faults : List BatchFault)
  deriving DecidableEq, Repr

namespace LoadError

def message : LoadError → String
  | unreadable path reason => s!"Failed to read declaration file '{path}': {reason}"
  | malformed => "Failed to parse declarations"
  | faulty faults =>
    let list := "\n".intercalate (faults.map fun fault => "  - " ++ fault.message)
    s!"Configuration validation failed:\n{list}"

/-- The message, followed by that of the cause if something else failed first. -/
def messageWithCause (error : LoadError) : String :=
  match error with
  | unreadable _ reason => s!"{error.message}: {reason}"
  | _ => error.message

end LoadError

namespace Batch

def validated (batch : Batch) : Except LoadError Batch :=
  match batch.faults with
  | [] => .ok batch
  | faults => .error (.faulty faults)

def decode (text : String) : Except LoadError Batch :=
  match ofYaml? text with
  | none => .error .malformed
  | some batch => .ok batch

def load (path : String) (content : Except String String) : Except LoadError Batch :=
  match content with
  | .error reason => .error (.unreadable path reason)
  | .ok text => (decode text).bind validated

end Batch

end TypedMessages
