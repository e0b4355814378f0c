import TypedMessages.Format.Translation
import TypedMessages.Interface.Basic
import TypedMessages.Resolution.Failure

/-!
# Problems

All that can be wrong with the methods of a batch, and how it is told. Most problems are errors, which keep an interface from being generated; a few are warnings.
-/

namespace TypedMessages

inductive Severity
  | error
  | warning
  deriving DecidableEq, Repr

def Severity.name : Severity → String
  | error => "error"
  | warning => "warning"

def Severity.label : Severity → String
  | error => "ERROR"
  | warning => "WARNING"

/-- What a diagnostic is about. Methods are given by their signatures. -/
inductive Subject
  | interface (name : String)
  | method (owner signature : String)
  | parameter (owner signature name : String)
  deriving DecidableEq, Repr

namespace Subject

def owningInterface : Subject → String
  | interface name => name
  | method owner _ => owner
  | parameter owner _ _ => owner

def text : Subject → String
  | interface name => name
  | method owner signature => s!"{owner}#{signature}"
  | parameter owner signature name => s!"{owner}#{signature} parameter '{name}'"

end Subject

inductive Problem
  /-- A log method returns something. -/
  | loggerResult
  | invalidResult (method returnType : String)
  | constructorParameters (method returnType : String)
  | noConstructionSignature (method throwable : String)
  | failure (cause : ResolutionFailure)
  | messageIgnored
  | checkedException (method thrown : String)
  | extraCause
  /-- A message for a name and number of format arguments that have one already. -/
  | repeatedMessage (first : String)
  /-- No message, beside methods of the same name with messages for other numbers of format arguments. -/
  | countMismatch (count : Nat) (reference : String) (referenceCount : Nat)
  | repeatedId (id : Nat) (first : String)
  | unreadableFormat (text : String) (error : ParseError)
  | argument (fault : ArgumentFault)
  | argumentCount (text : String) (required provided : Nat)
  | unreferencedParameter (text : String)
  | misplacedTransforms
  | transformCount
  | repeatedPosition (position : Nat)
  | positionOutside (position count : Nat)
  | positionTaken (position : Nat) (owner : String)
  | missingPosition (position : Nat)
  | translation (locale : String) (fault : TranslationFault)
  | emptyRange (range : IdRange)
  | overlappingRange (range existing : IdRange) (owner projectCode : String)
  | idOutsideRanges (id : Nat) (ranges : List IdRange)
  | idLengthOutside (length : Nat)
  | idLengthDiffers (length firstLength : Nat) (first projectCode : String)
  /-- An id that another interface with the same project code uses already. -/
  | idTaken (projectCode : String) (id : Nat) (owner method : String)
  deriving DecidableEq, Repr

def minIdLength : Nat := 3

def maxIdLength : Nat := 8

namespace Problem

def severity : Problem → Severity
  | messageIgnored | unreferencedParameter _ => .warning
  | _ => .error

def text : Problem → String
  | loggerResult => "Message logger methods can only have a void return type."
  | invalidResult method returnType =>
    s!"Message bundle method {method} has an invalid return type of {returnType}. " ++
      "Return types must be a String or a Throwable."
  | constructorParameters method returnType =>
    s!"Constructor parameters are only allowed on methods returning a Throwable; {method} returns {returnType}."
  | noConstructionSignature method throwable =>
    s!"Method {method} declares constructor parameters but {throwable} has no construction signature to pass them to."
  | failure cause => cause.message
  | messageIgnored => "The message cannot be set via the throwable constructor and will be ignored."
  | checkedException method thrown =>
    s!"Interface message methods cannot throw checked exceptions; {method} declares {thrown}."
  | extraCause => "Only one cause parameter is allowed."
  | repeatedMessage first =>
    s!"Only one message with the same format parameters is allowed; {first} already declares one."
  | countMismatch count reference referenceCount =>
    s!"The number of format parameters ({count}) does not match {reference} which has {referenceCount}."
  | repeatedId id first => s!"Message id {id} is not unique; it is already used by {first}."
  | unreadableFormat text error => s!"Format '{text}' appears to be invalid. Error: {error.message}"
  | argument fault => fault.message
  | argumentCount text required provided =>
    s!"Parameter count does not match for format '{text}'. Required: {required} Provided: {provided}"
  | unreferencedParameter text => s!"Parameter is not referenced by format '{text}'."
  | misplacedTransforms => "Transforms can only be declared on positional parameters."
  | transformCount =>
    "Positional parameters with transforms must have an equal number of positions and transforms."
  | repeatedPosition position => s!"Position '{position}' already used for this parameter."
  | positionOutside position count => s!"Position '{position}' is outside the {count} format argument(s)."
  | positionTaken position owner => s!"Position '{position}' already defined on parameter '{owner}'"
  | missingPosition position => s!"Missing parameter with position '{position}' defined."
  | translation locale fault => s!"Translation for locale '{locale}' is invalid: {fault.message}"
  | emptyRange range =>
    s!"Minimum id {range.min} is greater than the maximum id {range.max} of the valid id range."
  | overlappingRange range existing owner projectCode =>
    s!"Valid id range {range.text} overlaps the range {existing.text} of {owner} for project code '{projectCode}'."
  | idOutsideRanges id ranges =>
    let list := ", ".intercalate (ranges.map IdRange.text)
    s!"Message id {id} is outside the valid id ranges [{list}]."
  | idLengthOutside length =>
    s!"The id length {length} must be 0 or between {minIdLength} and {maxIdLength}."
  | idLengthDiffers length firstLength first projectCode =>
    s!"The id length {length} differs from the length {firstLength} used by {first} for project code '{projectCode}'."
  | idTaken projectCode id owner method =>
    s!"Message id {projectCode}{id} is already used by {owner}#{method}."

end Problem

structure Diagnostic where
  subject : Subject
  problem : Problem
  deriving DecidableEq, Repr

namespace Diagnostic

def severity (diagnostic : Diagnostic) : Severity := diagnostic.problem.severity

def text (diagnostic : Diagnostic) : String := diagnostic.problem.text

def isError (diagnostic : Diagnostic) : Bool :=
  diagnostic.severity == .error

def display (diagnostic : Diagnostic) : String :=
  s!"{diagnostic.severity.label} {diagnostic.subject.text}: {diagnostic.text}"

def ofInterface (interface : MessageInterface) (problem : Problem) : Diagnostic :=
  ⟨.interface interface.name, problem⟩

def ofMethod (interface : MessageInterface) (method : Method) (problem : Problem) : Diagnostic :=
  ⟨.method interface.name method.signature, problem⟩

def ofParameter (interface : MessageInterface) (method : Method) (parameter : Parameter) (problem : Problem) :
    Diagnostic :=
  ⟨.parameter interface.name method.signature parameter.name, problem⟩

end Diagnostic

end TypedMessages
