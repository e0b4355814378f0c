import TypedMessages.Method.Basic
import TypedMessages.Resolution.Failure

/-!
# How exceptions are made

Which constructor of an exception type is called, and with what. The message and the cause of a method are passed if a constructor takes them, in one of the two orders; a cause that the constructor does not take is set afterwards. A method with constructor arguments of its own says where among them the message and the cause belong.
-/

namespace TypedMessages

inductive Construction
  | messageAndCause
  | causeAndMessage
  | message (initCause : Bool)
  | causeOnly
  | custom (arguments : List Parameter)
  | messageAndAbsentCause
  | absentCauseAndMessage
  | default (initCause : Bool)
  deriving DecidableEq, Repr

namespace Construction

def name : Construction → String
  | messageAndCause => "message_and_cause"
  | causeAndMessage => "cause_and_message"
  | message _ => "message"
  | causeOnly => "cause_only"
  | custom _ => "custom"
  | messageAndAbsentCause => "message_and_absent_cause"
  | absentCauseAndMessage => "absent_cause_and_message"
  | default _ => "default"

def setsMessage : Construction → Bool
  | causeOnly | default _ => false
  | custom arguments => arguments.any (·.role == .message)
  | _ => true

end Construction

/-- Fills places from `position` on: the fixed ones as given, the others with the parameters in their order. -/
def fillPlaces (fixed : Nat → Option Parameter) : (count position : Nat) → List Parameter → List Parameter
  | 0, _, _ => []
  | count + 1, position, parameters =>
    match fixed position, parameters with
    | some parameter, parameters => parameter :: fillPlaces fixed count (position + 1) parameters
    | none, parameter :: parameters => parameter :: fillPlaces fixed count (position + 1) parameters
    | none, [] => fillPlaces fixed count (position + 1) []

/-- The cause that a signature asks for, if it asks for one and the places it gives are possible. -/
def signatureCause (method : Method) (signature : ConstructionSignature) (length : Nat) :
    Except SignatureFault (Option Parameter) :=
  if signature.messageIndex ≥ length then .error (.messageOutside signature.messageIndex length)
  else
    match signature.causeIndex with
    | none => .ok none
    | some index =>
      if index ≥ length then .error (.causeOutside index length)
      else if index = signature.messageIndex then .error (.sharedPosition index)
      else
        match method.cause? with
        | some cause => .ok (some cause)
        | none => .error .noCause

/-- The arguments of a constructor call with the message and the cause at the places that the signature gives. -/
def customArguments (method : Method) (returnType : String) (signature : ConstructionSignature) :
    Except SignatureFault (List Parameter) :=
  let construction := method.parametersWith .construction
  let length := construction.length + 1 + (if signature.causeIndex.isSome then 1 else 0)
  (signatureCause method signature length).map fun cause? =>
    fillPlaces
      (fun position =>
        if signature.causeIndex = some position then cause?
        else if position = signature.messageIndex then some (Parameter.messageSlot returnType)
        else none)
      length 0 construction

/-- The first way of construction that applies to an exception type. -/
def selectConstruction (method : Method) (throwable : ThrowableType) : Except ResolutionFailure Construction :=
  let hasCause := method.hasCause
  if hasCause && throwable.has .stringThrowable then .ok .messageAndCause
  else if hasCause && throwable.has .throwableString then .ok .causeAndMessage
  else if throwable.has .string then .ok (.message hasCause)
  else if hasCause && throwable.has .throwable then .ok .causeOnly
  else
    match throwable.signature with
    | some signature =>
      match customArguments method throwable.name signature with
      | .ok arguments => .ok (.custom arguments)
      | .error fault => .error (.invalidConstructionSignature method.name fault.reason)
    | none =>
      if throwable.has .stringThrowable then .ok .messageAndAbsentCause
      else if throwable.has .throwableString then .ok .absentCauseAndMessage
      else if throwable.has .default then .ok (.default hasCause)
      else .error (.unconstructibleReturnType method.name throwable.name)

end TypedMessages
