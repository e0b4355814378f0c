import TypedMessages.Diagnostic.Problem
import TypedMessages.Names.Extremes
import TypedMessages.Resolution.Basic

/-!
# Checks of messages

Every method has a message, its own or one taken over, and no two methods of an interface have messages of their own for the same name and number of format arguments, or with the same id. What else went wrong in resolving a method is reported here as well.
-/

namespace TypedMessages

def Method.explicitId? (method : Method) : Option Nat :=
  method.message.bind (·.id.explicit?)

/-- The first method with the most common number of format arguments; of two equally common ones that of the method met first. -/
def mostCommonCount? (methods : List Method) : Option Method :=
  firstMaxBy (fun method => methods.countP (·.formatParameterCount == method.formatParameterCount)) methods

/-- The method that others of its name are compared with: one with a message of its own, if there is any. -/
def referenceMethod? (methods : List Method) : Option Method :=
  let annotated := methods.filter (·.message.isSome)
  mostCommonCount? (if annotated.isEmpty then methods else annotated)

namespace Check

def sameSlot (left right : Method) : Bool :=
  left.name == right.name && left.formatParameterCount == right.formatParameterCount

/-- A second message for a slot is reported with the first. -/
def messageSlots (resolved : ResolvedInterface) : List Diagnostic :=
  let interface := resolved.interface
  (clashes sameSlot [] (interface.methods.filter (·.message.isSome))).map fun (method, first) =>
    Diagnostic.ofMethod interface method (.repeatedMessage first.signature)

/-- Why a method without a message has none: the others of its name have another number of format arguments, or none of them has a message either. -/
def missingMessageProblem (interface : MessageInterface) (method : Method) (failure : ResolutionFailure) : Problem :=
  match referenceMethod? (interface.methodsNamed method.name) with
  | some reference =>
    if reference.formatParameterCount = method.formatParameterCount then .failure failure
    else .countMismatch method.formatParameterCount reference.signature reference.formatParameterCount
  | none => .failure failure

def missingMessage? (resolution : Resolution) : Option ResolutionFailure :=
  resolution.failures.find? fun failure =>
    match failure with
    | .missingMessage _ _ => true
    | _ => false

def parameterCounts (resolved : ResolvedInterface) : List Diagnostic :=
  let interface := resolved.interface
  resolved.methods.flatMap fun (method, resolution) =>
    (missingMessage? resolution).toList.map fun failure =>
      Diagnostic.ofMethod interface method (missingMessageProblem interface method failure)

def sameId (left right : Nat × Method) : Bool :=
  left.1 == right.1

def explicitIds (methods : List Method) : List (Nat × Method) :=
  methods.filterMap fun method => method.explicitId?.map (·, method)

def messageIds (resolved : ResolvedInterface) : List Diagnostic :=
  let interface := resolved.interface
  (clashes sameId [] (explicitIds interface.methods)).map fun ((id, method), (_, first)) =>
    Diagnostic.ofMethod interface method (.repeatedId id first.signature)

/-- Whether a failure is reported by the check of resolutions and not by another one. -/
def isLeftToResolutions : ResolutionFailure → Bool
  | .unconstructibleReturnType _ _ | .missingMessage _ _ => false
  | _ => true

def resolutions (resolved : ResolvedInterface) : List Diagnostic :=
  resolved.methods.flatMap fun (method, resolution) =>
    (resolution.failures.filter isLeftToResolutions).map fun failure =>
      Diagnostic.ofMethod resolved.interface method (.failure failure)

end Check

end TypedMessages
