import TypedMessages.Interface.Basic
import TypedMessages.Names.Extremes
import TypedMessages.Resolution.Construction

/-!
# Resolution of methods

Finds for every method of an interface its message, the id of that message, and the way its exception is made. A method without a message takes that of the first method with its name and number of format arguments. An id that is to be inherited is that of the nearest method of the same name whose own message declares one; the distance is counted in extension steps from the interface that declares the method, and of two equally near methods the first one counts.
-/

namespace TypedMessages

structure Descriptor where
  interface : String
  declaringInterface : String
  name : String
  signature : String
  message : Option Message
  parameters : List Parameter
  formatParameterCount : Nat
  returnType : ReturnType
  construction : Option Construction
  logLevel : Option LogLevel
  isOverloaded : Bool
  messageMethodName : String
  translationKey : String
  isValid : Bool
  deriving DecidableEq, Repr

structure Resolution where
  descriptor : Descriptor
  failures : List ResolutionFailure
  deriving DecidableEq, Repr

structure ResolvedInterface where
  interface : MessageInterface
  resolutions : List Resolution
  deriving DecidableEq, Repr

def ResolvedInterface.methods (resolved : ResolvedInterface) : List (Method × Resolution) :=
  resolved.interface.methods.zip resolved.resolutions

namespace MessageInterface

/-- The method that a method without a message takes one from. -/
def messageSource? (interface : MessageInterface) (method : Method) : Option Method :=
  (interface.methodsNamed method.name).find? fun other =>
    other.formatParameterCount == method.formatParameterCount && other.message.isSome

/-- The method's own message, or the one it takes over. -/
def effectiveMessage? (interface : MessageInterface) (method : Method) : Option Message :=
  match method.message with
  | some message => some message
  | none =>
    (interface.messageSource? method).bind fun source =>
      source.message.map fun message => { message with inherited := true }

end MessageInterface

/-- An id that a message declares: a number, or that it has none. -/
def MessageId.declared? : MessageId → Option MessageId
  | inherited | unspecified => none
  | id => some id

namespace Hierarchy

/-- The declared ids of the methods with the name of a method, with their distances from it. -/
def idCandidates (h : Hierarchy) (interface : MessageInterface) (method : Method) : List (Nat × MessageId) :=
  (interface.methodsNamed method.name).filterMap fun candidate => do
    let message ← candidate.message
    let id ← message.id.declared?
    let distance ← h.distance? method.declaringInterface candidate.declaringInterface
    return (distance, id)

def inheritedId? (h : Hierarchy) (interface : MessageInterface) (method : Method) : Option MessageId :=
  (firstMinBy (·.1) (h.idCandidates interface method)).map (·.2)

/-- The message of a method with the id that it has in the end, and what is wrong with it. -/
def resolveMessage (h : Hierarchy) (interface : MessageInterface) (method : Method) :
    Option Message × List ResolutionFailure :=
  match interface.effectiveMessage? method with
  | none => (none, [.missingMessage method.name method.formatParameterCount])
  | some message =>
    if message.id = .inherited then
      match h.inheritedId? interface method with
      | some id => (some { message with id }, [])
      | none => (some message, [.missingInheritableId method.name])
    else (some message, [])

end Hierarchy

def resolveConstruction (method : Method) : Option Construction × List ResolutionFailure :=
  match method.returnType.throwable? with
  | none => (none, [])
  | some throwable =>
    match selectConstruction method throwable with
    | .ok construction => (some construction, [])
    | .error failure => (none, [failure])

namespace Hierarchy

def resolveMethod (h : Hierarchy) (interface : MessageInterface) (method : Method) : Resolution :=
  let (message, messageFailures) := h.resolveMessage interface method
  let (construction, constructionFailures) := resolveConstruction method
  let failures := messageFailures ++ constructionFailures
  { descriptor :=
      { interface := interface.name
        declaringInterface := method.declaringInterface
        name := method.name
        signature := method.signature
        message
        parameters := method.parameters
        formatParameterCount := method.formatParameterCount
        returnType := method.returnType
        construction
        logLevel := method.logLevel
        isOverloaded := method.isOverloaded
        messageMethodName := method.messageMethodName
        translationKey := method.translationKey
        isValid := failures.isEmpty }
    failures }

def resolve (h : Hierarchy) (interface : MessageInterface) : ResolvedInterface :=
  { interface, resolutions := interface.methods.map (h.resolveMethod interface) }

end Hierarchy

def Model.resolve (model : Model) (name : String) : Except EngineError ResolvedInterface :=
  (model.interface name).map model.hierarchy.resolve

end TypedMessages
