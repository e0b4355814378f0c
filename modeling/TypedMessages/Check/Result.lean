import TypedMessages.Diagnostic.Problem
import TypedMessages.Resolution.Basic

/-!
# Checks of results

What a method returns and throws. Log methods return nothing, all others a text or an exception. An exception has to be constructible and should carry the message; arguments for its constructor need a signature that places them. A method has at most one cause and throws only unchecked exceptions.
-/

namespace TypedMessages.Check

def perMethod (interface : MessageInterface) (problems : Method → List Problem) : List Diagnostic :=
  interface.methods.flatMap fun method => (problems method).map (Diagnostic.ofMethod interface method)

def resultProblems (interface : MessageInterface) (method : Method) : List Problem :=
  if interface.isLogger && method.isLoggerMethod then
    if method.returnType.isVoid then [] else [.loggerResult]
  else if method.returnType.isMessageValue then []
  else [.invalidResult method.name method.returnType.name]

def returnTypes (resolved : ResolvedInterface) : List Diagnostic :=
  perMethod resolved.interface (resultProblems resolved.interface)

/-- Failures other than that of having no constructor at all are left to the check of resolutions. -/
def constructionProblems (method : Method) : List Problem :=
  let constructorParameters := !(method.parametersWith .construction).isEmpty
  match method.returnType.throwable? with
  | none => if constructorParameters then [.constructorParameters method.name method.returnType.name] else []
  | some throwable =>
    if constructorParameters && throwable.signature.isNone then
      [.noConstructionSignature method.name throwable.name]
    else
      match selectConstruction method throwable with
      | .error (.unconstructibleReturnType name returnType) => [.failure (.unconstructibleReturnType name returnType)]
      | .error _ => []
      | .ok construction => if construction.setsMessage then [] else [.messageIgnored]

def exceptionConstructors (resolved : ResolvedInterface) : List Diagnostic :=
  perMethod resolved.interface constructionProblems

/-- Every cause after the first is one too many. -/
def causes (resolved : ResolvedInterface) : List Diagnostic :=
  resolved.interface.methods.flatMap fun method =>
    ((method.parametersWith .cause).drop 1).map fun parameter =>
      Diagnostic.ofParameter resolved.interface method parameter .extraCause

def checkedThrows (resolved : ResolvedInterface) : List Diagnostic :=
  perMethod resolved.interface fun method =>
    (method.thrownTypes.filter (·.isChecked)).map fun thrown => .checkedException method.name thrown.name

end TypedMessages.Check
