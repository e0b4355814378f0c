/-!
# Failures of resolution

Why a method cannot be resolved completely. A failure stops nothing: the method is still described as far as possible, and the failure is reported.
-/

namespace TypedMessages

/-- What is wrong with the places of message and cause in a constructor call. -/
inductive SignatureFault
  | messageOutside (index length : Nat)
  | causeOutside (index length : Nat)
  | sharedPosition (index : Nat)
  | noCause
  deriving DecidableEq, Repr

def SignatureFault.reason : SignatureFault → String
  | messageOutside index length => s!"message index {index} is outside the {length} constructor argument(s)"
  | causeOutside index length => s!"cause index {index} is outside the {length} constructor argument(s)"
  | sharedPosition index => s!"cause and message share constructor position {index}"
  | noCause => "a cause position is declared but the method has no cause parameter"

inductive ResolutionFailure
  | missingMessage (method : String) (formatParameterCount : Nat)
  | missingInheritableId (method : String)
  | unconstructibleReturnType (method returnType : String)
  | invalidConstructionSignature (method reason : String)
  deriving DecidableEq, Repr

namespace ResolutionFailure

def method : ResolutionFailure → String
  | missingMessage method _ => method
  | missingInheritableId method => method
  | unconstructibleReturnType method _ => method
  | invalidConstructionSignature method _ => method

def message : ResolutionFailure → String
  | missingMessage method count =>
    "All message bundles and message logger message methods must have or inherit a message. " ++
      s!"No message found for '{method}' with {count} format parameter(s)."
  | missingInheritableId method =>
    s!"Method '{method}' inherits its message id but no method named '{method}' " ++
      "in this interface or its ancestors declares one."
  | unconstructibleReturnType method returnType =>
    s!"Method '{method}' does not have an usable constructor for the return type {returnType}."
  | invalidConstructionSignature method reason =>
    s!"Invalid construction signature on method '{method}': {reason}"

end ResolutionFailure

end TypedMessages
