import TypedMessages.Method.Parameter

/-!
# Methods

A method of a message interface, declared there or inherited. It carries its own message only; the one that it takes over from another method is found when it is resolved.
-/

namespace TypedMessages

structure Message where
  text : String
  format : FormatKind
  id : MessageId
  /-- Whether the message was taken over from another method. -/
  inherited : Bool := false
  deriving DecidableEq, Repr

structure FormatArgument where
  parameter : Parameter
  transform : Option Transform
  deriving DecidableEq, Repr

structure Method where
  declaringInterface : String
  name : String
  parameters : List Parameter
  returnType : ReturnType
  thrownTypes : List ThrowableType
  message : Option Message
  logLevel : Option LogLevel
  translations : List (String × String)
  formatParameterCount : Nat
  /-- Whether a method of the same name has another number of format arguments. -/
  isOverloaded : Bool := false
  /-- Whether the method has no message and one of the same name and number of format arguments has. -/
  inheritsMessage : Bool := false
  deriving DecidableEq, Repr

namespace Method

def ofDeclaration (catalog : Catalog) (declaringInterface : String) (declaration : MethodDeclaration) : Method :=
  let parameters := declaration.parameters.map (Parameter.ofDeclaration catalog)
  { declaringInterface
    name := declaration.name
    parameters
    returnType := catalog.returnType declaration.returnType declaration.signature
    thrownTypes := declaration.throws.map (catalog.throwable · none)
    message := declaration.message.map fun message =>
      { text := message.value, format := message.format, id := message.id }
    logLevel := declaration.logLevel
    translations := declaration.translations
    formatParameterCount := totalFormatSlots parameters }

def isLoggerMethod (method : Method) : Bool :=
  method.logLevel.isSome

def parametersWith (method : Method) (role : ParameterRole) : List Parameter :=
  method.parameters.filter fun parameter => role.isAnsweredBy parameter.role

def formatParameters (method : Method) : List Parameter :=
  method.parametersWith .format

def cause? (method : Method) : Option Parameter :=
  (method.parametersWith .cause).head?

def hasCause (method : Method) : Bool :=
  method.cause?.isSome

/-- The claim of a parameter to be the format argument of a number counted from one. -/
abbrev PositionClaim := Nat × FormatArgument

/-- The format arguments that positional parameters claim to be, in the order of the claims. -/
def positionClaims (parameters : List Parameter) : List PositionClaim :=
  parameters.flatMap fun parameter =>
    parameter.positions.zipIdx.map fun (position, index) =>
      (position, { parameter, transform := parameter.transformAt? index })

/-- The format arguments in order. Without positional parameters they are the format parameters as they come; otherwise positions alone count, the first claim to one holds, and an argument that nothing claims is missing. -/
def formatArguments (method : Method) : List (Option FormatArgument) :=
  let parameters := method.formatParameters
  if parameters.any Parameter.isPositional then
    let claims := positionClaims parameters
    (List.range method.formatParameterCount).map fun index => claims.lookup (index + 1)
  else
    (List.range method.formatParameterCount).map fun index =>
      parameters[index]?.map fun parameter => { parameter, transform := none }

def signature (method : Method) : String :=
  method.name ++ "(" ++ ", ".intercalate (method.parameters.map Parameter.displayType) ++ ")"

/-- The name of the accessor of the message text. -/
def messageMethodName (method : Method) : String :=
  method.name ++ (if method.isOverloaded then toString method.formatParameterCount else "") ++ "$str"

def translationKey (method : Method) : String :=
  if method.isOverloaded then method.name ++ "." ++ toString method.formatParameterCount else method.name

end Method

end TypedMessages
