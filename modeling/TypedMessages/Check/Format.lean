import TypedMessages.Diagnostic.Problem
import TypedMessages.Resolution.Basic

/-!
# Checks of message texts

The message text of every method has to be readable and to fit the arguments that the parameters of the method supply. Parameters with positions have to claim every position, each once. In strict mode every argument has to be shown; otherwise a parameter that is not shown is a warning. Translations are compared with the text that they translate.
-/

namespace TypedMessages

def FormatArgument.argumentType (catalog : Catalog) (argument : FormatArgument) : ArgumentType :=
  match argument.transform with
  | some transform => catalog.argumentType transform.resultType false
  | none => catalog.argumentType argument.parameter.typeName argument.parameter.isArrayLike

namespace Check

/-! ### Positions -/

/-- The positions claimed so far, with the names of the parameters that claimed them first. -/
abbrev Claims := List (Nat × String)

/-- What is wrong with one position of a parameter, after the positions `own` of the same parameter. -/
def positionProblems (count : Nat) (claims : Claims) (parameter : Parameter) (own : List Nat) (position : Nat) :
    List Problem :=
  (if position ∈ own then [.repeatedPosition position] else []) ++
    if position = 0 ∨ count < position then [.positionOutside position count]
    else
      match claims.lookup position with
      | some owner => if owner = parameter.name then [] else [.positionTaken position owner]
      | none => []

def addClaim (count : Nat) (parameter : Parameter) (claims : Claims) (position : Nat) : Claims :=
  if position = 0 ∨ count < position ∨ (claims.lookup position).isSome then claims
  else claims ++ [(position, parameter.name)]

def claimPositions (count : Nat) (parameter : Parameter) (claims : Claims) (own : List Nat) :
    List Nat → List Problem × Claims
  | [] => ([], claims)
  | position :: positions =>
    let problems := positionProblems count claims parameter own position
    let (others, claims) :=
      claimPositions count parameter (addClaim count parameter claims position) (position :: own) positions
    (problems ++ others, claims)

def parameterPositions (count : Nat) (claims : Claims) (parameter : Parameter) : List Problem × Claims :=
  if parameter.isPositional then
    let (problems, claims) := claimPositions count parameter claims [] parameter.positions
    let mismatch := !parameter.transforms.isEmpty && parameter.transforms.length != parameter.positions.length
    ((if mismatch then [.transformCount] else []) ++ problems, claims)
  else (if parameter.transforms.isEmpty then [] else [.misplacedTransforms], claims)

def allPositions (count : Nat) (claims : Claims) : List Parameter → List (Parameter × Problem) × Claims
  | [] => ([], claims)
  | parameter :: parameters =>
    let (problems, claims) := parameterPositions count claims parameter
    let (others, claims) := allPositions count claims parameters
    (problems.map (parameter, ·) ++ others, claims)

/-- The diagnostics of the positions of a method. Once a parameter has positions, all have to be claimed. -/
def positionDiagnostics (interface : MessageInterface) (method : Method) : List Diagnostic :=
  let parameters := method.formatParameters
  let count := method.formatParameterCount
  let (problems, claims) := allPositions count [] parameters
  let missing :=
    if parameters.any Parameter.isPositional then
      ((List.range count).map (· + 1)).filter fun position => (claims.lookup position).isNone
    else []
  problems.map (fun (parameter, problem) => Diagnostic.ofParameter interface method parameter problem) ++
    missing.map fun position => Diagnostic.ofMethod interface method (.missingPosition position)

/-! ### Texts -/

def isReferenced (arguments : List FormatArgument) (referenced : List Nat) (parameter : Parameter) : Bool :=
  arguments.zipIdx.any fun (argument, index) =>
    argument.parameter.name == parameter.name && referenced.contains index

/-- The diagnostics of a text that fits its arguments but may not show all of them. -/
def referenceDiagnostics (strict : Bool) (interface : MessageInterface) (method : Method) (message : Message)
    (parts : List Part) (arguments : List FormatArgument) : List Diagnostic :=
  if strict then
    let required := argumentCount message.format parts
    if required = arguments.length then []
    else [Diagnostic.ofMethod interface method (.argumentCount message.text required arguments.length)]
  else
    let referenced := referencedArguments message.format parts
    (method.formatParameters.filter fun parameter => !isReferenced arguments referenced parameter).map
      fun parameter => Diagnostic.ofParameter interface method parameter (.unreferencedParameter message.text)

def messageFormat (catalog : Catalog) (strict : Bool) (interface : MessageInterface) (method : Method)
    (message : Message) : List Diagnostic :=
  match parseFormat message.format message.text with
  | .error error => [Diagnostic.ofMethod interface method (.unreadableFormat message.text error)]
  | .ok parts =>
    match positionDiagnostics interface method with
    | [] =>
      let arguments := method.formatArguments.filterMap id
      match argumentFault? message.format parts (arguments.map (·.argumentType catalog)) with
      | some fault => [Diagnostic.ofMethod interface method (.argument fault)]
      | none => referenceDiagnostics strict interface method message parts arguments
    | diagnostics => diagnostics

def formats (catalog : Catalog) (strict : Bool) (resolved : ResolvedInterface) : List Diagnostic :=
  resolved.methods.flatMap fun (method, resolution) =>
    match resolution.descriptor.message with
    | none => []
    | some message => messageFormat catalog strict resolved.interface method message

def translations (resolved : ResolvedInterface) : List Diagnostic :=
  resolved.methods.flatMap fun (method, resolution) =>
    match resolution.descriptor.message with
    | none => []
    | some message =>
      method.translations.filterMap fun (locale, text) =>
        (translationFault? message.format message.text text).map fun fault =>
          Diagnostic.ofMethod resolved.interface method (.translation locale fault)

end Check

end TypedMessages
