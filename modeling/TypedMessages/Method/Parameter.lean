import TypedMessages.Declaration.Basic
import TypedMessages.Text.Capital
import TypedMessages.Types.Catalog

/-!
# Parameters of a method

What each parameter of a method is for. Its markers decide that, and where there are several the first of these wins: the cause of an exception, a field or a property of the result, an argument of the constructor, the class that logs. A parameter without any marker is an argument of the message text.
-/

namespace TypedMessages

inductive ParameterRole
  /-- Not the role of a parameter but a query for all of them. -/
  | any
  | cause
  | format
  | construction
  | field
  | property
  | fqcn
  /-- The place of the message itself among the arguments of a constructor. -/
  | message
  deriving DecidableEq, Repr

namespace ParameterRole

def name : ParameterRole → String
  | any => "any"
  | cause => "cause"
  | format => "format"
  | construction => "construction"
  | field => "field"
  | property => "property"
  | fqcn => "fqcn"
  | message => "message"

def all : List ParameterRole :=
  [any, cause, format, construction, field, property, fqcn, message]

/-- Whether a parameter with the second role answers a query for the first. -/
def isAnsweredBy (query role : ParameterRole) : Bool :=
  query == any || query == role

end ParameterRole

structure Parameter where
  name : String
  typeName : String
  isArray : Bool := false
  isPrimitive : Bool := false
  isVarargs : Bool := false
  role : ParameterRole
  /-- The field or the setter that receives the value. -/
  targetName : Option String := none
  formatterClass : Option String := none
  positions : List Nat := []
  transforms : List Transform := []
  deriving DecidableEq, Repr

/-- A type as it is written in a parameter list. -/
def displayType (typeName : String) (isArray isVarargs : Bool) : String :=
  if isVarargs then typeName ++ "..." else if isArray then typeName ++ "[]" else typeName

namespace Parameter

/-- The place of the message among the arguments of a constructor. -/
def messageSlot (typeName : String) : Parameter :=
  { name := "message", typeName, role := .message }

def setterName (member : String) : String :=
  "set" ++ capitalize member

/-- The role that the markers give, with the member that the parameter sets. -/
def roleOf (declaration : ParameterDeclaration) : ParameterRole × Option String :=
  let target? (marker : Option MemberMarker) := marker.bind (·.target? declaration.name)
  if declaration.cause then (.cause, none)
  else
    match target? declaration.field, target? declaration.property with
    | some member, _ => (.field, some member)
    | none, some member => (.property, some (setterName member))
    | none, none =>
      if declaration.param then (.construction, none)
      else if declaration.loggingClass then (.fqcn, none)
      else (.format, none)

def ofDeclaration (catalog : Catalog) (declaration : ParameterDeclaration) : Parameter :=
  let (role, targetName) := roleOf declaration
  { name := declaration.name
    typeName := declaration.typeName
    isArray := declaration.array
    isPrimitive := !declaration.array && !declaration.varargs && catalog.isPrimitive declaration.typeName
    isVarargs := declaration.varargs
    role
    targetName
    formatterClass := declaration.formatWith
    positions := declaration.positions
    transforms := declaration.transforms }

def isFormat (parameter : Parameter) : Bool :=
  parameter.role == .format

def isPositional (parameter : Parameter) : Bool :=
  !parameter.positions.isEmpty

/-- The number of format arguments that the parameter supplies. -/
def formatSlotCount (parameter : Parameter) : Nat :=
  if !parameter.isFormat then 0
  else if parameter.isPositional then parameter.positions.length
  else 1

/-- The transform for one of the positions. Transforms apply only if there is one for each position. -/
def transformAt? (parameter : Parameter) (index : Nat) : Option Transform :=
  if parameter.transforms.length = parameter.positions.length then parameter.transforms[index]? else none

/-- Arrays of either kind are shown as a whole. -/
def isArrayLike (parameter : Parameter) : Bool :=
  parameter.isArray || parameter.isVarargs

def displayType (parameter : Parameter) : String :=
  TypedMessages.displayType parameter.typeName parameter.isArray parameter.isVarargs

end Parameter

def totalFormatSlots : List Parameter → Nat
  | [] => 0
  | parameter :: parameters => parameter.formatSlotCount + totalFormatSlots parameters

end TypedMessages
