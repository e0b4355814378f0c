/-!
# Types of arguments and results

What a batch says about the types it uses: their direct supertypes, the constructors of the exceptions among them, and the names that anchor the built-in categories. From these come the category of a format argument and the kind of a return type.
-/

namespace TypedMessages

/-- The parameter lists of exception constructors that can be called: none, a message, a cause, or both in either order. -/
inductive ConstructorShape
  | default
  | string
  | throwable
  | stringThrowable
  | throwableString
  deriving DecidableEq, Repr

namespace ConstructorShape

def all : List ConstructorShape :=
  [default, string, throwable, stringThrowable, throwableString]

def name : ConstructorShape → String
  | default => "default"
  | string => "string"
  | throwable => "throwable"
  | stringThrowable => "string_throwable"
  | throwableString => "throwable_string"

def ordered (shapes : List ConstructorShape) : List ConstructorShape :=
  all.filter (· ∈ shapes)

end ConstructorShape

structure TypeDeclaration where
  name : String
  supertypes : List String := []
  constructors : List ConstructorShape := []
  deriving DecidableEq, Repr

structure TypeRoots where
  voidType : String := "void"
  stringType : String := "java.lang.String"
  throwableType : String := "java.lang.Throwable"
  uncheckedTypes : List String := ["java.lang.RuntimeException", "java.lang.Error"]
  primitiveTypes : List String := ["boolean", "byte", "char", "short", "int", "long", "float", "double"]
  integralTypes : List String :=
    ["byte", "short", "int", "long", "java.lang.Byte", "java.lang.Short", "java.lang.Integer", "java.lang.Long",
     "java.math.BigInteger"]
  floatingPointTypes : List String :=
    ["float", "double", "java.lang.Float", "java.lang.Double", "java.math.BigDecimal"]
  characterTypes : List String :=
    ["char", "java.lang.Character", "byte", "java.lang.Byte", "short", "java.lang.Short", "int", "java.lang.Integer"]
  temporalTypes : List String :=
    ["long", "java.lang.Long", "java.util.Date", "java.util.Calendar", "java.time.temporal.TemporalAccessor"]
  deriving DecidableEq, Repr

/-- The kinds of value that a conversion may ask for. -/
inductive TypeCategory
  | integral
  | floatingPoint
  | character
  | temporal
  deriving DecidableEq, Repr

def TypeCategory.all : List TypeCategory :=
  [integral, floatingPoint, character, temporal]

/-- The names whose subtypes make up a category. -/
def TypeRoots.ofCategory (roots : TypeRoots) : TypeCategory → List String
  | .integral => roots.integralTypes
  | .floatingPoint => roots.floatingPointTypes
  | .character => roots.characterTypes
  | .temporal => roots.temporalTypes

structure ArgumentType where
  name : String
  categories : List TypeCategory
  deriving DecidableEq, Repr

def ArgumentType.belongsTo (argument : ArgumentType) (category : TypeCategory) : Bool :=
  argument.categories.contains category

/-- Where the message and the cause stand among the arguments of a constructor, counted from zero. -/
structure ConstructionSignature where
  messageIndex : Nat
  causeIndex : Option Nat
  deriving DecidableEq, Repr

/-- An exception type. The signature is given by a method that wants its parameters passed to the constructor. -/
structure ThrowableType where
  name : String
  constructors : List ConstructorShape
  signature : Option ConstructionSignature
  isChecked : Bool
  deriving DecidableEq, Repr

def ThrowableType.has (throwable : ThrowableType) (shape : ConstructorShape) : Bool :=
  throwable.constructors.contains shape

/-- The result of a method: nothing, text, an exception, or something that no message can be. -/
inductive ReturnType
  | void
  | string (name : String)
  | throwable (type : ThrowableType)
  | other (name : String)
  deriving DecidableEq, Repr

namespace ReturnType

def name : ReturnType → String
  | void => "void"
  | string name => name
  | throwable type => type.name
  | other name => name

def isVoid : ReturnType → Bool
  | void => true
  | _ => false

def throwable? : ReturnType → Option ThrowableType
  | throwable type => some type
  | _ => none

def isMessageValue : ReturnType → Bool
  | string _ | throwable _ => true
  | _ => false

end ReturnType

end TypedMessages
