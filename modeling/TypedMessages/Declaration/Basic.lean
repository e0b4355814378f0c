import TypedMessages.Format.Part
import TypedMessages.Types.Basic

/-!
# Declarations

What a batch declares: message interfaces with their methods, the types they use, and a few options. A message interface is a logger, whose methods write log messages, or a bundle, whose methods return texts and exceptions.
-/

namespace TypedMessages

inductive InterfaceKind
  | logger
  | bundle
  deriving DecidableEq, Repr

def InterfaceKind.name : InterfaceKind → String
  | logger => "logger"
  | bundle => "bundle"

inductive LogLevel
  | fatal
  | error
  | warn
  | info
  | debug
  | trace
  deriving DecidableEq, Repr

def LogLevel.name : LogLevel → String
  | fatal => "fatal"
  | error => "error"
  | warn => "warn"
  | info => "info"
  | debug => "debug"
  | trace => "trace"

/-- The id of a message: none at all, left open, taken over from a method of the same name, or a number. -/
inductive MessageId
  | absent
  | unspecified
  | inherited
  | explicit (number : Nat)
  deriving DecidableEq, Repr

namespace MessageId

def text : MessageId → String
  | absent => "none"
  | unspecified => "unspecified"
  | inherited => "inherit"
  | explicit number => toString number

def explicit? : MessageId → Option Nat
  | explicit number => some number
  | _ => none

end MessageId

/-- What is shown of an argument in place of the argument itself. -/
inductive Transform
  | getClass
  | hashCode
  | identityHashCode
  | size
  deriving DecidableEq, Repr

namespace Transform

def name : Transform → String
  | getClass => "get_class"
  | hashCode => "hash_code"
  | identityHashCode => "identity_hash_code"
  | size => "size"

def resultType : Transform → String
  | getClass => "java.lang.Class"
  | _ => "int"

end Transform

/-- A marker that makes a parameter a field or property of the result: switched on or off, or with the name of the member. -/
inductive MemberMarker
  | enabled (on : Bool)
  | named (name : String)
  deriving DecidableEq, Repr

/-- The member that a marked parameter sets, if the marker is on. Without a name of its own it is that of the parameter. -/
def MemberMarker.target? (parameterName : String) : MemberMarker → Option String
  | enabled false => none
  | enabled true => some parameterName
  | named name => some (if name.isEmpty then parameterName else name)

structure ParameterDeclaration where
  name : String
  typeName : String
  array : Bool := false
  varargs : Bool := false
  cause : Bool := false
  /-- Whether the parameter is passed to the constructor of the exception. -/
  param : Bool := false
  field : Option MemberMarker := none
  property : Option MemberMarker := none
  loggingClass : Bool := false
  formatWith : Option String := none
  /-- The numbers of the format arguments that the parameter is, counted from one. -/
  positions : List Nat := []
  /-- One transform for each of the positions. -/
  transforms : List Transform := []
  deriving DecidableEq, Repr

structure MessageDeclaration where
  value : String
  format : FormatKind := .printf
  id : MessageId := .unspecified
  deriving DecidableEq, Repr

structure MethodDeclaration where
  name : String
  parameters : List ParameterDeclaration := []
  returnType : String := "void"
  throws : List String := []
  message : Option MessageDeclaration := none
  logLevel : Option LogLevel := none
  signature : Option ConstructionSignature := none
  /-- Translated texts by locale, in the order of the locales. -/
  translations : List (String × String) := []
  deriving DecidableEq, Repr

structure IdRange where
  min : Nat
  max : Nat
  deriving DecidableEq, Repr

namespace IdRange

def contains (range : IdRange) (id : Nat) : Bool :=
  range.min ≤ id && id ≤ range.max

def overlaps (left right : IdRange) : Bool :=
  left.min ≤ right.max && right.min ≤ left.max

def text (range : IdRange) : String :=
  s!"{range.min}-{range.max}"

end IdRange

structure InterfaceDeclaration where
  name : String
  kind : InterfaceKind
  projectCode : String := ""
  parents : List String := []
  idLength : Nat := 0
  validIdRanges : List IdRange := []
  methods : List MethodDeclaration := []
  deriving DecidableEq, Repr

/-- The declaration of a name; the last one if there are several. -/
def findInterface? (interfaces : List InterfaceDeclaration) (name : String) : Option InterfaceDeclaration :=
  interfaces.reverse.find? (·.name == name)

theorem mem_of_findInterface? {interfaces : List InterfaceDeclaration} {name : String}
    {interface : InterfaceDeclaration} (h : findInterface? interfaces name = some interface) :
    interface ∈ interfaces ∧ interface.name = name := by
  have hmem := List.mem_of_find?_eq_some h
  have hname := List.find?_some h
  exact ⟨List.mem_reverse.1 hmem, by simpa using hname⟩

theorem mem_names_of_findInterface? {interfaces : List InterfaceDeclaration} {name : String}
    {interface : InterfaceDeclaration} (h : findInterface? interfaces name = some interface) :
    name ∈ interfaces.map (·.name) := by
  obtain ⟨hmem, hname⟩ := mem_of_findInterface? h
  exact List.mem_map.2 ⟨interface, hmem, hname⟩

structure Options where
  /-- The interfaces whose methods loggers pass through to. -/
  loggerBases : List String := ["org.jboss.logging.BasicLogger"]
  strictArgumentCount : Bool := false
  maxConcurrency : Option Nat := none
  typeRoots : TypeRoots := {}
  deriving DecidableEq, Repr

def Options.isLoggerBase (options : Options) (interface : String) : Bool :=
  options.loggerBases.contains interface

structure Batch where
  options : Options := {}
  types : List TypeDeclaration := []
  interfaces : List InterfaceDeclaration := []
  deriving DecidableEq, Repr

def Batch.interfaceNames (batch : Batch) : List String :=
  batch.interfaces.map (·.name)

end TypedMessages
