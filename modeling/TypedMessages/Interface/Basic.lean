import TypedMessages.Extension.Hierarchy
import TypedMessages.Method.Basic

/-!
# Message interfaces

An interface with all its methods: its own, and those of the interfaces that it extends. A method that can be reached on several ways, or is declared again, is taken where it is met first. Methods of logger bases are passed through and only listed.
-/

namespace TypedMessages

/-- A declared method as it is told apart from others: its name, the types of its parameters and its result. -/
def MethodDeclaration.signatureKey (method : MethodDeclaration) : String :=
  let types := method.parameters.map fun parameter =>
    displayType parameter.typeName parameter.array parameter.varargs
  method.name ++ "(" ++ ", ".intercalate types ++ "): " ++ method.returnType

/-- The methods that an interface is resolved with, each with the interface that declares it, and those that are passed through. -/
structure FlattenedMethods where
  methods : List (InterfaceDeclaration × MethodDeclaration)
  delegated : List String
  deriving DecidableEq, Repr

/-- The first method that is declared outside a closure. -/
def FlattenedMethods.stray? (flattened : FlattenedMethods) (closure : List String) :
    Option (InterfaceDeclaration × MethodDeclaration) :=
  flattened.methods.find? fun (declaring, _) => !closure.contains declaring.name

/-- Keeps of several methods with one signature key the first. -/
def firstByKey (seen : List String) :
    List (InterfaceDeclaration × MethodDeclaration) → List (InterfaceDeclaration × MethodDeclaration)
  | [] => []
  | (declaring, method) :: methods =>
    if method.signatureKey ∈ seen then firstByKey seen methods
    else (declaring, method) :: firstByKey (method.signatureKey :: seen) methods

namespace Hierarchy

/-- The declarations of the names of a closure; all of them have to be declared. -/
def closureDeclarations (h : Hierarchy) (requested : String) :
    List String → Except EngineError (List InterfaceDeclaration)
  | [] => .ok []
  | name :: names =>
    match h.declaration? name with
    | none => .error (.incompleteClosure requested { declaring := name })
    | some declaration => (h.closureDeclarations requested names).map (declaration :: ·)

def methodsOf (declarations : List InterfaceDeclaration) : List (InterfaceDeclaration × MethodDeclaration) :=
  declarations.flatMap fun declaration => declaration.methods.map (declaration, ·)

/-- The signature keys of the methods that an interface passes through. -/
def delegatedOf (h : Hierarchy) (name : String) : List String :=
  (h.basesOf name).flatMap fun base =>
    match h.declaration? base with
    | some declaration => declaration.methods.map (·.signatureKey)
    | none => []

def flattenedMethods (h : Hierarchy) (name : String) : Except EngineError FlattenedMethods :=
  if h.contains name then
    (h.closureDeclarations name (h.closure name)).map fun declarations =>
      { methods := firstByKey [] (methodsOf declarations), delegated := h.delegatedOf name }
  else .error (.unknownInterface name)

end Hierarchy

structure MessageInterface where
  name : String
  projectCode : String
  kind : InterfaceKind
  parents : List String
  methods : List Method
  delegated : List String
  validIdRanges : List IdRange
  idLength : Nat
  deriving DecidableEq, Repr

namespace MessageInterface

def isLogger (interface : MessageInterface) : Bool :=
  interface.kind == .logger

/-- The methods that the interface declares itself. -/
def declaredMethods (interface : MessageInterface) : List Method :=
  interface.methods.filter (·.declaringInterface == interface.name)

def methodsNamed (interface : MessageInterface) (name : String) : List Method :=
  interface.methods.filter (·.name == name)

end MessageInterface

/-- The method with what depends on the methods beside it. -/
def Method.amongSiblings (methods : List Method) (method : Method) : Method :=
  let siblings := methods.filter (·.name == method.name)
  { method with
    isOverloaded := siblings.any (·.formatParameterCount != method.formatParameterCount)
    inheritsMessage := method.message.isNone &&
      siblings.any fun other => other.formatParameterCount == method.formatParameterCount && other.message.isSome }

structure Model where
  batch : Batch
  hierarchy : Hierarchy
  catalog : Catalog

namespace Model

/-- The model of a batch whose types are visited in the given order. -/
def ofBatchAlong (order : List String) (batch : Batch) : Model :=
  { batch
    hierarchy := Hierarchy.ofBatch batch
    catalog := Catalog.buildAlong order batch.types batch.options.typeRoots }

/-- The model of a batch whose types are visited as they are declared. -/
def ofBatch (batch : Batch) : Model :=
  ofBatchAlong (TypeTable.names (builtinTypes ++ batch.types)) batch

def assemble (model : Model) (declaration : InterfaceDeclaration) (flattened : FlattenedMethods) : MessageInterface :=
  let methods := flattened.methods.map fun (declaring, method) =>
    Method.ofDeclaration model.catalog declaring.name method
  { name := declaration.name
    projectCode := declaration.projectCode
    kind := declaration.kind
    parents := declaration.parents
    methods := methods.map (Method.amongSiblings methods)
    delegated := flattened.delegated
    validIdRanges := declaration.validIdRanges
    idLength := declaration.idLength }

/-- Builds the interface with a name. Of several declarations the first gives its own data, and the last the methods and parents. All methods have to be declared in the closure of the interface. -/
def interface (model : Model) (name : String) : Except EngineError MessageInterface :=
  match model.batch.interfaces.find? (·.name == name) with
  | none => .error (.unknownInterface name)
  | some declaration => do
    let closure ← model.hierarchy.closureOf name
    let flattened ← model.hierarchy.flattenedMethods name
    match flattened.stray? closure with
    | some (declaring, method) =>
      .error (.incompleteClosure name { declaring := declaring.name, method := method.name })
    | none => return model.assemble declaration flattened

end Model

end TypedMessages
