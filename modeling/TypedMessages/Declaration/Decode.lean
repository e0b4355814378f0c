import TypedMessages.Declaration.Basic
import TypedMessages.Declaration.Source

/-!
# Reading declarations

Reads the declarations of a batch from a data notation. Fields with a default may be left out, fields that are not known are passed over, and everything else has to be as declared.
-/

namespace TypedMessages

namespace Decode

variable {ν : Type} [DataSource ν]

open DataSource

abbrev Fields (ν : Type) := List (String × ν)

def required {α : Type} (decode : ν → Option α) (fields : Fields ν) (name : String) : Option α :=
  (fields.lookup name).bind decode

def withDefault {α : Type} (default : α) (decode : ν → Option α) (fields : Fields ν) (name : String) : Option α :=
  match fields.lookup name with
  | none => some default
  | some value => decode value

/-- A field that may also be absent. -/
def optional {α : Type} (decode : ν → Option α) (fields : Fields ν) (name : String) : Option (Option α) :=
  match fields.lookup name with
  | none => some none
  | some value => if isAbsent value then some none else (decode value).map some

def list {α : Type} (decode : ν → Option α) (value : ν) : Option (List α) :=
  (items? value).bind (·.mapM decode)

def texts (value : ν) : Option (List String) :=
  list text? value

def below (limit : Nat) (n : Nat) : Option Nat :=
  if n < limit then some n else none

def naturalBelow (limit : Nat) (value : ν) : Option Nat :=
  (natural? value).bind (below limit)

def count (value : ν) : Option Nat :=
  naturalBelow countLimit value

/-- Message ids and the bounds of their ranges are below this limit. -/
def idLimit : Nat := 4294967296

def oneOf {α : Type} (all : List α) (name : α → String) (value : ν) : Option α :=
  (choice? value).bind fun text => all.find? (name · == text)

def formatKind (value : ν) : Option FormatKind :=
  oneOf [.printf, .messageFormat, .noFormat] FormatKind.name value

def constructorShape (value : ν) : Option ConstructorShape :=
  oneOf ConstructorShape.all ConstructorShape.name value

def transform (value : ν) : Option Transform :=
  oneOf [.getClass, .hashCode, .identityHashCode, .size] Transform.name value

def logLevel (value : ν) : Option LogLevel :=
  oneOf [.fatal, .error, .warn, .info, .debug, .trace] LogLevel.name value

def interfaceKind (value : ν) : Option InterfaceKind :=
  oneOf [.logger, .bundle] InterfaceKind.name value

def typeDeclaration (value : ν) : Option TypeDeclaration := do
  let fields ← fields? ["name", "supertypes", "constructors"] value
  return {
    name := ← required text? fields "name"
    supertypes := ← withDefault [] texts fields "supertypes"
    constructors := ← withDefault [] (list constructorShape) fields "constructors" }

def typeRoots (value : ν) : Option TypeRoots := do
  let fields ← fields?
    ["void_type", "string_type", "throwable_type", "unchecked_types", "primitive_types", "integral_types",
     "floating_point_types", "character_types", "temporal_types"] value
  let usual : TypeRoots := {}
  return {
    voidType := ← withDefault usual.voidType text? fields "void_type"
    stringType := ← withDefault usual.stringType text? fields "string_type"
    throwableType := ← withDefault usual.throwableType text? fields "throwable_type"
    uncheckedTypes := ← withDefault usual.uncheckedTypes texts fields "unchecked_types"
    primitiveTypes := ← withDefault usual.primitiveTypes texts fields "primitive_types"
    integralTypes := ← withDefault usual.integralTypes texts fields "integral_types"
    floatingPointTypes := ← withDefault usual.floatingPointTypes texts fields "floating_point_types"
    characterTypes := ← withDefault usual.characterTypes texts fields "character_types"
    temporalTypes := ← withDefault usual.temporalTypes texts fields "temporal_types" }

def memberMarker (value : ν) : Option MemberMarker :=
  match meaning value with
  | .bool on => some (.enabled on)
  | .text name => some (.named name)
  | _ => none

def parameter (value : ν) : Option ParameterDeclaration := do
  let fields ← fields?
    ["name", "type", "array", "varargs", "cause", "param", "field", "property", "logging_class", "format_with",
     "positions", "transforms"] value
  return {
    name := ← required text? fields "name"
    typeName := ← required text? fields "type"
    array := ← withDefault false flag? fields "array"
    varargs := ← withDefault false flag? fields "varargs"
    cause := ← withDefault false flag? fields "cause"
    param := ← withDefault false flag? fields "param"
    field := ← optional memberMarker fields "field"
    property := ← optional memberMarker fields "property"
    loggingClass := ← withDefault false flag? fields "logging_class"
    formatWith := ← optional text? fields "format_with"
    positions := ← withDefault [] (list count) fields "positions"
    transforms := ← withDefault [] (list transform) fields "transforms" }

def messageId (value : ν) : Option MessageId :=
  match meaning value with
  | .integer number => (number.toNat?.bind (below idLimit)).map .explicit
  | _ =>
    match word? value with
    | some "inherit" => some .inherited
    | some "none" => some .absent
    | _ => none

def message (value : ν) : Option MessageDeclaration := do
  let fields ← fields? ["value", "format", "id"] value
  return {
    value := ← required text? fields "value"
    format := ← withDefault .printf formatKind fields "format"
    id := (← optional messageId fields "id").getD .unspecified }

def signature (value : ν) : Option ConstructionSignature := do
  let fields ← fields? ["message_index", "cause_index"] value
  return {
    messageIndex := ← required count fields "message_index"
    causeIndex := ← optional count fields "cause_index" }

/-- Puts an entry into a list that is ordered by its keys, in place of one with the same key. -/
def insertEntry (key text : String) : List (String × String) → List (String × String)
  | [] => [(key, text)]
  | (other, otherText) :: rest =>
    if key < other then (key, text) :: (other, otherText) :: rest
    else if key = other then (key, text) :: rest
    else (other, otherText) :: insertEntry key text rest

def textsByKey (value : ν) : Option (List (String × String)) := do
  let entries ← (← entries? value).mapM fun (key, value) => (text? value).map (key, ·)
  return entries.foldl (fun ordered (key, text) => insertEntry key text ordered) []

def method (value : ν) : Option MethodDeclaration := do
  let fields ← fields?
    ["name", "parameters", "return_type", "throws", "message", "log_level", "signature", "translations"] value
  return {
    name := ← required text? fields "name"
    parameters := ← withDefault [] (list parameter) fields "parameters"
    returnType := ← withDefault "void" text? fields "return_type"
    throws := ← withDefault [] texts fields "throws"
    message := ← optional message fields "message"
    logLevel := ← optional logLevel fields "log_level"
    signature := ← optional signature fields "signature"
    translations := ← withDefault [] textsByKey fields "translations" }

def idRange (value : ν) : Option IdRange := do
  let fields ← fields? ["min", "max"] value
  return {
    min := ← required (naturalBelow idLimit) fields "min"
    max := ← required (naturalBelow idLimit) fields "max" }

def interface (value : ν) : Option InterfaceDeclaration := do
  let fields ← fields?
    ["name", "kind", "project_code", "extends", "id_length", "valid_id_ranges", "methods"] value
  return {
    name := ← required text? fields "name"
    kind := ← required interfaceKind fields "kind"
    projectCode := ← withDefault "" text? fields "project_code"
    parents := ← withDefault [] texts fields "extends"
    idLength := ← withDefault 0 (naturalBelow 256) fields "id_length"
    validIdRanges := ← withDefault [] (list idRange) fields "valid_id_ranges"
    methods := ← withDefault [] (list method) fields "methods" }

def options (value : ν) : Option Options := do
  let fields ← fields?
    ["logger_base_interfaces", "strict_argument_count", "max_concurrency", "type_roots"] value
  let usual : Options := {}
  return {
    loggerBases := ← withDefault usual.loggerBases texts fields "logger_base_interfaces"
    strictArgumentCount := ← withDefault usual.strictArgumentCount flag? fields "strict_argument_count"
    maxConcurrency := ← optional count fields "max_concurrency"
    typeRoots := ← withDefault usual.typeRoots typeRoots fields "type_roots" }

def batch (value : ν) : Option Batch := do
  let fields ← fields? ["engine", "types", "interfaces"] value
  return {
    options := ← withDefault {} options fields "engine"
    types := ← withDefault [] (list typeDeclaration) fields "types"
    interfaces := ← withDefault [] (list interface) fields "interfaces" }

end Decode

def Batch.ofYaml? (text : String) : Option Batch :=
  (Yaml.Node.parse? text).bind Decode.batch

def Batch.ofJson? (json : Json) : Option Batch :=
  Decode.batch json

end TypedMessages
