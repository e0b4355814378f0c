import TypedMessages.Json.Basic
import TypedMessages.Report.Basic

/-!
# Reports as JSON

The form in which reports are handed on. Fields keep a fixed order; those that most values do not have are left out when they are empty.
-/

namespace TypedMessages

open Json

def Parameter.toJson (parameter : Parameter) : Json :=
  .object <|
    [("name", .string parameter.name),
     ("type_name", .string parameter.typeName),
     ("is_array", .bool parameter.isArray),
     ("is_primitive", .bool parameter.isPrimitive),
     ("is_varargs", .bool parameter.isVarargs),
     ("role", .string parameter.role.name)] ++
    optionalField "target_name" .string parameter.targetName ++
    optionalField "formatter_class" .string parameter.formatterClass ++
    listField "positions" natural parameter.positions ++
    listField "transforms" (.string ·.name) parameter.transforms

def MessageId.toJson : MessageId → Json
  | absent => .string "absent"
  | unspecified => .string "unspecified"
  | inherited => .string "inherited"
  | explicit number => .object [("explicit", natural number)]

def Message.toJson (message : Message) : Json :=
  .object
    [("text", .string message.text),
     ("format", .string message.format.name),
     ("id", message.id.toJson),
     ("inherited", .bool message.inherited)]

def ConstructionSignature.toJson (signature : ConstructionSignature) : Json :=
  .object
    [("message_index", natural signature.messageIndex),
     ("cause_index", optional natural signature.causeIndex)]

namespace ThrowableType

def jsonFields (type : ThrowableType) : List (String × Json) :=
  [("name", .string type.name),
   ("constructors", strings (type.constructors.map (·.name)))] ++
    optionalField "construction_signature" ConstructionSignature.toJson type.signature ++
    [("is_checked", .bool type.isChecked)]

def toJson (type : ThrowableType) : Json :=
  .object type.jsonFields

end ThrowableType

def ReturnType.toJson : ReturnType → Json
  | void => .object [("kind", .string "void")]
  | string name => .object [("kind", .string "string"), ("name", .string name)]
  | throwable type => .object (("kind", .string "throwable") :: type.jsonFields)
  | other name => .object [("kind", .string "other"), ("name", .string name)]

def Construction.toJson (construction : Construction) : Json :=
  let details : List (String × Json) :=
    match construction with
    | message initCause => [("init_cause", .bool initCause)]
    | default initCause => [("init_cause", .bool initCause)]
    | custom arguments => [("arguments", .array (arguments.map Parameter.toJson))]
    | _ => []
  .object (("strategy", .string construction.name) :: details)

def Descriptor.toJson (descriptor : Descriptor) : Json :=
  .object <|
    [("interface", .string descriptor.interface),
     ("declaring_interface", .string descriptor.declaringInterface),
     ("name", .string descriptor.name),
     ("signature", .string descriptor.signature),
     ("message", optional Message.toJson descriptor.message),
     ("parameters", .array (descriptor.parameters.map Parameter.toJson)),
     ("format_parameter_count", natural descriptor.formatParameterCount),
     ("return_type", descriptor.returnType.toJson)] ++
    optionalField "construction" Construction.toJson descriptor.construction ++
    optionalField "log_level" (.string ·.name) descriptor.logLevel ++
    [("is_overloaded", .bool descriptor.isOverloaded),
     ("message_method_name", .string descriptor.messageMethodName),
     ("translation_key", .string descriptor.translationKey),
     ("is_valid", .bool descriptor.isValid)]

def Subject.toJson : Subject → Json
  | interface name => .object [("kind", .string "interface"), ("interface", .string name)]
  | method owner signature =>
    .object [("kind", .string "method"), ("interface", .string owner), ("method", .string signature)]
  | parameter owner signature name =>
    .object
      [("kind", .string "parameter"), ("interface", .string owner), ("method", .string signature),
       ("parameter", .string name)]

def Diagnostic.toJson (diagnostic : Diagnostic) : Json :=
  .object
    [("severity", .string diagnostic.severity.name),
     ("subject", diagnostic.subject.toJson),
     ("text", .string diagnostic.text)]

def InterfaceReport.toJson (report : InterfaceReport) : Json :=
  .object
    [("interface", .string report.interface),
     ("kind", .string report.kind.name),
     ("descriptors", .array (report.descriptors.map Descriptor.toJson)),
     ("delegated", strings report.delegated),
     ("diagnostics", .array (report.diagnostics.map Diagnostic.toJson)),
     ("generation_allowed", .bool report.generationAllowed)]

def BatchReport.toJson (report : BatchReport) : Json :=
  .object [("interfaces", .array (report.interfaces.map InterfaceReport.toJson))]

end TypedMessages
