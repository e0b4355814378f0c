import TypedMessages.Check.Format
import TypedMessages.Check.Project
import TypedMessages.Check.Result

/-!
# The checks in their order

All checks, in the order in which their diagnostics are listed. Most look at one interface at a time; the last ones compare the interfaces of a batch.
-/

namespace TypedMessages

inductive Check
  | returnType
  | exceptionConstructor
  | messageAnnotation
  | parameterCount
  | messageId
  | cause
  | format
  | resolution
  | thrownTypes
  | translation
  | idRange
  | idLength
  | projectId
  deriving DecidableEq, Repr

inductive CheckScope
  | interface
  | batch
  deriving DecidableEq, Repr

def CheckScope.name : CheckScope → String
  | interface => "interface"
  | batch => "batch"

structure CheckContext where
  catalog : Catalog
  options : Options

namespace Check

def name : Check → String
  | returnType => "return_type"
  | exceptionConstructor => "exception_constructor"
  | messageAnnotation => "message_annotation"
  | parameterCount => "parameter_count"
  | messageId => "message_id"
  | cause => "cause"
  | format => "format"
  | resolution => "resolution"
  | thrownTypes => "thrown_types"
  | translation => "translation"
  | idRange => "id_range"
  | idLength => "id_length"
  | projectId => "project_id"

def pipeline : List Check :=
  [returnType, exceptionConstructor, messageAnnotation, parameterCount, messageId, cause, format, resolution,
   thrownTypes, translation, idRange, idLength, projectId]

def scope : Check → CheckScope
  | idRange | idLength | projectId => .batch
  | _ => .interface

def run (context : CheckContext) (check : Check) (interfaces : List ResolvedInterface) : List Diagnostic :=
  match check with
  | returnType => interfaces.flatMap returnTypes
  | exceptionConstructor => interfaces.flatMap exceptionConstructors
  | messageAnnotation => interfaces.flatMap messageSlots
  | parameterCount => interfaces.flatMap parameterCounts
  | messageId => interfaces.flatMap messageIds
  | cause => interfaces.flatMap causes
  | format => interfaces.flatMap (formats context.catalog context.options.strictArgumentCount)
  | resolution => interfaces.flatMap resolutions
  | thrownTypes => interfaces.flatMap checkedThrows
  | translation => interfaces.flatMap translations
  | idRange => idRanges interfaces
  | idLength => idLengths interfaces
  | projectId => projectIds interfaces

def runAll (context : CheckContext) (checks : List Check) (interfaces : List ResolvedInterface) : List Diagnostic :=
  checks.flatMap fun check => check.run context interfaces

def withScope (scope : CheckScope) (checks : List Check) : List Check :=
  checks.filter (·.scope == scope)

end Check

end TypedMessages
