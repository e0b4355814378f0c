import TypedMessages.Diagnostic.Problem
import TypedMessages.Extension.Fault
import TypedMessages.Json.Basic
import TypedMessages.Text.Elapsed

/-!
# Notices

What a run tells about its progress. A notice is logged as an event, with a level, a message and fields that give its data, or opened as a span that covers a piece of work.
-/

namespace TypedMessages

inductive NoticeLevel
  | error
  | warn
  | info
  | debug
  | trace
  deriving DecidableEq, Repr

namespace NoticeLevel

def name : NoticeLevel → String
  | error => "ERROR"
  | warn => "WARN"
  | info => "INFO"
  | debug => "DEBUG"
  | trace => "TRACE"

def all : List NoticeLevel :=
  [error, warn, info, debug, trace]

end NoticeLevel

inductive Notice
  | batchStarted (interfaces concurrency : Nat)
  | batchCompleted (interfaces errors warnings nanoseconds : Nat)
  | interfaceProcessed (interface : String) (methods diagnostics : Nat)
  | generationBlocked (interface : String) (errors : Nat)
  | messageInherited (interface method source : String)
  | idInherited (interface method : String) (id : MessageId)
  | constructionSelected (method returnType construction : String)
  | resolutionFailed (interface : String) (failure : ResolutionFailure)
  | cyclicExtension (cycle : List String)
  | unresolvedInterface (interface missing : String)
  | duplicateInterface (interface : String)
  | batchRejected (faults : Nat)
  | diagnosed (severity : Severity) (subject : Subject) (text : String)
  | checkCompleted (check : String) (diagnostics : Nat)
  deriving DecidableEq, Repr

abbrev NoticeFields := List (String × Json)

structure Event where
  level : NoticeLevel
  message : String
  fields : NoticeFields

structure Span where
  name : String
  level : NoticeLevel
  fields : NoticeFields

namespace Notice

def text : Notice → String
  | batchStarted interfaces concurrency =>
    s!"Processing {interfaces} message interface(s), max_concurrency={concurrency}"
  | batchCompleted interfaces errors warnings nanoseconds =>
    let elapsed := elapsedText nanoseconds
    s!"Processed {interfaces} message interface(s) in {elapsed}: {errors} error(s), {warnings} warning(s)"
  | interfaceProcessed interface methods diagnostics =>
    s!"Interface '{interface}' processed: {methods} method(s), {diagnostics} diagnostic(s)"
  | generationBlocked interface errors => s!"Generation blocked for '{interface}': {errors} error(s)"
  | messageInherited interface method source =>
    s!"Method '{method}' of '{interface}' inherits its message from '{source}'"
  | idInherited interface method id => s!"Method '{method}' of '{interface}' inherits message id {id.text}"
  | constructionSelected method returnType construction =>
    s!"Method '{method}' constructs {returnType} using the {construction} strategy"
  | resolutionFailed interface failure => s!"Resolution failed in '{interface}': {failure.message}"
  | cyclicExtension cycle => (BatchFault.cyclicExtension cycle).message
  | unresolvedInterface interface missing => (BatchFault.unresolvedInterface interface missing).message
  | duplicateInterface interface => (BatchFault.duplicateInterface interface).message
  | batchRejected faults => s!"Declaration graph rejected with {faults} error(s)"
  | diagnosed severity subject text => s!"{severity.label} {subject.text}: {text}"
  | checkCompleted check diagnostics => s!"Validator '{check}' reported {diagnostics} diagnostic(s)"

def level : Notice → NoticeLevel
  | cyclicExtension _ | unresolvedInterface _ _ | duplicateInterface _ | batchRejected _ => .error
  | diagnosed .error _ _ => .error
  | diagnosed .warning _ _ | generationBlocked _ _ => .warn
  | batchStarted _ _ | batchCompleted _ _ _ _ => .info
  | interfaceProcessed _ _ _ | messageInherited _ _ _ | idInherited _ _ _ | resolutionFailed _ _ => .debug
  | constructionSelected _ _ _ | checkCompleted _ _ => .trace

def fields : Notice → NoticeFields
  | batchStarted interfaces concurrency =>
    [("interface_count", .natural interfaces), ("max_concurrency", .natural concurrency)]
  | batchCompleted interfaces errors warnings nanoseconds =>
    [("interface_count", .natural interfaces), ("error_count", .natural errors),
     ("warning_count", .natural warnings), ("duration_ms", .natural (nanoseconds / millisecond))]
  | interfaceProcessed interface methods diagnostics =>
    [("interface", .string interface), ("method_count", .natural methods), ("diagnostic_count", .natural diagnostics)]
  | generationBlocked interface errors => [("interface", .string interface), ("error_count", .natural errors)]
  | messageInherited interface method source =>
    [("interface", .string interface), ("method", .string method), ("source", .string source)]
  | idInherited interface method id =>
    [("interface", .string interface), ("method", .string method), ("id", .string id.text)]
  | constructionSelected method returnType construction =>
    [("method", .string method), ("return_type", .string returnType), ("strategy", .string construction)]
  | resolutionFailed interface failure => [("interface", .string interface), ("method", .string failure.method)]
  | cyclicExtension cycle =>
    [("cycle", .string (" -> ".intercalate cycle)), ("cycle_length", .natural cycle.length)]
  | unresolvedInterface interface missing =>
    [("interface", .string interface), ("missing_interface", .string missing)]
  | duplicateInterface interface => [("interface", .string interface)]
  | batchRejected faults => [("error_count", .natural faults)]
  | diagnosed _ subject _ =>
    [("interface", .string subject.owningInterface), ("subject", .string subject.text)]
  | checkCompleted check diagnostics =>
    [("validator", .string check), ("diagnostic_count", .natural diagnostics)]

/-- The event that logs the notice. A diagnostic is logged by its text alone, since the fields name its subject. -/
def event (notice : Notice) : Event :=
  let message :=
    match notice with
    | diagnosed _ _ text => text
    | _ => notice.text
  { level := notice.level, message, fields := notice.fields }

/-- The name of the span of a notice, unless the span is named by its opener alone. -/
def spanName? : Notice → Option String
  | batchStarted _ _ => some "batch"
  | batchCompleted _ _ _ _ => some "batch_completed"
  | interfaceProcessed _ _ _ => some "interface"
  | generationBlocked _ _ => some "generation_blocked"
  | messageInherited _ _ _ => some "message_inherited"
  | idInherited _ _ _ => some "id_inherited"
  | constructionSelected _ _ _ => some "construction_strategy"
  | resolutionFailed _ _ => some "resolution_failed"
  | diagnosed _ _ _ => some "diagnostic"
  | checkCompleted _ _ => some "validator"
  | cyclicExtension _ | unresolvedInterface _ _ | duplicateInterface _ | batchRejected _ => none

/-- The fields of the span of a notice, which leave out some of those of the event. -/
def spanFields : Notice → NoticeFields
  | batchCompleted interfaces errors warnings nanoseconds =>
    [("interface_count", .natural interfaces), ("error_count", .natural errors),
     ("warning_count", .natural warnings), ("duration", .string (elapsedText nanoseconds))]
  | interfaceProcessed interface methods _ =>
    [("interface", .string interface), ("method_count", .natural methods)]
  | messageInherited interface method _ => [("interface", .string interface), ("method", .string method)]
  | constructionSelected method _ construction =>
    [("method", .string method), ("strategy", .string construction)]
  | diagnosed severity subject _ =>
    [("interface", .string subject.owningInterface), ("severity", .string severity.label)]
  | checkCompleted check _ => [("validator", .string check)]
  | notice => notice.fields

def spanLevel : Notice → NoticeLevel
  | diagnosed _ _ _ => .info
  | notice => notice.level

/-- The span of a notice, with the name that its opener gives as a field. -/
def span (opener : String) (notice : Notice) : Span :=
  let (name, field) :=
    match notice.spanName? with
    | some name => (name, "span_name")
    | none => ("span_name", "name")
  { name, level := notice.spanLevel, fields := (field, .string opener) :: notice.spanFields }

end Notice

end TypedMessages
