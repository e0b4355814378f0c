import TypedMessages.Check.Pipeline
import TypedMessages.Report.Basic

/-!
# Sessions

A session processes the interfaces of a batch one by one: each is resolved, and the checks that need nothing but the interface are run on it. When all are processed, the checks that compare interfaces are run on them together, and each of their diagnostics goes to the report of the interface that it is about.
-/

namespace TypedMessages

/-- A processed interface, with the diagnostics that concern it alone. -/
structure Outcome where
  resolved : ResolvedInterface
  diagnostics : List Diagnostic
  deriving DecidableEq, Repr

namespace Outcome

def name (outcome : Outcome) : String :=
  outcome.resolved.interface.name

/-- Appends diagnostics to the outcomes of the interfaces that they are about. If an interface has several outcomes the first one gets them; if it has none they are dropped. -/
def distribute (diagnostics : List Diagnostic) (served : List String) : List Outcome → List Outcome
  | [] => []
  | outcome :: outcomes =>
    if outcome.name ∈ served then outcome :: distribute diagnostics served outcomes
    else
      let own := diagnostics.filter (·.subject.owningInterface == outcome.name)
      { outcome with diagnostics := outcome.diagnostics ++ own } ::
        distribute diagnostics (outcome.name :: served) outcomes

def report (outcome : Outcome) : InterfaceReport :=
  { interface := outcome.name
    kind := outcome.resolved.interface.kind
    descriptors := outcome.resolved.resolutions.map (·.descriptor)
    delegated := outcome.resolved.interface.delegated
    diagnostics := outcome.diagnostics }

end Outcome

structure Session where
  model : Model
  checks : List Check

namespace Session

/-- A session with all checks in their order, for a batch whose types are visited in the given order. Nothing promises an order, so two sessions of one batch may differ in it. -/
def ofBatchAlong (order : List String) (batch : Batch) : Session :=
  { model := Model.ofBatchAlong order batch, checks := Check.pipeline }

/-- A session for a batch whose types are visited as they are declared. -/
def ofBatch (batch : Batch) : Session :=
  ofBatchAlong (TypeTable.names (builtinTypes ++ batch.types)) batch

def options (session : Session) : Options :=
  session.model.batch.options

def context (session : Session) : CheckContext :=
  { catalog := session.model.catalog, options := session.options }

/-- The interfaces to process: those that are declared and no logger bases. -/
def interfaceNames (session : Session) : List String :=
  session.model.batch.interfaceNames.filter (!session.options.isLoggerBase ·)

/-- The diagnostics of the checks that look at one interface at a time. -/
def interfaceDiagnostics (session : Session) (interfaces : List ResolvedInterface) : List Diagnostic :=
  Check.runAll session.context (Check.withScope .interface session.checks) interfaces

/-- The diagnostics of the checks that compare interfaces. -/
def batchDiagnostics (session : Session) (interfaces : List ResolvedInterface) : List Diagnostic :=
  Check.runAll session.context (Check.withScope .batch session.checks) interfaces

/-- Resolves an interface and checks it. -/
def process (session : Session) (name : String) : Except EngineError Outcome :=
  (session.model.resolve name).map fun resolved =>
    { resolved, diagnostics := session.interfaceDiagnostics [resolved] }

/-- Makes the report of a batch from the outcomes of its interfaces. -/
def finish (session : Session) (outcomes : List Outcome) : BatchReport :=
  let diagnostics := session.batchDiagnostics (outcomes.map (·.resolved))
  { interfaces := (Outcome.distribute diagnostics [] outcomes).map Outcome.report }

def processAll (session : Session) : List String → Except EngineError (List Outcome)
  | [] => .ok []
  | name :: names =>
    match session.process name with
    | .error error => .error error
    | .ok outcome => (session.processAll names).map (outcome :: ·)

/-- Processes all interfaces of the batch in the order of their declaration. -/
def run (session : Session) : Except EngineError BatchReport :=
  (session.processAll session.interfaceNames).map session.finish

end Session

end TypedMessages
