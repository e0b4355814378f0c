import TypedMessages.Notice.Basic
import TypedMessages.Report.Session

/-!
# The notices of a run

Which notices a session gives, in their order: how each method was resolved, what each check found, and at the end what every report says. They are derived from the same data as the reports and change nothing about them.
-/

namespace TypedMessages

/-- The notice of a fault; types that are declared twice go without one. -/
def BatchFault.notice? : BatchFault → Option Notice
  | cyclicExtension cycle => some (.cyclicExtension cycle)
  | unresolvedInterface interface missing => some (.unresolvedInterface interface missing)
  | duplicateInterface interface => some (.duplicateInterface interface)
  | duplicateType _ => none

def Batch.faultNotices (batch : Batch) : List Notice :=
  batch.faults.filterMap BatchFault.notice?

namespace MessageInterface

/-- The notice that a method takes its message over. -/
def inheritanceNotice? (interface : MessageInterface) (method : Method) : Option Notice :=
  if method.message.isSome then none
  else
    (interface.messageSource? method).map fun source =>
      .messageInherited interface.name method.name source.declaringInterface

/-- The notice that the id of a message was found at another method. -/
def idNotice? (interface : MessageInterface) (method : Method) (resolution : Resolution) : Option Notice := do
  let before ← interface.effectiveMessage? method
  let after ← resolution.descriptor.message
  if before.id = .inherited ∧ after.id ≠ .inherited then
    some (.idInherited interface.name method.name after.id)
  else none

end MessageInterface

namespace Resolution

/-- The notice of how the exception of a method is made. -/
def constructionNotice? (resolution : Resolution) : Option Notice :=
  let descriptor := resolution.descriptor
  descriptor.construction.map fun construction =>
    .constructionSelected descriptor.name descriptor.returnType.name construction.name

end Resolution

namespace ResolvedInterface

def methodNotices (resolved : ResolvedInterface) (method : Method) (resolution : Resolution) : List Notice :=
  let interface := resolved.interface
  (interface.inheritanceNotice? method).toList ++ (interface.idNotice? method resolution).toList ++
    resolution.constructionNotice?.toList ++
    resolution.failures.map (.resolutionFailed interface.name)

def notices (resolved : ResolvedInterface) : List Notice :=
  resolved.methods.flatMap fun (method, resolution) => resolved.methodNotices method resolution

end ResolvedInterface

def Check.notices (context : CheckContext) (checks : List Check) (interfaces : List ResolvedInterface) : List Notice :=
  checks.map fun check => .checkCompleted check.name (check.run context interfaces).length

namespace InterfaceReport

def notices (report : InterfaceReport) : List Notice :=
  report.diagnostics.map (fun diagnostic => .diagnosed diagnostic.severity diagnostic.subject diagnostic.text) ++
    if report.generationAllowed then [] else [.generationBlocked report.interface report.errorCount]

end InterfaceReport

namespace Session

def outcomeNotices (session : Session) (outcome : Outcome) : List Notice :=
  let interface := outcome.resolved.interface
  outcome.resolved.notices ++
    Check.notices session.context (Check.withScope .interface session.checks) [outcome.resolved] ++
    [.interfaceProcessed interface.name interface.methods.length outcome.diagnostics.length]

def finishNotices (session : Session) (outcomes : List Outcome) (nanoseconds : Nat) : List Notice :=
  let report := session.finish outcomes
  Check.notices session.context (Check.withScope .batch session.checks) (outcomes.map (·.resolved)) ++
    report.interfaces.flatMap (·.notices) ++
    [.batchCompleted report.interfaces.length report.errorCount report.warningCount nanoseconds]

/-- The notices of processing interfaces in turn up to the first one that fails, and the outcomes if none does. -/
def processNotices (session : Session) : List String → List Notice × Except EngineError (List Outcome)
  | [] => ([], .ok [])
  | name :: names =>
    match session.process name with
    | .error error => ([], .error error)
    | .ok outcome =>
      let (notices, outcomes) := session.processNotices names
      (session.outcomeNotices outcome ++ notices, outcomes.map (outcome :: ·))

def runNotices (session : Session) (nanoseconds : Nat) : List Notice × Bool :=
  let names := session.interfaceNames
  let started := Notice.batchStarted names.length 1
  match session.processNotices names with
  | (notices, .error _) => (started :: notices, false)
  | (notices, .ok outcomes) => (started :: notices ++ session.finishNotices outcomes nanoseconds, true)

end Session

end TypedMessages
