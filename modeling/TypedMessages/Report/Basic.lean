import TypedMessages.Diagnostic.Problem
import TypedMessages.Resolution.Basic

/-!
# Reports

What comes out of a batch: a report for each interface, with the descriptors of its methods and all diagnostics about it. Code may be generated for an interface unless one of its diagnostics is an error.
-/

namespace TypedMessages

structure InterfaceReport where
  interface : String
  kind : InterfaceKind
  descriptors : List Descriptor
  delegated : List String
  diagnostics : List Diagnostic
  deriving DecidableEq, Repr

namespace InterfaceReport

def errorCount (report : InterfaceReport) : Nat :=
  report.diagnostics.countP Diagnostic.isError

def generationAllowed (report : InterfaceReport) : Bool :=
  !report.diagnostics.any Diagnostic.isError

theorem generationAllowed_iff {report : InterfaceReport} :
    report.generationAllowed = true ↔ ∀ diagnostic ∈ report.diagnostics, diagnostic.isError = false := by
  simp [generationAllowed]

end InterfaceReport

structure BatchReport where
  interfaces : List InterfaceReport
  deriving DecidableEq, Repr

namespace BatchReport

def diagnostics (report : BatchReport) : List Diagnostic :=
  report.interfaces.flatMap (·.diagnostics)

def errorCount (report : BatchReport) : Nat :=
  report.diagnostics.countP Diagnostic.isError

def warningCount (report : BatchReport) : Nat :=
  report.diagnostics.countP (!·.isError)

def hasErrors (report : BatchReport) : Bool :=
  report.diagnostics.any Diagnostic.isError

def report? (report : BatchReport) (interface : String) : Option InterfaceReport :=
  report.interfaces.find? (·.interface == interface)

end BatchReport

end TypedMessages
