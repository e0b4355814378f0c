import TypedMessages.Declaration.Load
import TypedMessages.Report.Json
import TypedMessages.Report.Steady
import TypedMessages.Text.Elapsed

/-!
# The command line

The command processes files of declarations one after the other and prints a summary of each, and on request the descriptors of all methods. It succeeds if every file could be loaded and none has errors.
-/

namespace TypedMessages.CommandLine

structure Invocation where
  /-- Whether the descriptors are printed. -/
  descriptors : Bool
  files : List String
  deriving DecidableEq, Repr

def descriptorsFlag : String := "--descriptors"

/-- The flag may stand anywhere; all other arguments are files. -/
def Invocation.ofArguments (arguments : List String) : Invocation :=
  { descriptors := arguments.contains descriptorsFlag
    files := arguments.filter (· != descriptorsFlag) }

def usage (program : String) : List String :=
  [s!"Usage: {program} [{descriptorsFlag}] <declarations.yaml> [more.yaml ...]",
   s!"Example: {program} configs/train-logging.yaml",
   s!"Example: {program} {descriptorsFlag} configs/train-logging.yaml configs/overloads.yaml"]

def usageExitCode : Nat := 2

/-- What is printed for a file. A failed one makes the whole command fail. -/
structure FileOutput where
  stdout : List String
  stderr : List String
  /-- Whether there is a report; the time that it took is printed below it. -/
  completed : Bool
  failed : Bool
  deriving DecidableEq, Repr

/-- How many interfaces are processed at the same time if a batch does not say. -/
def usualConcurrency : Nat := 4

def summaryLine (report : InterfaceReport) : String :=
  let mark := if report.generationAllowed then "✅" else "❌"
  let methods := report.descriptors.length
  let delegated := report.delegated.length
  s!"  {mark} {report.interface} ({report.kind.name}, {methods} method(s), {delegated} delegated)"

def summaryLines (report : BatchReport) : List String :=
  report.interfaces.flatMap fun interface =>
    summaryLine interface :: interface.diagnostics.map fun diagnostic => "     • " ++ diagnostic.display

def resultLines (invocation : Invocation) (report : BatchReport) : List String :=
  ["", "📊 Results:"] ++ summaryLines report ++
    ["", s!"🔢 {report.errorCount} error(s), {report.warningCount} warning(s)"] ++
    (if invocation.descriptors then [report.toJson.pretty] else [])

def processBatch (invocation : Invocation) (file : String) (batch : Batch) : FileOutput :=
  let concurrency := batch.options.maxConcurrency.getD usualConcurrency
  let heading := [s!"📋 Declarations: {file}", s!"⚙️  Max Concurrency: {concurrency}"]
  match (Session.ofBatch batch).runConcurrently concurrency with
  | .error error =>
    let failure := s!"❌ Failed to process {file}: {error.message}"
    { stdout := heading, stderr := [failure], completed := false, failed := true }
  | .ok report =>
    { stdout := heading ++ resultLines invocation report, stderr := [], completed := true, failed := report.hasErrors }

def processFile (invocation : Invocation) (file : String) (content : Except String String) : FileOutput :=
  match Batch.load file content with
  | .error error =>
    let failure := s!"❌ Failed to load {file}: {error.messageWithCause}"
    { stdout := [], stderr := [failure], completed := false, failed := true }
  | .ok batch => processBatch invocation file batch

def elapsedLine (nanoseconds : Nat) : String :=
  "⏱️  Total Time: " ++ elapsedText nanoseconds

def separator : List String :=
  ["", String.ofList (List.replicate 80 '─')]

def processFiles (invocation : Invocation) (contents : List (String × Except String String)) : List FileOutput :=
  contents.zipIdx.map fun ((file, content), index) =>
    let output := processFile invocation file content
    if index = 0 then output else { output with stdout := separator ++ output.stdout }

def exitCode (outputs : List FileOutput) : Nat :=
  if outputs.any (·.failed) then 1 else 0

end TypedMessages.CommandLine
