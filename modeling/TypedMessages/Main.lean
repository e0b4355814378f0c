import TypedMessages.CommandLine.Basic

/-!
# The program

Reads the files that the command line names, and prints what comes out of them.
-/

namespace TypedMessages.CommandLine

def readFailure : IO.Error → String
  | .noFileOrDirectory _ code details => s!"{details} (os error {code})"
  | error => toString error

def readDeclarations (file : String) : IO (Except String String) := do
  try
    return .ok (← IO.FS.readFile file)
  catch error =>
    return .error (readFailure error)

def printLines (stream : IO.FS.Stream) (lines : List String) : IO Unit := do
  for line in lines do
    stream.putStrLn line
  stream.flush

def runFile (invocation : Invocation) (file : String) : IO FileOutput := do
  let started ← IO.monoNanosNow
  let output := processFile invocation file (← readDeclarations file)
  printLines (← IO.getStdout) output.stdout
  printLines (← IO.getStderr) output.stderr
  if output.completed then
    printLines (← IO.getStdout) [elapsedLine ((← IO.monoNanosNow) - started)]
  return output

def runFiles (invocation : Invocation) : List String → IO (List FileOutput)
  | [] => return []
  | file :: files => do
    let output ← runFile invocation file
    unless files.isEmpty do
      printLines (← IO.getStdout) separator
    return output :: (← runFiles invocation files)

def run (arguments : List String) : IO UInt32 := do
  let invocation := Invocation.ofArguments arguments
  if invocation.files.isEmpty then
    let program := (← IO.appPath).fileName.getD ""
    printLines (← IO.getStderr) (usage program)
    return usageExitCode.toUInt32
  else
    return (exitCode (← runFiles invocation invocation.files)).toUInt32

end TypedMessages.CommandLine

def main (arguments : List String) : IO UInt32 :=
  TypedMessages.CommandLine.run arguments
