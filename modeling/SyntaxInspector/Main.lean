import SyntaxInspector.Command.Run

/-!
# The command line program

Reads the arguments, runs the command on the files of the machine and prints the outcome.
-/

namespace SyntaxInspector

/-- Reads a file of the machine. -/
def readMachineFile (path : String) : IO (Except ReadError String) := do
  match (← (IO.FS.readFile path).toBaseIO) with
  | .ok text => return .ok text
  | .error (.noFileOrDirectory ..) => return .error .notFound
  | .error err => return .error (.other (toString err))

/-- The file names among the settings of a command. -/
def Invocation.files : Invocation → List String
  | .tree args => args.source.path.toList
  | .query args => args.queryFile.toList ++ args.source.path.toList
  | .node args => args.source.path.toList
  | .layers args => args.source.path.toList
  | .langs => []

/-- The files that a command line names, with what reading them gives. -/
def machineFiles (args : List String) : IO (List (String × Except ReadError String)) :=
  match Invocation.parse args with
  | .error _ => return []
  | .ok invocation =>
    (invocation.files.filter (· != "-")).mapM fun path => do return (path, ← readMachineFile path)

/-- Standard input, read only if a command line asks for it. -/
def machineInput (args : List String) : IO (Except ReadError String) := do
  if args.contains "-" then return .ok (← (← IO.getStdin).readToEnd) else return .ok ""

end SyntaxInspector

open SyntaxInspector in
/-- Runs the command line of the process. -/
def main (args : List String) : IO UInt32 := do
  let files ← machineFiles args
  let stdin ← machineInput args
  let read := fun path => (files.lookup path).getD (.error .notFound)
  let terminal ← (← IO.getStdout).isTty
  let outcome := runCommand Engine.none { stdin, read, terminal } args
  IO.print outcome.stdout
  IO.eprint outcome.stderr
  return outcome.exit.toUInt32
