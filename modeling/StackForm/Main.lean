import StackForm.CommandLine.Run
import StackForm.Host.FileTree

/-!
# The program

Reads the command line and the environment, runs the invocation, and writes what it comes to. This
program starts no other programs, so a stack that has to look up its subnets cannot be rendered by it.
-/

namespace StackForm

/-- The file errors by the number that the system gives them. -/
def numberedErrors : List (Nat × FileError) := [
  (2, .missing), (13, .permissionDenied), (20, .notDirectory), (21, .isDirectory), (36, .nameTooLong)]

/-- The error of a system code, which may carry a minus sign. -/
def fileError? (code : UInt32) : Option FileError :=
  numberedErrors.lookup (min code.toNat (-code).toNat)

/-- The system code of a failure that concerns the path of a file. -/
def pathCode? : IO.Error → Option UInt32
  | .noFileOrDirectory _ code _ => some code
  | .permissionDenied _ code _ => some code
  | .inappropriateType _ code _ => some code
  | .invalidArgument _ code _ => some code
  | _ => none

/-- Why a file could not be read. -/
def readFailure (e : IO.Error) : String :=
  match (pathCode? e).bind fileError? with
  | some known => known.message
  | none => toString e

/-- The bytes of a file, or why it could not be read. -/
def readFile (path : String) : IO (Except String (List UInt8)) := do
  try
    let bytes ← IO.FS.readBinFile path
    return .ok bytes.data.toList
  catch e =>
    return .error (readFailure e)

/-- A host with one file, which starts no commands. -/
def fileHost (content : Except String (List UInt8)) : Host Unit where
  read _ := content
  runner := .always (.refused FileError.permissionDenied.message)

/-- The environment of the process. -/
def readEnvironment : IO Environment := do
  let values ← Environment.names.filterMapM fun name => do
    let value? ← IO.getEnv name
    return value?.map fun value => (name, value)
  return .ofValues values

/-- The path of the configuration that the words ask for. -/
def configPath (env : Environment) (words : List String) : String :=
  match Invocation.parse env words with
  | .ok inv => inv.stackConfig
  | .error _ => ""

/-- Run the program in the process. -/
def runProcess (words : List String) : IO UInt32 := do
  let env ← readEnvironment
  let content ← readFile (configPath env words)
  let (outcome, _) := (runProgram env (fileHost content) words).run ()
  (← IO.getStdout).putStr outcome.output
  match outcome.complaint with
  | some text => (← IO.getStderr).putStr text
  | none => pure ()
  return UInt32.ofNat outcome.exitCode

end StackForm

def main (words : List String) : IO UInt32 :=
  StackForm.runProcess words
