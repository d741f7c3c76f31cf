import StackForm.CommandLine.Words
import StackForm.Lookup.Command
import StackForm.Stack.Load

/-!
# Running invocations

An invocation loads its stack and then does its action. What it comes to is an exit code, a text for
the output, and a complaint if it failed.
-/

namespace StackForm

/-- What a program needs from the machine that it runs on: the contents of files, or the reasons why
they cannot be read, and a way to run commands. Words and paths are texts, so what is no text in the
encoding of the machine can neither be given nor named. -/
structure Host (σ : Type) where
  read : (path : String) → Except String (List UInt8)
  runner : CommandRunner σ

/-- What running the program comes to. -/
structure Outcome where
  exitCode : Nat
  output : String
  complaint : Option String
  deriving DecidableEq

namespace Outcome

def success (output : String) : Outcome := ⟨0, output, none⟩

/-- A failure complains of its error and of everything underneath. -/
def failure (e : StackError) : Outcome :=
  ⟨e.exitCode, "", some ("Error: " ++ ": ".intercalate (e.message :: e.causes) ++ "\n")⟩

/-- The outcome of a computation that gives an output. -/
def ofResult : Except StackError String → Outcome
  | .ok output => success output
  | .error e => failure e

end Outcome

namespace Invocation

variable {σ : Type}

/-- How the lookups for a stack are made: in its own region, if no other one is given. -/
def lookupFor (inv : Invocation) (stack : Stack) : LookupConfig :=
  { inv.lookup with region := inv.lookup.region <|> stack.region? }

/-- Say that a stack is valid. -/
def validated (inv : Invocation) (stack : Stack) : String :=
  "✓ " ++ stack.kind ++ " stack in " ++ inv.stackConfig ++ " is valid\n"

/-- Prepare and render a stack. -/
def rendered (inv : Invocation) (host : Host σ) (stack : Stack) :
    ExceptT StackError (StateM σ) String := do
  let ctx ← stack.prepare ((inv.lookupFor stack).service host.runner) .empty
  let text ← ExceptT.mk (pure (stack.render ctx))
  return text ++ "\n"

/-- What the action gives. -/
def result (inv : Invocation) (host : Host σ) : ExceptT StackError (StateM σ) String := do
  let stack ← ExceptT.mk (pure (StackKinds.builtin.loadFile inv.stackConfig (host.read inv.stackConfig)))
  match inv.action with
  | .validate => return inv.validated stack
  | .render => inv.rendered host stack

/-- Run an invocation. -/
def run (inv : Invocation) (host : Host σ) : StateM σ Outcome := do
  let result ← (inv.result host).run
  return .ofResult result

end Invocation

/-! ### The program -/

namespace Stop

def programName : String := "bf"

def programVersion : String := "0.1.0"

/-- The version, of the program or of one of its actions. -/
def versionText (action : Option Action) : String :=
  let name := match action with
    | some a => programName ++ "-" ++ a.name
    | none => programName
  name ++ " " ++ programVersion ++ "\n"

def helpText : String :=
  "Usage: bf [OPTIONS] <render|validate> --stack-config <STACK_CONFIG>\n"

/-- What a command line comes to that gives no invocation. -/
def outcome : Stop → Outcome
  | .help => .success helpText
  | .version action => .success (versionText action)
  | .misuse fault =>
    ⟨(misuse fault).exitCode, "", some ("error: " ++ fault.message ++ "\n\n" ++ helpText)⟩

end Stop

/-- Run the program with the words of its command line. -/
def runProgram {σ : Type} (env : Environment) (host : Host σ) (words : List String) :
    StateM σ Outcome :=
  match Invocation.parse env words with
  | .ok inv => inv.run host
  | .error stop => pure stop.outcome

end StackForm
