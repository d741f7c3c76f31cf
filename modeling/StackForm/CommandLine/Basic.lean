import StackForm.Lookup.Config

/-!
# Command lines

A command line names an action and its options. Instead of an invocation it may ask for help or for
the version, or be wrong.
-/

namespace StackForm

/-! ### Invocations -/

/-- What the program can do with a configuration. -/
inductive Action where
  | render
  | validate
  deriving DecidableEq

namespace Action

/-- The word that asks for the action. -/
def name : Action → String
  | .render => "render"
  | .validate => "validate"

/-- The action that a word asks for. -/
def ofName? (word : String) : Option Action :=
  [render, validate].find? (·.name == word)

end Action

/-- An action on the configuration under a path, which is a text. -/
structure Invocation where
  action : Action
  stackConfig : String
  verbose : Bool
  quiet : Bool
  lookup : LookupConfig
  deriving DecidableEq

/-! ### Environments -/

/-- The environment variables that stand for options. -/
structure Environment where
  region : Option String
  profile : Option String
  lookupTimeout : Option String
  awsCommand : Option String
  deriving DecidableEq

namespace Environment

/-- The names of the variables. -/
def names : List String :=
  ["AWS_REGION", "AWS_PROFILE", "BF_LOOKUP_TIMEOUT", "BF_AWS_CLI"]

/-- The environment in which the variables have the given values. -/
def ofValues (values : List (String × String)) : Environment :=
  ⟨values.lookup "AWS_REGION", values.lookup "AWS_PROFILE",
    values.lookup "BF_LOOKUP_TIMEOUT", values.lookup "BF_AWS_CLI"⟩

/-- No variable is set. -/
def isEmpty (env : Environment) : Bool :=
  env.region.isNone && env.profile.isNone && env.lookupTimeout.isNone && env.awsCommand.isNone

end Environment

/-! ### Other outcomes -/

/-- What is wrong with a command line. -/
inductive Misuse where
  | unknownArgument
  | argumentConflict
  | unexpectedValue
  | emptyValue
  | invalidValue
  | missingArgument
  | missingAction
  | unknownAction
  | nothingGiven
  deriving DecidableEq

def Misuse.message : Misuse → String
  | .unknownArgument => "unexpected argument"
  | .argumentConflict => "an argument cannot be used here again or with another one"
  | .unexpectedValue => "a flag takes no value"
  | .emptyValue => "an option needs a value"
  | .invalidValue => "the timeout is no number of seconds"
  | .missingArgument => "a stack configuration is required"
  | .missingAction => "an action is required"
  | .unknownAction => "unrecognized action"
  | .nothingGiven => "nothing to do"

/-- Why a command line gives no invocation. -/
inductive Stop where
  | help
  | version (action : Option Action)
  | misuse (fault : Misuse)
  deriving DecidableEq

namespace Stop

def isMisuse : Stop → Bool
  | .misuse _ => true
  | _ => false

/-- The exit code of the program. -/
def exitCode (stop : Stop) : Nat :=
  if stop.isMisuse then 2 else 0

end Stop

end StackForm
