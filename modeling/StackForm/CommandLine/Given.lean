import StackForm.CommandLine.Basic

/-!
# Options

Every option is a flag or a setting. The options of one side of the action are held in a `Given`:
each may be given once on each side, and the value of a setting is checked when it is put there.
-/

namespace StackForm

inductive Flag where
  | verbose
  | quiet
  deriving DecidableEq

inductive Setting where
  | region
  | profile
  | lookupTimeout
  | awsCommand
  | stackConfig
  deriving DecidableEq

/-- What an option stands for. -/
inductive Meaning where
  | flag (f : Flag)
  | setting (s : Setting)
  | help
  | version
  deriving DecidableEq

namespace Meaning

/-- The options that may stand on both sides of the action, by name. -/
def shared : List (String × Meaning) := [
  ("verbose", .flag .verbose),
  ("quiet", .flag .quiet),
  ("region", .setting .region),
  ("profile", .setting .profile),
  ("lookup-timeout", .setting .lookupTimeout),
  ("aws-cli", .setting .awsCommand),
  ("help", .help),
  ("version", .version)]

/-- The option of a name, after an action or before any. -/
def ofName? (action : Option Action) (name : String) : Option Meaning :=
  if action.isSome && name = "stack-config" then some (.setting .stackConfig)
  else shared.lookup name

/-- The option of a letter, after an action or before any. -/
def ofLetter? (action : Option Action) (letter : Char) : Option Meaning :=
  match letter with
  | 'v' => some (.flag .verbose)
  | 'q' => some (.flag .quiet)
  | 'h' => some .help
  | 'V' => some .version
  | 's' => if action.isSome then some (.setting .stackConfig) else none
  | _ => none

end Meaning

/-! ### Seconds -/

/-- The digits as a number. -/
def decimal? (digits : List Char) : Option Nat :=
  if digits.isEmpty || !digits.all Char.isDigit then none
  else some (digits.foldl (fun n d => n * 10 + (d.toNat - '0'.toNat)) 0)

/-- A number of seconds below `2 ^ 64`, in digits, a plus sign allowed before them. -/
def seconds? (text : String) : Option UInt64 :=
  let digits := match text.toList with
    | '+' :: rest => rest
    | cs => cs
  match decimal? digits with
  | some n => if n < UInt64.size then some (UInt64.ofNat n) else none
  | none => none

/-! ### Given options -/

/-- The options given on one side of the action. -/
structure Given where
  verbose : Bool
  quiet : Bool
  region : Option String
  profile : Option String
  timeoutSeconds : Option UInt64
  awsCommand : Option String
  stackConfig : Option String
  deriving DecidableEq

namespace Given

/-- No option. -/
def empty : Given := ⟨false, false, none, none, none, none, none⟩

def isEmpty (given : Given) : Bool :=
  given == empty

def hasFlag (given : Given) : Flag → Bool
  | .verbose => given.verbose
  | .quiet => given.quiet

/-- Give a flag, which may not be there yet. -/
def addFlag (given : Given) (f : Flag) : Except Misuse Given :=
  if given.hasFlag f then .error .argumentConflict
  else
    match f with
    | .verbose => .ok { given with verbose := true }
    | .quiet => .ok { given with quiet := true }

def hasSetting (given : Given) : Setting → Bool
  | .region => given.region.isSome
  | .profile => given.profile.isSome
  | .lookupTimeout => given.timeoutSeconds.isSome
  | .awsCommand => given.awsCommand.isSome
  | .stackConfig => given.stackConfig.isSome

/-- The options with a setting replaced, if its value is allowed: a path is not empty, and a timeout
is a number of seconds. -/
def assign (given : Given) (value : String) : Setting → Except Misuse Given
  | .region => .ok { given with region := some value }
  | .profile => .ok { given with profile := some value }
  | .lookupTimeout =>
    match seconds? value with
    | some n => .ok { given with timeoutSeconds := some n }
    | none => .error .invalidValue
  | .awsCommand => .ok { given with awsCommand := some value }
  | .stackConfig =>
    if value.isEmpty then .error .emptyValue else .ok { given with stackConfig := some value }

/-- Give a setting, which may not be there yet. -/
def addSetting (given : Given) (s : Setting) (value : String) : Except Misuse Given :=
  if given.hasSetting s then .error .argumentConflict else given.assign value s

end Given

end StackForm
