import StackForm.Json.Reader.Basic
import StackForm.Lookup.Error
import StackForm.Rule.Set
import StackForm.Yaml.Fault

/-!
# What can go wrong with a stack

One constructor for each kind of failure between reading a configuration and rendering its
template, with the exit code that the command line reports for it.
-/

namespace StackForm

/-- Why a configuration is malformed; variants of stacks other than clusters have reasons of their
own. -/
inductive Malformed where
  | json (error : Json.ReadError)
  | yaml (fault : Yaml.Fault)
  | notMapping
  | bothSpellings (place current legacy : String)
  | foreign (reason : String)
  deriving DecidableEq

def Malformed.message : Malformed → String
  | .json error => error.message
  | .yaml fault => fault.message
  | .notMapping => "expected a mapping at the top level"
  | .bothSpellings place current legacy => place ++ " sets both " ++ current ++ " and " ++ legacy
  | .foreign reason => reason

inductive StackError where
  | sourceUnavailable (path reason : String)
  | malformed (cause : Malformed)
  | missingKind
  | unknownKind (kind : String) (registered : List String)
  | schemaMismatch (path expected : String)
  | validation (path rule detail : String)
  | lookupFailure (tag scope : String) (cause : Option LookupError)
  | render (reason : String)
  deriving DecidableEq

namespace StackError

/-- Why a lookup gave no subnets: the service failed, or it found none. -/
def lookupDetail : Option LookupError → String
  | some error => error.message
  | none => "no matching subnets"

/-- The kinds that are known, on one line. -/
def kindList (kinds : List String) : String :=
  ", ".intercalate kinds

def message : StackError → String
  | .sourceUnavailable path reason =>
    "Configuration source unavailable: " ++ path ++ ": " ++ reason
  | .malformed cause => "Malformed configuration: " ++ cause.message
  | .missingKind => "Stack kind is required"
  | .unknownKind kind registered =>
    "Unknown stack kind '" ++ kind ++ "' (registered: " ++ kindList registered ++ ")"
  | .schemaMismatch path expected => "Schema mismatch at " ++ path ++ ": expected " ++ expected
  | .validation path _ detail => "Validation failed at " ++ path ++ ": " ++ detail
  | .lookupFailure tag scope cause =>
    "Subnet lookup failed for tag '" ++ tag ++ "' in " ++ scope ++ ": " ++ lookupDetail cause
  | .render reason => "Render failed: " ++ reason

/-- The exit code of a command that fails with this error. -/
def exitCode : StackError → Nat
  | .sourceUnavailable .. => 3
  | .malformed _ => 4
  | .missingKind => 5
  | .unknownKind .. => 6
  | .schemaMismatch .. => 7
  | .validation .. => 8
  | .lookupFailure .. => 9
  | .render _ => 10

/-- The errors underneath, the nearest one first. -/
def causes : StackError → List String
  | .sourceUnavailable _ reason => [reason]
  | .lookupFailure _ _ (some cause) => cause.message :: cause.causes
  | _ => []

/-- The error right underneath, if there is one. -/
def source? (e : StackError) : Option String :=
  e.causes.head?

/-- The error for a failed check. -/
def ofRule : RuleError → StackError
  | .violation path rule =>
    .validation path rule
      (if rule = "required" then "value is required" else "failed rule '" ++ rule ++ "'")
  | .shapeMismatch path expected => .schemaMismatch path expected
  | .unknownRule rule => .validation "" rule ("unknown validation rule '" ++ rule ++ "'")

end StackError

end StackForm
