/-!
# Failed lookups

Why a lookup of resources gave no answer.
-/

namespace StackForm

inductive LookupError where
  | commandUnavailable (reason : String)
  | commandFailed (code : Int) (output : String)
  | timeout (seconds : Nat)
  | invalidResponse (reason : String)
  | service (reason : String)
  | system (reason : String)
  deriving DecidableEq

def LookupError.message : LookupError → String
  | .commandUnavailable reason => "Lookup command not available: " ++ reason
  | .commandFailed code output =>
    "Lookup command failed with exit code " ++ toString code ++ ": " ++ output
  | .timeout seconds => "Lookup timed out after " ++ toString seconds ++ " seconds"
  | .invalidResponse reason => "Invalid lookup response: " ++ reason
  | .service reason => "Lookup service error: " ++ reason
  | .system reason => "IO error: " ++ reason

/-- The errors underneath, the nearest one first. -/
def LookupError.causes : LookupError → List String
  | .system reason => [reason]
  | _ => []

end StackForm
