import StackForm.Json.Writer
import StackForm.Lookup.Config

/-!
# The query for subnets

The arguments that ask a command for the subnets with a tag in a network. The tag and the network
stand in one argument as a document, so that no character of theirs can end it.
-/

namespace StackForm

/-- A condition on what is listed. -/
def Json.filter (name value : String) : Json :=
  .obj [("Name", .str name), ("Values", .strings [value])]

/-- The conditions on the subnets: the tag, and the network they belong to. -/
def subnetFilters (tag scope : String) : Json :=
  .arr [.filter "tag-key" tag, .filter "vpc-id" scope]

namespace LookupConfig

/-- An option and its value, if there is one. -/
def optionArguments (name : String) : Option String → List String
  | some value => [name, value]
  | none => []

/-- The arguments of the command that lists the subnets. -/
def arguments (c : LookupConfig) (tag scope : String) : List String :=
  ["ec2", "describe-subnets", "--output", "json", "--filters", (subnetFilters tag scope).compact] ++
    optionArguments "--region" c.region ++ optionArguments "--profile" c.profile

end LookupConfig

end StackForm
