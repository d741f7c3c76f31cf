import StackForm.Json.Reader.Record
import StackForm.KeyMap
import StackForm.Lookup.Error

/-!
# Answers of the listing command

The command answers with a document that lists the subnets under `Subnets`, each with its identifier
under `SubnetId`. The identifiers are given in ascending order without repetitions, so that equal
sets of subnets give equal answers.
-/

namespace StackForm

namespace SubnetAnswer

open Json

/-- A listed subnet: its identifier. -/
def subnet : Reader.OneField String := ⟨"SubnetDescription", "SubnetId", Reader.textValue, none⟩

/-- The whole answer: the identifiers as they are listed; an answer without a list lists none. -/
def listing : Reader.OneField (List String) :=
  ⟨"DescribeSubnetsOutput", "Subnets", Reader.listValue subnet.reader, some []⟩

/-- The identifiers as an answer lists them. -/
def read (bytes : List UInt8) : Except ReadError (List String) :=
  match (do
    let ids ← listing.reader
    Reader.finish
    return ids : Reader (List String)).run (Cursor.start bytes) with
  | .ok (ids, _) => .ok ids
  | .error e => .error e

/-- The texts in ascending order, each of them once. -/
def canonical (ids : List String) : List String :=
  (KeyMap.ofList (ids.map fun id => (id, ()))).keys

/-- The identifiers that an answer gives. -/
def identifiers (answer : String) : Except LookupError (List String) :=
  match read (Utf8.encode answer) with
  | .ok ids => .ok (canonical ids)
  | .error e => .error (.invalidResponse e.message)

end SubnetAnswer

end StackForm
