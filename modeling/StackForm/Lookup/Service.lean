import StackForm.KeyMap
import StackForm.Lookup.Error
import StackForm.Text.Quoted

/-!
# Lookup services

A lookup service finds the identifiers of the resources that carry a tag within a scope. It may
keep a state. The canned service answers from a table and remembers every question.
-/

namespace StackForm

/-- Finds identifiers by tag and scope, on a state. -/
structure LookupService (σ : Type) where
  find : (tag scope : String) → StateM σ (Except LookupError (List String))

/-! ### Canned answers -/

/-- Answers by tag, a reason to fail if there is one, and the questions asked so far. -/
structure CannedLookup where
  answers : KeyMap (List String)
  failure : Option String
  calls : List (String × String)

namespace CannedLookup

/-- No answers, no failure, no questions. -/
def empty : CannedLookup := ⟨.empty, none, []⟩

/-- Set the answer for a tag. -/
def withIds (canned : CannedLookup) (tag : String) (ids : List String) : CannedLookup :=
  { canned with answers := canned.answers.insert tag ids }

/-- Make every question fail. -/
def failing (canned : CannedLookup) (reason : String) : CannedLookup :=
  { canned with failure := some reason }

/-- Forget the questions. -/
def clearCalls (canned : CannedLookup) : CannedLookup :=
  { canned with calls := [] }

/-- What a question is answered with; a tag without an answer has no identifiers. -/
def answer (canned : CannedLookup) (tag : String) : Except LookupError (List String) :=
  match canned.failure with
  | some reason => .error (.service reason)
  | none => .ok ((canned.answers.get? tag).getD [])

/-- The question is remembered, whatever the answer. -/
def service : LookupService CannedLookup where
  find tag scope := fun canned =>
    (canned.answer tag, { canned with calls := canned.calls ++ [(tag, scope)] })

/-- A one-line summary of the service. -/
def summary (canned : CannedLookup) : String :=
  "MockLookup \x7b tags: " ++ Text.quotedList canned.answers.keys ++ ", calls: " ++
    toString canned.calls.length ++ " \x7d"

end CannedLookup

end StackForm
