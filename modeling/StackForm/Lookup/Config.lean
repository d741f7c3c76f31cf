import StackForm.Json.Form

/-!
# Configuration of lookups

Which command answers lookups, for which region and profile, and how long it may take.
-/

namespace StackForm

/-- How lookups are made; no region or profile leaves the choice to the command, and no seconds
means no limit. -/
structure LookupConfig where
  command : String
  region : Option String
  profile : Option String
  timeoutSeconds : UInt64
  deriving DecidableEq

namespace LookupConfig

def defaultCommand : String := "aws"

def defaultTimeoutSeconds : UInt64 := 30

def standard : LookupConfig := ⟨defaultCommand, none, none, defaultTimeoutSeconds⟩

/-! ### Documents -/

open Json

/-- A text, or null if there is none. -/
def optionalText : Option String → Json
  | some s => .str s
  | none => .null

def toDocument (c : LookupConfig) : Json :=
  .obj [("aws_command", .str c.command), ("profile", optionalText c.profile),
    ("region", optionalText c.region), ("timeout_seconds", .num (.int c.timeoutSeconds.toNat))]

def readSeconds (doc : Json) : Except Mismatch UInt64 :=
  (readInt 0 Number.maxUnsigned "u64" doc).map fun n => UInt64.ofNat n.toNat

/-- The member under a name, which must be there. -/
def member {α : Type} (ms : List (String × Json)) (name : String)
    (read : Json → Except Mismatch α) : Except Mismatch α :=
  match ms.lookup name with
  | some value => read value
  | none => .error (.missingField name)

/-- The field at an index, which must be there. -/
def field {α : Type} (fs : List Json) (index : Nat) (read : Json → Except Mismatch α) :
    Except Mismatch α :=
  match fs[index]? with
  | some value => read value
  | none => .error (.invalidLength index "struct LookupConfig with 4 elements")

def ofMembers (ms : List (String × Json)) : Except Mismatch LookupConfig := do
  let command ← member ms "aws_command" readText
  let profile ← memberOr ms "profile" (readOption readText) none
  let region ← memberOr ms "region" (readOption readText) none
  let seconds ← member ms "timeout_seconds" readSeconds
  return ⟨command, region, profile, seconds⟩

def ofFields (fs : List Json) : Except Mismatch LookupConfig := do
  let command ← field fs 0 readText
  let region ← field fs 1 (readOption readText)
  let profile ← field fs 2 (readOption readText)
  let seconds ← field fs 3 readSeconds
  checkFieldCount fs 4
  return ⟨command, region, profile, seconds⟩

def ofDocument : Json → Except Mismatch LookupConfig :=
  readRecord "LookupConfig" ofMembers ofFields

instance : JsonForm LookupConfig := ⟨toDocument, ofDocument⟩

end LookupConfig

end StackForm
