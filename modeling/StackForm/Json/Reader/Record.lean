import StackForm.Json.Reader.Skip

/-!
# Reading typed values

A value of a known shape is read straight from the bytes, so that a value of another shape is
reported at its place. A record with one field is read from an object, whose other members are moved
past, or from a list with one item.
-/

namespace StackForm.Json.Reader

variable {α : Type}

/-! ### Plain values and lists -/

/-- Fail at the value at the cursor, which has not the expected shape. A plain value is read first:
its own faults are reported before its shape. -/
def wrongShape (expected : String) : Reader α := do
  let next ← peekToken
  if next = some 0x5b then fail (.shape (.invalidType .list expected))
  else if next = some 0x7b then fail (.shape (.invalidType .object expected))
  else
    let plain ← valueOver none
    fail (.shape (.invalidType plain.found expected))

/-- A text. -/
def textValue : Reader String := do
  let next ← peekToken
  if next = some 0x22 then
    advance
    text
  else wrongShape "a string"

/-- A list of values that `item` reads. -/
def listValue (item : Reader α) : Reader (List α) := do
  let next ← peekToken
  if next = some 0x5b then
    advance
    let xs ← items item (← remaining) true
    advance
    pure xs
  else wrongShape "a sequence"

/-! ### Records with one field -/

/-- A record with one field. -/
structure OneField (α : Type) where
  /-- The name of the record, as messages give it. -/
  name : String
  /-- The name of its field. -/
  field : String
  /-- Reads the field. -/
  read : Reader α
  /-- What stands for a missing field; without it the field must be there. -/
  default : Option α

namespace OneField

variable (record : OneField α)

/-- Move past the closing bracket, before which no further item may stand. -/
def closeList : Reader Unit := do
  match ← peekToken with
  | none => failNext .endInList
  | some b =>
    if b = 0x5d then advance
    else if b = 0x2c then
      advance
      let next ← peekToken
      failNext (if next = some 0x5d then .trailingComma else .trailingText)
    else failNext .trailingText

/-- What stands for the missing field, or a failure after the bracket that closes the record. -/
def absent (mismatch : Mismatch) : Reader α := do
  advance
  match record.default with
  | some x => pure x
  | none => fail (.shape mismatch)

/-- The record from a list, from after its opening bracket. -/
def ofItems : Reader α := do
  if ← nextItem true then
    let x ← record.read
    closeList
    pure x
  else record.absent (.invalidLength 0 ("struct " ++ record.name ++ " with 1 element"))

/-- One member, from after its name; the field may stand only once. -/
def member (found : Option α) (name : String) : Reader (Option α) := do
  if name = record.field then
    if found.isSome then
      let next ← peekToken
      if next = some 0x7d then advance
      fail (.shape (.duplicateField name))
    else
      colon
      let x ← record.read
      pure (some x)
  else
    colon
    skip
    pure found

/-- The record from an object, from after its opening brace. -/
def ofMembers : Reader α := do
  let found ← members record.member (← remaining) true none
  match found with
  | some x =>
    advance
    pure x
  | none => record.absent (.missingField record.field)

/-- The record at the cursor. -/
def reader : Reader α := do
  let next ← peekToken
  if next = some 0x5b then
    advance
    record.ofItems
  else if next = some 0x7b then
    advance
    record.ofMembers
  else wrongShape ("struct " ++ record.name)

end OneField

end StackForm.Json.Reader
