import StackForm.Json.Reader.Number
import StackForm.Json.Reader.Text

/-!
# Reading documents

A document is read by recursion on the levels that may still be opened: `value 127` reads any value
with at most 127 levels. `items` and `members` read what stands between brackets once the reader of
one value is given, and serve every kind of reading.
-/

namespace StackForm.Json

namespace Reader

variable {α : Type}

/-! ### Lists and objects -/

/-- Whether another item follows; moves to it, past the comma before every item but the first. -/
def nextItem (first : Bool) : Reader Bool := do
  match ← peekToken with
  | none => failNext .endInList
  | some b =>
    if b = 0x5d then pure false
    else if first then pure true
    else if b = 0x2c then
      advance
      match ← peekToken with
      | none => failNext .endInValue
      | some b => if b = 0x5d then failNext .trailingComma else pure true
    else failNext .expectedItemEnd

/-- Whether another member follows; moves to the quote of its name, past the comma before every
member but the first. -/
def nextMember (first : Bool) : Reader Bool := do
  match ← peekToken with
  | none => failNext .endInObject
  | some b =>
    if b = 0x7d then pure false
    else if first then
      if b = 0x22 then pure true else failNext .nameNotText
    else if b = 0x2c then
      advance
      match ← peekToken with
      | none => failNext .endInValue
      | some b =>
        if b = 0x22 then pure true
        else if b = 0x7d then failNext .trailingComma
        else failNext .nameNotText
    else failNext .expectedMemberEnd

/-- Move past the colon between a name and its value. -/
def colon : Reader Unit := do
  match ← peekToken with
  | none => failNext .endInObject
  | some b => if b = 0x3a then advance else failNext .expectedColon

/-- The items up to the closing bracket, which is not consumed. -/
def items (item : Reader α) : (fuel : Nat) → (first : Bool) → Reader (List α)
  | 0, _ => failNext .endInList
  | fuel + 1, first => do
    if ← nextItem first then
      let x ← item
      let xs ← items item fuel false
      pure (x :: xs)
    else pure []

/-- The members up to the closing brace, which is not consumed, folded into a state; a member is
read from after its name. -/
def members (member : α → String → Reader α) : (fuel : Nat) → (first : Bool) → α → Reader α
  | 0, _, _ => failNext .endInObject
  | fuel + 1, first, state => do
    if ← nextMember first then
      advance
      let name ← text
      let state ← member state name
      members member fuel false state
    else pure state

/-- Enough fuel for everything that can still be read. -/
def remaining : Reader Nat := fun c =>
  .ok (c.rest.length + 1, c)

/-! ### Values -/

/-- A value whose parts are read by `inner`; without it no level may be opened. -/
def valueOver (inner? : Option (Reader Json)) : Reader Json := do
  match ← peekToken with
  | none => failNext .endInValue
  | some b =>
    if b = 0x6e then
      advance
      word [0x75, 0x6c, 0x6c]
      pure .null
    else if b = 0x74 then
      advance
      word [0x72, 0x75, 0x65]
      pure (.bool true)
    else if b = 0x66 then
      advance
      word [0x61, 0x6c, 0x73, 0x65]
      pure (.bool false)
    else if b = 0x2d then
      advance
      return .num (← number true)
    else if isDigit b then
      return .num (← number false)
    else if b = 0x22 then
      advance
      return .str (← text)
    else if b = 0x5b then
      match inner? with
      | none => failNext .tooDeep
      | some inner =>
        advance
        let xs ← items inner (← remaining) true
        advance
        pure (.arr xs)
    else if b = 0x7b then
      match inner? with
      | none => failNext .tooDeep
      | some inner =>
        advance
        let member (done : List (String × Json)) (name : String) : Reader (List (String × Json)) := do
          colon
          let value ← inner
          pure (Keyed.insert name value done)
        let ms ← members member (← remaining) true []
        advance
        pure (.obj ms)
    else failNext .expectedValue

/-- A value with at most `levels` levels of lists and objects. -/
def value : (levels : Nat) → Reader Json
  | 0 => valueOver none
  | levels + 1 => valueOver (some (value levels))

/-- Nothing but blanks is left. -/
def finish : Reader Unit := do
  match ← peekToken with
  | none => pure ()
  | some _ => failNext .trailingText

end Reader

/-- How many levels of lists and objects a document may have. -/
def maxLevels : Nat := 127

/-- The document that a text holds. -/
def parse (bytes : List UInt8) : Except ReadError Json :=
  match (do
    let doc ← Reader.value maxLevels
    Reader.finish
    return doc : Reader Json).run (Cursor.start bytes) with
  | .ok (doc, _) => .ok doc
  | .error e => .error e

end StackForm.Json
