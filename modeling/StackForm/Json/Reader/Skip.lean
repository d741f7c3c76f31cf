import StackForm.Json.Reader.Document

/-!
# Moving past values

A value that nobody asks for is moved past without being read: its brackets, quotes and digits must
be in order, but its numbers may be out of range, its texts may hold halves of surrogate pairs, and
it may have any number of levels.
-/

namespace StackForm.Json.Reader

/-! ### Texts -/

/-- Move past an escape, from after its backslash. -/
def skipEscape : Reader Unit := do
  match ← peek with
  | none => fail .endInText
  | some b =>
    advance
    if b = 0x75 then
      let _ ← hexUnit
    else if (letterEscape? b).isNone then fail .invalidEscape

/-- Move past a text, from after its opening quote; a control character is reported before it. -/
def skipText : (fuel : Nat) → Reader Unit
  | 0 => fail .endInText
  | fuel + 1 => do
    match ← peek with
    | none => fail .endInText
    | some b =>
      if b = 0x22 then advance
      else if b = 0x5c then
        advance
        skipEscape
        skipText fuel
      else if b < 0x20 then fail .controlCharacter
      else
        advance
        skipText fuel

/-! ### Numbers -/

/-- Move past an exponent, from its letter on. -/
def skipExponent : Reader Unit := do
  advance
  let sign ← peek
  if sign = some 0x2b || sign = some 0x2d then advance
  let first ← peek
  advance
  if first.any isDigit then
    let _ ← digits
  else fail .invalidNumber

/-- Move past an exponent, if there is one. -/
def skipExponentOrEnd : Reader Unit := do
  let next ← peek
  if next = some 0x65 || next = some 0x45 then skipExponent

/-- Move past a fraction, from its point on, and what follows it. -/
def skipFraction : Reader Unit := do
  advance
  let ds ← digits
  if ds.isEmpty then failNext .invalidNumber else skipExponentOrEnd

/-- Move past a number, from its first digit on. -/
def skipNumber : Reader Unit := do
  let first ← peek
  advance
  match first.bind digitValue? with
  | none => fail .invalidNumber
  | some first =>
    let _ ← (if first = 0 then pure [] else digits)
    let next ← peek
    if first = 0 && next.any isDigit then failNext .invalidNumber
    else if next = some 0x2e then skipFraction
    else skipExponentOrEnd

/-! ### Lists and objects -/

/-- Move past the items of a list and its closing bracket. -/
def skipItems (item : Reader Unit) : (fuel : Nat) → (first : Bool) → Reader Unit
  | 0, _ => failNext .endInList
  | fuel + 1, first => do
    match ← peekToken with
    | none => failNext .endInList
    | some b =>
      if b = 0x5d then advance
      else if first then
        item
        skipItems item fuel false
      else if b = 0x2c then
        advance
        item
        skipItems item fuel false
      else failNext .expectedItemEnd

/-- Move past a name, its colon and its value. -/
def skipMember (value : Reader Unit) : Reader Unit := do
  match ← peekToken with
  | none => failNext .endInObject
  | some b =>
    if b = 0x22 then
      advance
      skipText (← remaining)
      colon
      value
    else failNext .nameNotText

/-- Move past the members of an object and its closing brace. -/
def skipMembers (value : Reader Unit) : (fuel : Nat) → (first : Bool) → Reader Unit
  | 0, _ => failNext .endInObject
  | fuel + 1, first => do
    match ← peekToken with
    | none => failNext .endInObject
    | some b =>
      if b = 0x7d then advance
      else if first then
        skipMember value
        skipMembers value fuel false
      else if b = 0x2c then
        advance
        skipMember value
        skipMembers value fuel false
      else failNext .expectedMemberEnd

/-! ### Values -/

/-- Move past a value of at most `levels` levels. -/
def skipLevels : (levels : Nat) → Reader Unit
  | 0 => failNext .expectedValue
  | levels + 1 => do
    match ← peekToken with
    | none => failNext .endInValue
    | some b =>
      if b = 0x6e then
        advance
        word [0x75, 0x6c, 0x6c]
      else if b = 0x74 then
        advance
        word [0x72, 0x75, 0x65]
      else if b = 0x66 then
        advance
        word [0x61, 0x6c, 0x73, 0x65]
      else if b = 0x2d then
        advance
        skipNumber
      else if isDigit b then skipNumber
      else if b = 0x22 then
        advance
        skipText (← remaining)
      else if b = 0x5b then
        advance
        skipItems (skipLevels levels) (← remaining) true
      else if b = 0x7b then
        advance
        skipMembers (skipLevels levels) (← remaining) true
      else failNext .expectedValue

/-- Move past a value; it has fewer levels than there are bytes left. -/
def skip : Reader Unit := do
  skipLevels (← remaining)

end StackForm.Json.Reader
