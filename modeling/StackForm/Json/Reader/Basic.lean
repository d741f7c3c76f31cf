import StackForm.Json.Mismatch
import StackForm.Text.Utf8

/-!
# Reading from bytes

A reader consumes bytes from the front of a cursor, which knows its line and the number of bytes
since the last line break. A failure carries the position it is reported at: the place of the
cursor (`fail`), or the place after the byte that was looked at and not consumed (`failNext`).
-/

namespace StackForm.Json

/-- A place in a text, and the bytes from there on. -/
structure Cursor where
  rest : List UInt8
  line : Nat
  column : Nat

namespace Cursor

/-- The beginning of a text. -/
def start (bytes : List UInt8) : Cursor := ⟨bytes, 1, 0⟩

/-- The place after one byte; a line break starts a new line. -/
def step (c : Cursor) : Cursor :=
  match c.rest with
  | [] => c
  | b :: rest => if b = 0x0a then ⟨rest, c.line + 1, 0⟩ else ⟨rest, c.line, c.column + 1⟩

/-- The place after `count` bytes. -/
def steps (c : Cursor) : (count : Nat) → Cursor
  | 0 => c
  | count + 1 => c.step.steps count

end Cursor

/-! ### Failures -/

/-- What is wrong with a text. -/
inductive Fault where
  | endInValue
  | endInList
  | endInObject
  | endInText
  | expectedValue
  | expectedWord
  | expectedColon
  | expectedItemEnd
  | expectedMemberEnd
  | invalidEscape
  | invalidNumber
  | numberOutOfRange
  | invalidCharacter
  | controlCharacter
  | nameNotText
  | loneSurrogate
  | unpairedSurrogate
  | trailingComma
  | trailingText
  | tooDeep
  | shape (mismatch : Mismatch)
  deriving DecidableEq

def Fault.message : Fault → String
  | .endInValue => "EOF while parsing a value"
  | .endInList => "EOF while parsing a list"
  | .endInObject => "EOF while parsing an object"
  | .endInText => "EOF while parsing a string"
  | .expectedValue => "expected value"
  | .expectedWord => "expected ident"
  | .expectedColon => "expected `:`"
  | .expectedItemEnd => "expected `,` or `]`"
  | .expectedMemberEnd => "expected `,` or `\x7d`"
  | .invalidEscape => "invalid escape"
  | .invalidNumber => "invalid number"
  | .numberOutOfRange => "number out of range"
  | .invalidCharacter => "invalid unicode code point"
  | .controlCharacter => "control character (\\u0000-\\u001F) found while parsing a string"
  | .nameNotText => "key must be a string"
  | .loneSurrogate => "lone leading surrogate in hex escape"
  | .unpairedSurrogate => "unexpected end of hex escape"
  | .trailingComma => "trailing comma"
  | .trailingText => "trailing characters"
  | .tooDeep => "recursion limit exceeded"
  | .shape mismatch => mismatch.message

/-- A fault and the place it is reported at. -/
structure ReadError where
  fault : Fault
  line : Nat
  column : Nat
  deriving DecidableEq

def ReadError.message (e : ReadError) : String :=
  e.fault.message ++ " at line " ++ toString e.line ++ " column " ++ toString e.column

/-! ### Readers -/

/-- Consumes bytes from a cursor and gives a result, or fails. -/
abbrev Reader (α : Type) := StateT Cursor (Except ReadError) α

namespace Reader

variable {α : Type}

/-- Fail at a place. -/
def failAt (place : Cursor) (fault : Fault) : Reader α := fun _ =>
  .error ⟨fault, place.line, place.column⟩

/-- Fail at the place of the cursor. -/
def fail (fault : Fault) : Reader α := fun c =>
  failAt c fault c

/-- Fail after the byte that stands at the cursor, if there is one. -/
def failNext (fault : Fault) : Reader α := fun c =>
  failAt c.step fault c

/-- The byte at the cursor. -/
def peek : Reader (Option UInt8) := fun c =>
  .ok (c.rest.head?, c)

/-- Move past the byte at the cursor. -/
def advance : Reader Unit := fun c =>
  .ok ((), c.step)

/-- A blank, a tab or a line break. -/
def isBlankByte (b : UInt8) : Bool :=
  b == 0x20 || b == 0x0a || b == 0x09 || b == 0x0d

/-- Move past blanks. -/
def skipBlanks : Reader Unit := fun c =>
  .ok ((), c.steps (c.rest.takeWhile isBlankByte).length)

/-- The byte at the cursor once blanks are past. -/
def peekToken : Reader (Option UInt8) := do
  skipBlanks
  peek

/-- Move past the given bytes, which the end of the text or another byte interrupts. -/
def word : List UInt8 → Reader Unit
  | [] => pure ()
  | b :: bs => do
    match ← peek with
    | none => fail .endInValue
    | some found =>
      advance
      if found = b then word bs else fail .expectedWord

end Reader

end StackForm.Json
