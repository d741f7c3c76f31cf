import StackForm.Json.Reader.Basic
import StackForm.Text.Basic

/-!
# Reading texts

A text is read byte by byte up to its closing quote, escapes taking the place of the characters
they stand for, and then decoded as a whole.
-/

namespace StackForm.Json.Reader

/-! ### Escapes -/

/-- The number that four hexadecimal digits stand for. -/
def hexUnit : Reader Nat := fun c =>
  match c.rest with
  | b₁ :: b₂ :: b₃ :: b₄ :: _ =>
    let values := [b₁, b₂, b₃, b₄].filterMap fun b => Text.hexValue? (Char.ofNat b.toNat)
    if values.length = 4 then .ok (values.foldl (fun n d => n * 16 + d) 0, c.steps 4)
    else failAt (c.steps 4) .invalidEscape c
  | short => failAt (c.steps short.length) .endInText c

/-- Move past the byte that must follow the first half of a surrogate pair. -/
def pairByte (b : UInt8) : Reader Unit := do
  match ← peek with
  | none => fail .endInText
  | some found =>
    advance
    if found ≠ b then fail .unpairedSurrogate

/-- The character that a numeric escape stands for, from the digits on; two escapes make one
character when they are a surrogate pair. -/
def numericEscape : Reader Char := do
  let unit ← hexUnit
  if 0xdc00 ≤ unit && unit ≤ 0xdfff then fail .loneSurrogate
  else if 0xd800 ≤ unit && unit ≤ 0xdbff then
    pairByte 0x5c
    pairByte 0x75
    let second ← hexUnit
    if 0xdc00 ≤ second && second ≤ 0xdfff then
      pure (Char.ofNat ((unit - 0xd800) * 0x400 + (second - 0xdc00) + 0x10000))
    else fail .loneSurrogate
  else pure (Char.ofNat unit)

/-- The character that a letter stands for after a backslash. -/
def letterEscape? (b : UInt8) : Option Char :=
  if b = 0x22 then some '"'
  else if b = 0x5c then some '\\'
  else if b = 0x2f then some '/'
  else if b = 0x62 then some '\x08'
  else if b = 0x66 then some '\x0c'
  else if b = 0x6e then some '\n'
  else if b = 0x72 then some '\r'
  else if b = 0x74 then some '\t'
  else none

/-- The character that an escape stands for, from after its backslash. -/
def escape : Reader Char := do
  match ← peek with
  | none => fail .endInText
  | some b =>
    advance
    if b = 0x75 then numericEscape
    else
      match letterEscape? b with
      | some c => pure c
      | none => fail .invalidEscape

/-! ### Texts -/

/-- The bytes up to the closing quote, which is consumed too; `done` holds those read so far, the
last one first. -/
def textBytes : (fuel : Nat) → (done : List UInt8) → Reader (List UInt8)
  | 0, _ => fail .endInText
  | fuel + 1, done => do
    match ← peek with
    | none => fail .endInText
    | some b =>
      advance
      if b = 0x22 then pure done.reverse
      else if b = 0x5c then
        let c ← escape
        textBytes fuel ((Utf8.encode (String.singleton c)).reverse ++ done)
      else if b < 0x20 then fail .controlCharacter
      else textBytes fuel (b :: done)

/-- The place `count` bytes before the cursor, on the same line. -/
def before (c : Cursor) (count : Nat) : Cursor :=
  { c with column := c.column - count }

/-- A text, from after its opening quote. Bytes that are no text are reported as far before the end
as there are bytes from the first broken one on, once escapes are resolved; so without escapes the
broken byte itself is reported. -/
def text : Reader String := fun c => do
  let (bytes, after) ← textBytes (c.rest.length + 1) [] c
  match Utf8.decode? bytes with
  | some s => .ok (s, after)
  | none =>
    let unsound := bytes.length - Utf8.soundLengthFrom 0 bytes
    failAt (before after unsound) .invalidCharacter after

end StackForm.Json.Reader
