import StackForm.Yaml.Token
import StackForm.Yaml.Token.Scalar

/-!
# Directives, anchors and tags

The tokens that say something about a document or a node. A tag is a handle and a suffix; in a
suffix, bytes may be written as two hexadecimal digits after a percent sign.
-/

namespace StackForm.Yaml

/-! ### Tags -/

/-- The characters of a tag suffix; a tag between angle brackets also holds the marks of flow
sequences. -/
def isTagChar (bracketed : Bool) (c : Char) : Bool :=
  isWord c || ";/?:@&=+$.!~*\x27()".contains c || (bracketed && ",[]".contains c)

/-- The byte that an escape in a suffix stands for. -/
def tagByte? : List Char → Option UInt8
  | '%' :: a :: b :: _ => do
    let high ← Text.hexValue? a
    let low ← Text.hexValue? b
    some (UInt8.ofNat (high * 16 + low))
  | _ => none

/-- How many bytes must follow `lead` in a suffix, by its highest bits alone. -/
def owedBytes? (lead : UInt8) : Option Nat :=
  if lead < 0x80 then some 0
  else if lead < 0xc0 then none
  else if lead < 0xe0 then some 1
  else if lead < 0xf0 then some 2
  else if lead < 0xf8 then some 3
  else none

/-- Escaped bytes that go on with a character. -/
def followingBytes? : (count : Nat) → List Char → Option Tag
  | 0, _ => some []
  | count + 1, text => do
    let b ← tagByte? text
    if b < 0x80 || 0xc0 ≤ b then none
    else (followingBytes? count (text.drop 3)).map (b :: ·)

/-- The bytes of the escaped character at the front of a suffix; each takes three characters. -/
def tagEscape? (text : List Char) : Option Tag := do
  let lead ← tagByte? text
  let more ← followingBytes? (← owedBytes? lead) (text.drop 3)
  some (lead :: more)

/-- The suffix at the cursor, which may be empty. -/
def tagSuffix (bracketed : Bool) : (fuel : Nat) → Cursor → Except Fault (Tag × Cursor)
  | 0, c => .ok ([], c)
  | fuel + 1, c =>
    match c.rest with
    | [] => .ok ([], c)
    | ch :: _ =>
      if ch == '%' then
        match tagEscape? c.rest with
        | some bytes => do
          let (more, last) ← tagSuffix bracketed fuel (c.forward (3 * bytes.length))
          return (bytes ++ more, last)
        | none => .error .badTag
      else if isTagChar bracketed ch then do
        let (more, last) ← tagSuffix bracketed fuel (c.forward 1)
        return (ch.toUInt8 :: more, last)
      else .ok ([], c)

/-- A zero byte ends a tag, whatever stands after it. -/
def upToZero (tag : Tag) : Tag :=
  tag.takeWhile (· ≠ 0)

/-- The handle at the cursor: `!`, word characters, and a second `!` if there is one. -/
def tagHandle (c : Cursor) : List Char × Cursor :=
  let (word, c) := (c.forward 1).span isWord
  if c.at? '!' then ('!' :: word ++ ['!'], c.forward 1) else ('!' :: word, c)

/-- The tag at the cursor, as handle and suffix. A tag without a second `!` has the handle `!`, and
the lone `!` is a suffix without a handle. -/
def scanTag (inFlow : Bool) (c : Cursor) : Except Fault (Token × Cursor) := do
  let fuel := c.rest.length + 1
  let (handle, suffix, c) ← (do
    if c.look 1 == some '<' then
      let (suffix, c) ← tagSuffix true fuel (c.forward 2)
      if suffix.isEmpty || !c.at? '>' then throw .badTag
      return ("", upToZero suffix, c.forward 1)
    else
      let (handle, c) := tagHandle c
      let (suffix, c) ← tagSuffix false fuel c
      if 1 < handle.length && handle.getLast? == some '!' then
        if suffix.isEmpty then throw .badTag
        return (String.ofList handle, upToZero suffix, c)
      else
        let suffix := upToZero ((handle.drop 1).map Char.toUInt8 ++ suffix)
        return if suffix.isEmpty then ("", ['!'.toUInt8], c) else ("!", suffix, c)
    : Except Fault (String × Tag × Cursor))
  if isGapOrEnd c.rest.head? || (inFlow && c.at? ',') then
    return (.tag handle suffix, c)
  else throw .badTag

/-! ### Anchors and aliases -/

/-- The name of an anchor or alias, from its mark on. -/
def scanName (c : Cursor) : Except Fault (String × Cursor) :=
  let (name, c) := (c.forward 1).span isWord
  if name.isEmpty then .error .badName
  else if c.rest.head?.all fun ch => isGap ch || "?:,]\x7d%@\x60".contains ch then
    .ok (String.ofList name, c)
  else .error .badName

/-! ### Directives -/

/-- A version number has one to nine digits. -/
def scanVersion (c : Cursor) : Except Fault (Nat × Cursor) :=
  let (digits, c) := c.span Char.isDigit
  if digits.isEmpty || 9 < digits.length then .error .badDirective
  else .ok (digits.foldl (fun n d => n * 10 + (d.toNat - '0'.toNat)) 0, c)

/-- A directive, from its percent sign to the end of its line. -/
def scanDirective (c : Cursor) : Except Fault (Token × Cursor) := do
  let (name, c) := (c.forward 1).span isWord
  if name.isEmpty || !isGapOrEnd c.rest.head? then throw .badDirective
  let c := c.skipWhile isSpace
  let (token, c) ← (do
    if name == "YAML".toList then
      let (major, c) ← scanVersion c
      if !c.at? '.' then throw .badDirective
      let (minor, c) ← scanVersion (c.forward 1)
      return (.versionDirective major minor, c)
    else if name == "TAG".toList then
      if !c.at? '!' then throw .badDirective
      let (handle, c) := tagHandle c
      if 1 < handle.length && handle.getLast? != some '!' then throw .badDirective
      if !c.rest.head?.any isSpace then throw .badDirective
      let c := c.skipWhile isSpace
      let (stem, c) ← tagSuffix true (c.rest.length + 1) c
      if stem.isEmpty || !isGapOrEnd c.rest.head? then throw .badDirective
      return (.tagDirective (String.ofList handle) (upToZero stem), c)
    else throw .badDirective
    : Except Fault (Token × Cursor))
  return (token, ← c.finishLine .badDirective)

end StackForm.Yaml
