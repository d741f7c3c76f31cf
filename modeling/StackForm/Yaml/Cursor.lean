import StackForm.Yaml.Fault
import StackForm.Text.Utf8

/-!
# Places in a YAML text

The classes of characters that structure a text, and a cursor that knows its line, its column within
the line, which is counted in characters, and its offset from the beginning, which is counted in
bytes.
-/

namespace StackForm.Yaml

/-! ### Classes of characters -/

/-- The characters a text may hold. -/
def isAllowed (c : Char) : Bool :=
  let n := c.toNat
  n == 0x09 || n == 0x0a || n == 0x0d || (0x20 ≤ n && n ≤ 0x7e) || n == 0x85 ||
    (0xa0 ≤ n && n ≤ 0xd7ff) || (0xe000 ≤ n && n ≤ 0xfffd) || 0x10000 ≤ n

/-- A line break; a carriage return before a line feed makes one break with it. -/
def isBreak (c : Char) : Bool :=
  c == '\r' || c == '\n' || c == '\x85' || c == '\u2028' || c == '\u2029'

/-- A space or a tab. -/
def isSpace (c : Char) : Bool :=
  c == ' ' || c == '\t'

/-- A space, a tab or a line break. -/
def isGap (c : Char) : Bool :=
  isSpace c || isBreak c

/-- The place holds a space, a tab or a line break, or is the end of the text. -/
def isGapOrEnd (c? : Option Char) : Bool :=
  c?.all isGap

/-- The characters of names. -/
def isWord (c : Char) : Bool :=
  c.isAlphanum || c == '_' || c == '-'

/-! ### Cursors -/

/-- The rest of a text and where it begins. -/
structure Cursor where
  rest : List Char
  offset : Nat
  line : Nat
  column : Nat

namespace Cursor

def start (text : List Char) : Cursor := ⟨text, 0, 0, 0⟩

/-- The character `ahead` places on. -/
def look (c : Cursor) (ahead : Nat) : Option Char :=
  c.rest[ahead]?

/-- The character at the cursor is `ch`. -/
def at? (c : Cursor) (ch : Char) : Bool :=
  c.rest.head? == some ch

/-- How many bytes the characters take in UTF-8. -/
def bytesOf (text : List Char) : Nat :=
  (String.ofList text).utf8ByteSize

/-- Past `count` characters of one line. -/
def forward (c : Cursor) (count : Nat) : Cursor :=
  ⟨c.rest.drop count, c.offset + bytesOf (c.rest.take count), c.line, c.column + count⟩

/-- The run of characters of a class at the cursor; the class holds no line break. -/
def span (c : Cursor) (p : Char → Bool) : List Char × Cursor :=
  let run := c.rest.takeWhile p
  (run, c.forward run.length)

/-- Past the characters of a class that holds no line break. -/
def skipWhile (c : Cursor) (p : Char → Bool) : Cursor :=
  (c.span p).2

/-- Past a line break, with the character that stands for it: a line feed, or the break itself if it
is a line or paragraph separator. -/
def readBreak (c : Cursor) : List Char × Cursor :=
  match c.rest with
  | '\r' :: '\n' :: rest => (['\n'], ⟨rest, c.offset + 2, c.line + 1, 0⟩)
  | ch :: rest =>
    if isBreak ch then
      let kept := if ch == '\u2028' || ch == '\u2029' then ch else '\n'
      ([kept], ⟨rest, c.offset + ch.utf8Size, c.line + 1, 0⟩)
    else ([], c)
  | [] => ([], c)

/-- A document marker stands at the beginning of a line. -/
def atMarker (c : Cursor) (mark : Char) : Bool :=
  c.column == 0 && c.rest.take 3 == [mark, mark, mark] && isGapOrEnd (c.look 3)

/-- Some document marker stands at the beginning of a line. -/
def atAnyMarker (c : Cursor) : Bool :=
  c.atMarker '-' || c.atMarker '.'

/-- Past the rest of a line that may hold blanks and a comment only. -/
def finishLine (c : Cursor) (fault : Fault) : Except Fault Cursor :=
  let c := c.skipWhile isSpace
  let c := if c.at? '#' then c.skipWhile (fun ch => !isBreak ch) else c
  if c.rest.head?.all isBreak then .ok c.readBreak.2 else .error fault

end Cursor

end StackForm.Yaml
