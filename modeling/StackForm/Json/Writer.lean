import StackForm.Json.Basic
import StackForm.Text.Basic

/-!
# Writing documents

One writer serves both layouts: the compact one without any blank, and the indented one with every
item and member on a line of its own. Members are written in the order in which they are held.
-/

namespace StackForm.Json

/-- How a document is spread over lines. -/
inductive Spacing where
  | compact
  | indented
  deriving DecidableEq

/-! ### Texts -/

/-- How one character stands in a text: the quote, the backslash and the control characters are
escaped, the common ones by a letter and the others by their number. -/
def escapedChar (c : Char) : List Char :=
  if c = '"' then ['\\', '"']
  else if c = '\\' then ['\\', '\\']
  else if c = '\n' then ['\\', 'n']
  else if c = '\t' then ['\\', 't']
  else if c = '\r' then ['\\', 'r']
  else if c = '\x08' then ['\\', 'b']
  else if c = '\x0c' then ['\\', 'f']
  else if c.toNat < 0x20 then
    ['\\', 'u', '0', '0', Nat.digitChar (c.toNat / 16), Nat.digitChar (c.toNat % 16)]
  else [c]

/-- A text between quotes. -/
def textChars (text : String) : List Char :=
  '"' :: text.toList.flatMap escapedChar ++ ['"']

/-! ### Documents -/

/-- The line break before something at the given depth. -/
def Spacing.lineBreak (spacing : Spacing) (depth : Nat) : List Char :=
  match spacing with
  | .compact => []
  | .indented => '\n' :: List.replicate (2 * depth) ' '

/-- What stands between the name of a member and its value. -/
def Spacing.colon : Spacing → List Char
  | .compact => [':']
  | .indented => [':', ' ']

mutual

/-- The characters of a document that stands at the given depth. -/
def writeAt (spacing : Spacing) (depth : Nat) : Json → List Char
  | .null => ['n', 'u', 'l', 'l']
  | .bool true => ['t', 'r', 'u', 'e']
  | .bool false => ['f', 'a', 'l', 's', 'e']
  | .num n => n.chars
  | .str s => textChars s
  | .arr [] => ['[', ']']
  | .arr (x :: xs) =>
    '[' :: spacing.lineBreak (depth + 1) ++ writeAt spacing (depth + 1) x ++
      writeItems spacing (depth + 1) xs ++ spacing.lineBreak depth ++ [']']
  | .obj [] => ['{', '}']
  | .obj ((k, v) :: rest) =>
    '{' :: spacing.lineBreak (depth + 1) ++ textChars k ++ spacing.colon ++
      writeAt spacing (depth + 1) v ++ writeMembers spacing (depth + 1) rest ++
      spacing.lineBreak depth ++ ['}']

/-- The items after the first one, each after a comma. -/
def writeItems (spacing : Spacing) (depth : Nat) : List Json → List Char
  | [] => []
  | x :: xs =>
    ',' :: spacing.lineBreak depth ++ writeAt spacing depth x ++ writeItems spacing depth xs

/-- The members after the first one, each after a comma. -/
def writeMembers (spacing : Spacing) (depth : Nat) : List (String × Json) → List Char
  | [] => []
  | (k, v) :: rest =>
    ',' :: spacing.lineBreak depth ++ textChars k ++ spacing.colon ++ writeAt spacing depth v ++
      writeMembers spacing depth rest

end

/-- The document as text. -/
def write (spacing : Spacing) (doc : Json) : String :=
  String.ofList (doc.writeAt spacing 0)

/-- The document on one line, without blanks. -/
def compact (doc : Json) : String :=
  doc.write .compact

/-- The document with two blanks of indentation for each level. -/
def indented (doc : Json) : String :=
  doc.write .indented

end StackForm.Json
