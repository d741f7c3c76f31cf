import StackForm.Text.Basic
import StackForm.Text.Unprintable

/-!
# Quoted text

A text between double quotes, as messages and summaries show it: the quote, the backslash and the
common controls take a short escape, other characters without a glyph of their own their code point
in hexadecimal, and all else stands as it is.
-/

namespace StackForm.Text

/-- How one character stands between quotes. -/
def quotedChar (c : Char) : List Char :=
  match c with
  | '\x00' => ['\\', '0']
  | '\t' => ['\\', 't']
  | '\r' => ['\\', 'r']
  | '\n' => ['\\', 'n']
  | '\\' => ['\\', '\\']
  | '"' => ['\\', '"']
  | c => if isUnprintable c then '\\' :: 'u' :: '\x7b' :: hexDigits c.toNat ++ ['\x7d'] else [c]

/-- The text between double quotes. -/
def quoted (text : String) : String :=
  String.ofList ('"' :: text.toList.flatMap quotedChar ++ ['"'])

/-- The texts in quotes, separated by commas, between brackets. -/
def quotedList (texts : List String) : String :=
  "[" ++ ", ".intercalate (texts.map quoted) ++ "]"

end StackForm.Text
