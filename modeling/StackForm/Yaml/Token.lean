/-!
# Tokens of YAML

The marks and texts that a YAML document consists of. Indentation shows up as tokens that open and
close block collections, so that tokens can be read without looking at columns.
-/

namespace StackForm.Yaml

/-- How a scalar was written: plainly, or in quotes or as a block. Only plain ones can be anything
but texts. -/
inductive Style where
  | plain
  | quoted
  deriving DecidableEq

/-- A tag, or a part of one. Escapes in a tag may spell any bytes, so it need not be a text. -/
abbrev Tag := List UInt8

inductive Token where
  | versionDirective (major minor : Nat)
  | tagDirective (handle : String) (stem : Tag)
  | documentStart
  | documentEnd
  | blockSequence
  | blockMapping
  | blockEnd
  | openSequence
  | closeSequence
  | openMapping
  | closeMapping
  | entry
  | comma
  | key
  | value
  | alias (name : String)
  | anchor (name : String)
  | tag (handle : String) (suffix : Tag)
  | scalar (style : Style) (text : String)
  deriving DecidableEq

end StackForm.Yaml
