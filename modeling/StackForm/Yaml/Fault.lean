/-!
# What can be wrong with a YAML text

One fault for each reason to refuse a text, in the order of the stages that find them: characters,
tokens, structure, values.
-/

namespace StackForm.Yaml

/-- Why a text is no YAML document. -/
inductive Fault where
  | notText
  | forbiddenCharacter
  | unexpectedCharacter
  | tabIndentation
  | misplacedEntry
  | missingColon
  | badDirective
  | badName
  | badTag
  | badBlockHeader
  | badEscape
  | unclosedQuote
  | markerInQuote
  | misplacedColon
  | unexpectedToken
  | unknownTagHandle
  | unknownAnchor
  | severalDocuments
  | localTag
  | valueOfOtherTag
  | integerTooLong
  | nameNotScalar
  | tooDeep
  | tooManyAliases
  deriving DecidableEq

def Fault.message : Fault → String
  | .notText => "the text is not UTF-8"
  | .forbiddenCharacter => "a character that may not occur in YAML"
  | .unexpectedCharacter => "a character that cannot start a token"
  | .tabIndentation => "a tab where indentation is expected"
  | .misplacedEntry => "an entry that is not allowed in this place"
  | .missingColon => "could not find expected ':'"
  | .badDirective => "a malformed directive"
  | .badName => "a malformed anchor or alias"
  | .badTag => "a malformed tag"
  | .badBlockHeader => "a malformed block scalar header"
  | .badEscape => "an unknown escape"
  | .unclosedQuote => "unexpected end of a quoted scalar"
  | .markerInQuote => "a document marker in a quoted scalar"
  | .misplacedColon => "found unexpected ':'"
  | .unexpectedToken => "a token that does not fit the structure"
  | .unknownTagHandle => "an undefined tag handle"
  | .unknownAnchor => "unknown anchor"
  | .severalDocuments => "more than one document"
  | .localTag => "a value with a local tag"
  | .valueOfOtherTag => "a value that does not fit its tag"
  | .integerTooLong => "an integer of more than 64 bits"
  | .nameNotScalar => "a mapping key that is no scalar"
  | .tooDeep => "recursion limit exceeded"
  | .tooManyAliases => "repetition limit exceeded"

end StackForm.Yaml
