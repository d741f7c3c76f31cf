import StackForm.Text.Pattern

/-!
# Rules for single values

A rule is a predicate on the text of one field. The grammars are stated on characters and cover the
whole text, so nothing may stand before or after what they describe, not even a line break.
-/

namespace StackForm

/-- A predicate on the text of one field. -/
abbrev Rule := String → Bool

namespace Rule

/-! ### Classes of characters -/

def isLower (c : Char) : Bool :=
  'a' ≤ c && c ≤ 'z'

def isUpper (c : Char) : Bool :=
  'A' ≤ c && c ≤ 'Z'

def isDigit (c : Char) : Bool :=
  '0' ≤ c && c ≤ '9'

def isHexDigit (c : Char) : Bool :=
  isDigit c || ('a' ≤ c && c ≤ 'f') || ('A' ≤ c && c ≤ 'F')

def isAlphanumChar (c : Char) : Bool :=
  isLower c || isUpper c || isDigit c

/-- The characters of the service in front of the colon of an action. -/
def isServiceChar (c : Char) : Bool :=
  isLower c || isDigit c || c == '-'

/-- The characters of the operation after the colon of an action. -/
def isOperationChar (c : Char) : Bool :=
  isAlphanumChar c || c == '*'

/-- At least one character, all of the class. -/
def isRun (p : Char → Bool) (cs : List Char) : Bool :=
  !cs.isEmpty && cs.all p

/-! ### Rules -/

/-- The regions that stacks may be deployed to. -/
def regions : List String := [
  "ap-northeast-1", "ap-northeast-2", "ap-southeast-1", "ap-southeast-2", "eu-central-1",
  "eu-west-1", "sa-east-1", "us-east-1", "us-west-1", "us-west-2"]

/-- One of the known regions. -/
def isRegion : Rule := fun s =>
  regions.contains s

/-- The name of a kind of resource, a hyphen, and hexadecimal digits. -/
def resourceIdPattern (resource : String) : Text.Pattern :=
  (.chars (resource.toList ++ ['-']) ++ .run isHexDigit : Text.Pattern).whole

def isResourceId (resource : String) : Rule := fun s =>
  (resourceIdPattern resource).isIn s.toList

def isVpc : Rule :=
  isResourceId "vpc"

def isSubnet : Rule :=
  isResourceId "subnet"

/-- The scheme of a load balancer. -/
def isScheme : Rule := fun s =>
  s == "internal" || s == "internet-facing"

/-- The effect of a policy statement. -/
def isEffect : Rule := fun s =>
  s == "Allow" || s == "Deny"

/-- A service, a colon and an operation. -/
def actionPattern : Text.Pattern :=
  (.run isServiceChar ++ .chars [':'] ++ .run isOperationChar : Text.Pattern).whole

/-- An action of a policy statement: all actions, or one that fits the pattern. -/
def isAction : Rule := fun s =>
  s == "*" || actionPattern.isIn s.toList

def isAlphanum : Rule := fun s =>
  isRun isAlphanumChar s.toList

def isNumeric : Rule := fun s =>
  isRun isDigit s.toList

/-- Only characters below `0x80`; the empty text has no others. -/
def isAscii : Rule := fun s =>
  s.toList.all fun c => c.toNat < 0x80

end Rule

end StackForm
