import StackForm.KeyMap
import StackForm.Rule.Predicate
import StackForm.Text.Quoted

/-!
# Rule sets

Rules are found by name, so that a constraint table can name rules that are registered elsewhere.
A check may fail because nobody registered the rule, or because of the value that it looks at.
-/

namespace StackForm

/-- A rule that nobody registered, a value that breaks a rule, or a value of the wrong shape. -/
inductive RuleError where
  | unknownRule (rule : String)
  | violation (path rule : String)
  | shapeMismatch (path expected : String)
  deriving DecidableEq

def RuleError.message : RuleError → String
  | .unknownRule rule => "Unknown validation rule: " ++ rule
  | .violation path rule => path ++ ": failed rule '" ++ rule ++ "'"
  | .shapeMismatch path expected => path ++ ": expected " ++ expected

/-- Named rules. -/
structure RuleSet where
  rules : KeyMap Rule

namespace RuleSet

def empty : RuleSet := ⟨.empty⟩

/-- Register a rule, in place of any rule of that name. -/
def register (set : RuleSet) (name : String) (rule : Rule) : RuleSet :=
  ⟨set.rules.insert name rule⟩

/-- The rules that every stack may use. -/
def standard : RuleSet :=
  ((((((((empty.register "region" Rule.isRegion).register "vpc" Rule.isVpc).register
    "subnet" Rule.isSubnet).register "scheme" Rule.isScheme).register
    "effect" Rule.isEffect).register "action" Rule.isAction).register
    "alphanum" Rule.isAlphanum).register "numeric" Rule.isNumeric).register
    "ascii" Rule.isAscii

def contains (set : RuleSet) (name : String) : Bool :=
  set.rules.contains name

/-- The registered names in ascending order. -/
def names (set : RuleSet) : List String :=
  set.rules.keys

/-- Apply the rule of that name. -/
def check (set : RuleSet) (name value : String) : Except RuleError Bool :=
  match set.rules.get? name with
  | some rule => .ok (rule value)
  | none => .error (.unknownRule name)

/-- A one-line summary of the set. -/
def summary (set : RuleSet) : String :=
  "RuleSet \x7b rules: " ++ Text.quotedList set.names ++ " \x7d"

end RuleSet

end StackForm
