import StackForm.Json.Path
import StackForm.Rule.Set
import StackForm.Text.Utf8

/-!
# Constraints on fields

A constraint says of the field at one path which shape it must have, whether it must be there, and
which rule its text, or every text of its list, must obey. A table checks its constraints in order.
`schemaCheck` looks at shapes only; `validate` looks at presence, shapes and rules, and leaves out
what lies below an optional field that is absent.
-/

namespace StackForm

/-! ### Shapes -/

/-- The shape of a field. -/
inductive Shape where
  | text
  | flag
  | texts
  | object
  deriving DecidableEq

namespace Shape

def name : Shape → String
  | .text => "string"
  | .flag => "boolean"
  | .texts => "list of strings"
  | .object => "object"

/-- A value has the shape. -/
def isMatch : Shape → Json → Bool
  | .text, doc => doc.isString
  | .flag, doc => doc.isBool
  | .texts, .arr items => items.all Json.isString
  | .texts, _ => false
  | .object, doc => doc.isObject

end Shape

/-- Null, the empty text and the empty list count as absent. -/
def Json.isAbsent : Json → Bool
  | .null => true
  | .str s => s.isEmpty
  | .arr items => items.isEmpty
  | _ => false

/-- The value at a path, unless it counts as absent. -/
def Json.present? (doc : Json) (path : String) : Option Json :=
  (doc.resolve? path).filter (!·.isAbsent)

/-! ### Constraints -/

/-- What must hold of the field at a path. -/
structure Constraint where
  path : String
  shape : Shape
  required : Bool
  rule : Option String
  deriving DecidableEq

namespace Constraint

/-- The field must be there. -/
def require (path : String) (shape : Shape) : Constraint :=
  ⟨path, shape, true, none⟩

/-- The field may be absent. -/
def allow (path : String) (shape : Shape) : Constraint :=
  ⟨path, shape, false, none⟩

/-- The field must also obey a rule. -/
def withRule (c : Constraint) (rule : String) : Constraint :=
  { c with rule := some rule }

/-- Whether the path goes on with a dot where the path of `ancestor` ends. The paths are compared by
their bytes; there is no answer if the byte to look at stands behind the end of the path. -/
def below? (c ancestor : Constraint) : Option Bool :=
  let path := Utf8.encode c.path
  let front := Utf8.encode ancestor.path
  if front.length < path.length ∧ front.isPrefixOf path then
    path[front.length]?.map (· == 0x2e)
  else some false

/-- The path continues the path of `ancestor` after a dot. -/
def isBelow (c ancestor : Constraint) : Bool :=
  (c.below? ancestor).getD false

end Constraint

/-- Constraints in the order in which they are checked. -/
abbrev ConstraintTable := List Constraint

/-! ### Checking rules -/

namespace RuleSet

/-- The rule must hold of the text at the path. -/
def checkText (rules : RuleSet) (rule path value : String) : Except RuleError Unit := do
  if ← rules.check rule value then return ()
  else throw (.violation path rule)

mutual

/-- The rule must hold of a text, or of every text in a list, at any depth; other values obey every
rule. A value that has the shape of its constraint holds texts in one list at most. -/
def checkValue (rules : RuleSet) (rule path : String) : Json → Except RuleError Unit
  | .str s => rules.checkText rule path s
  | .arr items => rules.checkItems rule path 0 items
  | _ => .ok ()

/-- The rule must hold of every item, the first of which has the given index. -/
def checkItems (rules : RuleSet) (rule path : String) : (index : Nat) → List Json →
    Except RuleError Unit
  | _, [] => .ok ()
  | index, item :: rest => do
    rules.checkValue rule (path ++ "[" ++ toString index ++ "]") item
    rules.checkItems rule path (index + 1) rest

end

theorem checkItems_cons (rules : RuleSet) (rule path : String) (index : Nat) (s : String)
    (rest : List String) :
    rules.checkItems rule path index ((s :: rest).map .str) =
      (rules.checkText rule (path ++ "[" ++ toString index ++ "]") s >>= fun _ =>
        rules.checkItems rule path (index + 1) (rest.map .str)) := by
  rw [List.map_cons, checkItems, checkValue]

end RuleSet

/-! ### Checking tables -/

namespace ConstraintTable

/-- Some optional field above the constraint, wherever the table declares it, is absent. -/
def skips (table : ConstraintTable) (c : Constraint) (doc : Json) : Bool :=
  table.any fun a => !a.required && c.isBelow a && (doc.present? a.path).isNone

/-- One constraint of the table holds of the document. -/
def checkOne (table : ConstraintTable) (rules : RuleSet) (doc : Json) (c : Constraint) :
    Except RuleError Unit :=
  if table.skips c doc then .ok ()
  else
    match doc.present? c.path with
    | none => if c.required then .error (.violation c.path "required") else .ok ()
    | some value =>
      if c.shape.isMatch value then
        match c.rule with
        | some rule => rules.checkValue rule c.path value
        | none => .ok ()
      else .error (.shapeMismatch c.path c.shape.name)

/-- Every constraint holds of the document; otherwise the first that does not is reported. -/
def validate (table : ConstraintTable) (doc : Json) (rules : RuleSet) : Except RuleError Unit :=
  table.forM (table.checkOne rules doc)

/-- A value that is there and not null has the shape of its constraint. -/
def checkShape (doc : Json) (c : Constraint) : Except RuleError Unit :=
  match doc.resolve? c.path with
  | some value =>
    if value.isNull || c.shape.isMatch value then .ok ()
    else .error (.shapeMismatch c.path c.shape.name)
  | none => .ok ()

/-- The document is an object, and the fields of the table have their shapes. -/
def schemaCheck (table : ConstraintTable) (doc : Json) : Except RuleError Unit :=
  if doc.isObject then table.forM (checkShape doc)
  else .error (.shapeMismatch "<root>" Shape.object.name)

end ConstraintTable

end StackForm
