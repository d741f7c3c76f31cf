import StackForm.Json.Reader.Document
import StackForm.Stack.Kinds
import StackForm.Text.Lower
import StackForm.Yaml.Document

/-!
# Loading stacks

A configuration is a document in JSON or YAML that names the kind of its stack. It is read onto the
initial stack of that kind and then validated; each step must succeed before the next one.
-/

namespace StackForm

/-! ### Formats -/

/-- The format of a configuration. -/
inductive Format where
  | json
  | yaml
  deriving DecidableEq

namespace Format

/-- The last part of a path, slashes and `.` parts at its end left out. -/
def lastName (path : List Char) : List Char :=
  ((Text.split '/' path).filter fun part => !part.isEmpty && part != ['.']).getLast?.getD []

/-- The extension of a file name: what follows its last dot, if something stands before the dot. -/
def extension? (name : List Char) : Option (List Char) :=
  if name == ['.', '.'] then none
  else
    match name.reverse.span (· != '.') with
    | (ext, '.' :: _ :: _) => some ext.reverse
    | _ => none

/-- YAML for the extensions `yaml` and `yml` in any case, else JSON. -/
def ofPath (path : String) : Format :=
  match (extension? (lastName path.toList)).map Text.lower with
  | some ext => if ext == "yaml".toList || ext == "yml".toList then .yaml else .json
  | none => .json

/-- The document that the bytes hold in the format. -/
def parse (format : Format) (bytes : List UInt8) : Except StackError Json :=
  match format with
  | .json => (Json.parse bytes).mapError fun e => .malformed (.json e)
  | .yaml => (Yaml.parse bytes).mapError fun fault => .malformed (.yaml fault)

theorem parse_json_eq_ok_iff {bytes : List UInt8} {doc : Json} :
    parse .json bytes = .ok doc ↔ Json.parse bytes = .ok doc := by
  rw [parse]
  cases Json.parse bytes with
  | ok d =>
    show Except.ok d = Except.ok doc ↔ _
    rw [Except.ok.injEq, Except.ok.injEq]
  | error e =>
    constructor
    · intro h
      cases h
    · intro h
      cases h

end Format

/-! ### Kinds -/

/-- The kind that a configuration asks for. -/
def kindOf (doc : Json) : Except StackError String :=
  match doc with
  | .obj members =>
    match members.lookup "kind" with
    | none => .error .missingKind
    | some .null => .error .missingKind
    | some (.str kind) => if kind.isEmpty then .error .missingKind else .ok kind
    | some _ => .error (.schemaMismatch "kind" "string")
  | _ => .error (.malformed .notMapping)

/-! ### Loading -/

namespace StackKinds

variable {ε : Type} [StackVariant ε]

/-- The stack that a document describes. -/
def decode (kinds : StackKinds ε) (doc : Json) : Except StackError (Stack ε) := do
  let kind ← kindOf doc
  let stack ← kinds.construct kind
  stack.decode doc

/-- The stack that a configuration describes, which need not be valid. -/
def decodeBytes (kinds : StackKinds ε) (bytes : List UInt8) (format : Format) :
    Except StackError (Stack ε) := do
  let doc ← format.parse bytes
  kinds.decode doc

theorem decodeBytes_of_parse (kinds : StackKinds ε) {bytes : List UInt8} {format : Format}
    {doc : Json} (h : format.parse bytes = .ok doc) :
    kinds.decodeBytes bytes format = kinds.decode doc := by
  rw [decodeBytes, h]
  rfl

/-- The valid stack that a configuration describes. -/
def load (kinds : StackKinds ε) (bytes : List UInt8) (format : Format) :
    Except StackError (Stack ε) := do
  let stack ← kinds.decodeBytes bytes format
  stack.validate
  return stack

/-- The valid stack that a file describes, given what reading the file gave. -/
def loadFile (kinds : StackKinds ε) (path : String) (content : Except String (List UInt8)) :
    Except StackError (Stack ε) :=
  match content with
  | .ok bytes => kinds.load bytes (.ofPath path)
  | .error reason => .error (.sourceUnavailable path reason)

end StackKinds

end StackForm
