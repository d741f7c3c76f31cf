import StackForm.Json.Mismatch
import StackForm.Json.Overlay

/-!
# Typed values as documents

A type with a JSON form can be written as a document and read from one. A record is read from an
object, whose unknown members are ignored and whose missing ones take a default, or from a list of
its fields in the order of their declaration. The members of an object are read in ascending order,
so the first of them that does not fit is reported.
-/

namespace StackForm

/-- A type whose values are written as documents and read from them. -/
class JsonForm (α : Type) where
  toJson : α → Json
  ofJson : Json → Except Json.Mismatch α

export JsonForm (toJson ofJson)

instance : JsonForm Json := ⟨id, .ok⟩

namespace Json

variable {α : Type}

/-! ### Plain values -/

def readText : Json → Except Mismatch String
  | .str s => .ok s
  | doc => .error (.invalidType doc.found "a string")

def readFlag : Json → Except Mismatch Bool
  | .bool b => .ok b
  | doc => .error (.invalidType doc.found "a boolean")

/-- Read every item; the first that does not fit is reported. -/
def readItems (read : Json → Except Mismatch α) : List Json → Except Mismatch (List α)
  | [] => .ok []
  | x :: xs => do
    let y ← read x
    let ys ← readItems read xs
    return y :: ys

def readList (read : Json → Except Mismatch α) : Json → Except Mismatch (List α)
  | .arr items => readItems read items
  | doc => .error (.invalidType doc.found "a sequence")

/-- An integer between two bounds, for a type of the given name. -/
def readInt (least greatest : Int) (name : String) : Json → Except Mismatch Int
  | .num (.int n) =>
    if least ≤ n && n ≤ greatest then .ok n else .error (.invalidValue (.num (.int n)) name)
  | doc => .error (.invalidType doc.found name)

/-- Null stands for no value. -/
def readOption (read : Json → Except Mismatch α) : Json → Except Mismatch (Option α)
  | .null => .ok none
  | doc => (read doc).map some

/-! ### Records -/

/-- A record is read from its members or from its fields in order. -/
def readRecord (name : String) (ofMembers : List (String × Json) → Except Mismatch α)
    (ofFields : List Json → Except Mismatch α) : Json → Except Mismatch α
  | .obj members => ofMembers members
  | .arr fields => ofFields fields
  | doc => .error (.invalidType doc.found ("struct " ++ name))

/-- The member under a name, or a default. -/
def memberOr (members : List (String × Json)) (name : String)
    (read : Json → Except Mismatch α) (default : α) : Except Mismatch α :=
  match members.lookup name with
  | some value => read value
  | none => .ok default

/-- The field at an index, or a default. -/
def fieldOr (fields : List Json) (index : Nat)
    (read : Json → Except Mismatch α) (default : α) : Except Mismatch α :=
  match fields[index]? with
  | some value => read value
  | none => .ok default

/-- A list of fields may not be longer than the record. -/
def checkFieldCount (fields : List Json) (count : Nat) : Except Mismatch Unit :=
  if fields.length ≤ count then .ok ()
  else .error (.invalidLength fields.length "fewer elements in array")

/-- A member that is left out when there is no value. -/
def optionalMember (name : String) : Option Json → List (String × Json)
  | some value => [(name, value)]
  | none => []

end Json

/-! ### Layering -/

/-- Read a value from the document of `target` with `doc` laid over it, so that what `doc` does not
mention stays as it is in `target`. -/
def layOver {α : Type} [JsonForm α] (target : α) (doc : Json) : Except Json.Mismatch α :=
  ofJson (Json.overlay (toJson target) doc)

end StackForm
