import StackForm.Json.Form
import StackForm.KeyMap
import StackForm.Stack.Error

/-!
# Render contexts

The values that are prepared before rendering, as documents under their keys. A value is read back
as the type it is wanted as; one of another shape counts as missing.
-/

namespace StackForm

/-- Values prepared ahead of rendering. -/
structure RenderContext where
  values : KeyMap Json

namespace RenderContext

def empty : RenderContext := ⟨.empty⟩

/-- The context with `key` bound to `value`. -/
def withValue (ctx : RenderContext) (key : String) (value : Json) : RenderContext :=
  ⟨ctx.values.insert key value⟩

/-- Bind a key to the outcome of encoding a value; a value without a JSON form is an error. -/
def withEncoded (ctx : RenderContext) (key : String) (value : Except Json.Fault Json) :
    Except StackError RenderContext :=
  match value with
  | .ok doc => .ok (ctx.withValue key doc)
  | .error fault => .error (.render ("unserializable context value: " ++ fault.message))

/-- The value under a key, read as a typed value. -/
def get? {α : Type} (ctx : RenderContext) (read : Json → Except Json.Mismatch α) (key : String) :
    Option α :=
  match ctx.values.get? key with
  | some doc => (read doc).toOption
  | none => none

/-- The error for a key without a value of the right shape. -/
def missing (key : String) : StackError :=
  .render ("render context is missing '" ++ key ++ "'; before_render must run first")

/-- The value under a key, which must be there. -/
def require {α : Type} (ctx : RenderContext) (read : Json → Except Json.Mismatch α)
    (key : String) : Except StackError α :=
  match ctx.get? read key with
  | some value => .ok value
  | none => .error (missing key)

def contains (ctx : RenderContext) (key : String) : Bool :=
  ctx.values.contains key

/-- The keys in ascending order. -/
def keys (ctx : RenderContext) : List String :=
  ctx.values.keys

def isEmpty (ctx : RenderContext) : Bool :=
  ctx.values.isEmpty

def toJson (ctx : RenderContext) : Json :=
  .obj [("values", .obj ctx.values.entries)]

end RenderContext

/-- An object from pairs of documents; only texts are names of members. -/
def Json.ofPairs (done : List (String × Json)) : List (Json × Json) → Except Json.Fault Json
  | [] => .ok (.obj done)
  | (.str name, value) :: rest => ofPairs (Keyed.insert name value done) rest
  | _ :: _ => .error .nameNotText

end StackForm
