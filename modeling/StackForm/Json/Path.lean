import StackForm.Json.Basic
import StackForm.Text.Basic

/-!
# Paths into documents

A path is a list of member names, walked from the outside in through objects only. In text form its
names are joined by dots, so every text is a path: an empty name stands between two dots.
-/

namespace StackForm.Json

/-- The names between the dots of a path. -/
def pathKeys (path : String) : List String :=
  (Text.split '.' path.toList).map String.ofList

/-- The value that the keys lead to. -/
def at? (doc : Json) : List String → Option Json
  | [] => some doc
  | key :: keys => (doc.get? key).bind (·.at? keys)

/-- The value that a dotted path leads to. -/
def resolve? (doc : Json) (path : String) : Option Json :=
  doc.at? (pathKeys path)

@[simp] theorem at?_nil (doc : Json) : doc.at? [] = some doc := rfl

@[simp] theorem at?_cons (doc : Json) (key : String) (keys : List String) :
    doc.at? (key :: keys) = (doc.get? key).bind (·.at? keys) := rfl

theorem at?_append (doc : Json) (front back : List String) :
    doc.at? (front ++ back) = (doc.at? front).bind (·.at? back) := by
  induction front generalizing doc with
  | nil => simp
  | cons key keys ih =>
    simp only [List.cons_append, at?_cons]
    cases doc.get? key with
    | none => rfl
    | some value => simpa using ih value

end StackForm.Json
