import StackForm.Json.Basic

/-!
# Laying one document over another

`overlay base doc` keeps what `doc` does not mention: objects merge member by member, a null leaves
what is there, and anything else of `doc` replaces what stands in its place.
-/

namespace StackForm.Json

mutual

/-- The document `doc` laid over `base`. -/
def overlay (base doc : Json) : Json :=
  match doc with
  | .null => base
  | .obj members =>
    match base with
    | .obj under => .obj (overlayMembers under members)
    | _ => .obj members
  | doc => doc
termination_by structural doc

/-- The members laid one by one over those of an object. -/
def overlayMembers (under : List (String × Json)) (members : List (String × Json)) :
    List (String × Json) :=
  match members with
  | [] => under
  | (key, value) :: rest =>
    overlayMembers
      (if value.isNull then under
       else match under.lookup key with
        | some old =>
          if value.isObject && old.isObject then Keyed.insert key (overlay old value) under
          else Keyed.insert key value under
        | none => Keyed.insert key value under)
      rest
termination_by structural members

end

end StackForm.Json
