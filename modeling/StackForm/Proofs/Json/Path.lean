import StackForm.Proofs.Json.Ordered

/-!
# Paths one below the other

Joining two paths by a dot appends their keys, so the longer path is walked from where the shorter
one leads.
-/

namespace StackForm

namespace Text

lemma split_ne_nil (separator : Char) (text : List Char) : split separator text ≠ [] := by
  cases text with
  | nil => simp [split]
  | cons c rest =>
    rw [split]
    by_cases hc : c = separator
    · simp [hc]
    · cases split separator rest <;> simp [hc]

/-- A text without separators is one part. -/
lemma split_of_notMem {separator : Char} {text : List Char} (h : separator ∉ text) :
    split separator text = [text] := by
  induction text with
  | nil => rfl
  | cons c rest ih =>
    have hc : c ≠ separator := by
      rintro rfl
      exact h List.mem_cons_self
    rw [split, if_neg hc, ih (fun hmem => h (List.mem_cons_of_mem c hmem))]

/-- A separator ends the parts of what stands before it. -/
lemma split_append (separator : Char) (front back : List Char) :
    split separator (front ++ separator :: back) =
      split separator front ++ split separator back := by
  induction front with
  | nil => simp [split]
  | cons c rest ih =>
    rw [List.cons_append, split, split]
    by_cases hc : c = separator
    · simp [hc, ih]
    · rw [if_neg hc, if_neg hc, ih]
      cases hr : split separator rest with
      | nil => exact absurd hr (split_ne_nil separator rest)
      | cons part parts => rfl

end Text

namespace Json

lemma pathKeys_dot (path below : String) :
    pathKeys (path ++ ("." ++ below)) = pathKeys path ++ pathKeys below := by
  have hdot : ".".toList = ['.'] := rfl
  simp only [pathKeys, String.toList_append, hdot, List.singleton_append, Text.split_append,
    List.map_append]

/-- A key after a dot leads from a part to a part of it. -/
lemma reach_dot (doc : Json) (path key : String) (hkey : pathKeys key = [key]) :
    doc.reach (pathKeys (path ++ ("." ++ key))) = (doc.reach (pathKeys path)).part key := by
  rw [pathKeys_dot, hkey, reach, List.foldl_append]
  rfl

end Json

end StackForm
