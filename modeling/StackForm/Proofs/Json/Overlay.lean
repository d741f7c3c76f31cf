import StackForm.Json.Overlay
import StackForm.Proofs.Json.Ordered

/-!
# The members of layered documents

One step of a walk through layered documents: what stands under a name in `overlay base doc` is what
the part of `doc` makes of what stood there in `base`. Everything about the decoding of clusters
rests on this law.
-/

namespace StackForm

namespace Json

/-! ### Laying values -/

lemma isNull_iff {v : Json} : v.isNull = true ↔ v = .null := by
  cases v <;> simp [isNull]

@[simp] lemma overlay_null (base : Json) : overlay base .null = base := by
  rw [overlay]

@[simp] lemma overlay_obj (under members : List (String × Json)) :
    overlay (.obj under) (.obj members) = .obj (overlayMembers under members) := by
  rw [overlay]

/-- Only two objects merge; anything else of the upper document replaces what is below. -/
lemma overlay_of_not_merging {base v : Json} (hv : v ≠ .null)
    (h : (v.isObject && base.isObject) = false) : overlay base v = v := by
  cases v with
  | null => exact absurd rfl hv
  | obj members =>
    cases base with
    | obj under => simp [isObject] at h
    | _ => rw [overlay]; simp
  | _ => rw [overlay]; all_goals simp

/-- A value laid over what may stand in its place. -/
def merge (old : Option Json) (v : Json) : Json :=
  match old with
  | some old => overlay old v
  | none => v

/-- What is found in the place of a value after it was laid there. -/
def layered (old : Option Json) (v : Json) : Option Json :=
  if v = .null then old else some (merge old v)

@[simp] lemma layered_null (old : Option Json) : layered old .null = old := by
  simp [layered]

@[simp] lemma layered_some (old v : Json) : layered (some old) v = some (overlay old v) := by
  by_cases hv : v = .null
  · simp [hv]
  · simp [layered, hv, merge]

/-! ### Laying members -/

/-- Whatever the shapes are, a member that is not null is merged with what stands there. -/
lemma overlayMembers_cons (under : List (String × Json)) (k : String) (v : Json)
    (rest : List (String × Json)) :
    overlayMembers under ((k, v) :: rest) =
      overlayMembers
        (if v = .null then under else Keyed.insert k (merge (under.lookup k) v) under) rest := by
  rw [overlayMembers]
  congr 1
  by_cases hv : v = .null
  · simp [hv, isNull]
  · have hn : v.isNull = false := by
      rw [Bool.eq_false_iff, ne_eq, isNull_iff]
      exact hv
    cases under.lookup k with
    | none => simp [hn, hv, merge]
    | some old =>
      by_cases hm : (v.isObject && old.isObject) = true
      · simp [hn, hv, hm, merge]
      · rw [Bool.not_eq_true] at hm
        simp [hn, hv, hm, merge, overlay_of_not_merging hv hm]

/-- Every name holds what its member makes of what was there. -/
theorem lookup_overlayMembers (under : List (String × Json)) {members : List (String × Json)}
    (h : Keyed.Ascending members) (key : String) :
    (overlayMembers under members).lookup key =
      layered (under.lookup key) ((members.lookup key).getD .null) := by
  induction members generalizing under with
  | nil => simp [overlayMembers]
  | cons m rest ih =>
    obtain ⟨k, v⟩ := m
    rw [overlayMembers_cons, ih _ h.tail, Keyed.lookup_cons]
    by_cases hk : key = k
    · subst hk
      rw [h.lookup_rest, if_pos rfl, Option.getD_none, layered_null, Option.getD_some, layered]
      split
      · rfl
      · exact Keyed.lookup_insert_self key _ under
    · rw [if_neg hk]
      congr 1
      split
      · rfl
      · exact Keyed.lookup_insert_of_ne hk _ under

/-- The law of one step: an object stays an object when an object part is laid over it, and every
name then holds what the part under that name makes of what was there. -/
theorem exists_overlay_obj (base : Json) {doc : Json} (hb : base.isObject = true)
    (hs : doc = .null ∨ doc.isObject = true) (ho : doc.Ordered) :
    ∃ members, overlay base doc = .obj members ∧
      ∀ key, members.lookup key = layered (base.get? key) (doc.part key) := by
  cases base with
  | obj under =>
    cases doc with
    | null => exact ⟨under, by simp, fun key => by rw [part_null, layered_null]; rfl⟩
    | obj upper => exact ⟨overlayMembers under upper, by simp, lookup_overlayMembers under ho.1⟩
    | _ => simp [isObject] at hs
  | _ => simp [isObject] at hb

end Json

end StackForm
