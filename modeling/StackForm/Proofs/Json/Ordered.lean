import StackForm.Json.Path
import Mathlib.Tactic.Lemma

/-!
# Ordered documents

Reading a configuration puts the members of every object into the order of their names, each name
once. Such a document is a `Document`. Its values are looked at part by part: a member that is
missing and one that is null have the same part, which is all that the checks of a constraint table
can see.
-/

namespace StackForm

namespace Json

/-! ### Properties of every object -/

mutual

/-- The property holds of the members of every object in the document, at any depth. -/
def Every (p : List (String × Json) → Prop) : Json → Prop
  | .arr items => EveryItem p items
  | .obj members => p members ∧ EveryMember p members
  | _ => True

def EveryItem (p : List (String × Json) → Prop) : List Json → Prop
  | [] => True
  | x :: xs => x.Every p ∧ EveryItem p xs

def EveryMember (p : List (String × Json) → Prop) : List (String × Json) → Prop
  | [] => True
  | (_, x) :: xs => x.Every p ∧ EveryMember p xs

end

/-- The names of members ascend in every object. -/
def Ordered : Json → Prop :=
  Every Keyed.Ascending

/-- No object has a null among its members. -/
def NullFree : Json → Prop :=
  Every fun members => ∀ m ∈ members, m.2 ≠ .null

variable {p : List (String × Json) → Prop}

lemma everyMember_iff {members : List (String × Json)} :
    EveryMember p members ↔ ∀ m ∈ members, m.2.Every p := by
  induction members with
  | nil => simp [EveryMember]
  | cons m rest ih =>
    obtain ⟨k, v⟩ := m
    simp [EveryMember, ih]

lemma everyItem_iff {items : List Json} : EveryItem p items ↔ ∀ x ∈ items, x.Every p := by
  induction items with
  | nil => simp [EveryItem]
  | cons x rest ih => simp [EveryItem, ih]

lemma everyMember_insert {members : List (String × Json)} {key : String} {value : Json}
    (hv : value.Every p) (h : EveryMember p members) :
    EveryMember p (Keyed.insert key value members) := by
  rw [everyMember_iff] at h ⊢
  intro m hm
  rcases Keyed.mem_insert hm with rfl | hm
  · exact hv
  · exact h m hm

/-- What holds of every object of a document holds of every object of its members. -/
lemma Every.of_get? {doc v : Json} {key : String} (h : doc.Every p) (hv : doc.get? key = some v) :
    v.Every p := by
  cases doc with
  | obj members =>
    rw [Every, everyMember_iff] at h
    have hmem : (key, v) ∈ members := by
      obtain ⟨front, back, rfl, _⟩ := List.lookup_eq_some_iff.1 hv
      simp
    exact h.2 _ hmem
  | _ => simp [get?, members?] at hv

/-! ### Sorting -/

mutual

/-- Sorting a document orders it. -/
theorem ordered_sorted : ∀ doc : Json, doc.sorted.Ordered
  | .null | .bool _ | .num _ | .str _ => by simp [sorted, Ordered, Every]
  | .arr items => by
    rw [sorted, Ordered, Every]
    exact everyItem_sortedItems items
  | .obj members => by
    rw [sorted, Ordered, Every]
    exact everyMember_sortedMembers members .nil trivial

theorem everyItem_sortedItems : ∀ items, EveryItem Keyed.Ascending (sortedItems items)
  | [] => trivial
  | x :: xs => ⟨ordered_sorted x, everyItem_sortedItems xs⟩

theorem everyMember_sortedMembers : ∀ members {done : List (String × Json)},
    Keyed.Ascending done → EveryMember Keyed.Ascending done →
      Keyed.Ascending (sortedMembers done members) ∧
        EveryMember Keyed.Ascending (sortedMembers done members)
  | [], _, hdone, hevery => ⟨hdone, hevery⟩
  | (k, v) :: rest, _, hdone, hevery =>
    everyMember_sortedMembers rest (hdone.insert k v.sorted)
      (everyMember_insert (ordered_sorted v) hevery)

end

mutual

/-- An ordered document is not changed by sorting. -/
theorem sorted_of_ordered : ∀ {doc : Json}, doc.Ordered → doc.sorted = doc
  | .null, _ | .bool _, _ | .num _, _ | .str _, _ => by simp [sorted]
  | .arr items, h => by
    rw [sorted, sortedItems_of_everyItem h]
  | .obj members, h => by
    have hnil : sortedMembers [] members = [] ++ members :=
      sortedMembers_of_everyMember h.1 h.2
    rw [sorted, hnil, List.nil_append]

theorem sortedItems_of_everyItem :
    ∀ {items : List Json}, EveryItem Keyed.Ascending items → sortedItems items = items
  | [], _ => rfl
  | x :: xs, h => by
    rw [sortedItems, sorted_of_ordered h.1, sortedItems_of_everyItem h.2]

theorem sortedMembers_of_everyMember : ∀ {members done : List (String × Json)},
    Keyed.Ascending (done ++ members) → EveryMember Keyed.Ascending members →
      sortedMembers done members = done ++ members
  | [], done, _, _ => by rw [sortedMembers, List.append_nil]
  | (k, v) :: rest, done, hasc, h => by
    have hdone : ∀ e ∈ done, e.1 < k := fun e he =>
      (List.pairwise_append.1 hasc).2.2 e he (k, v) List.mem_cons_self
    have hshift : done ++ (k, v) :: rest = (done ++ [(k, v)]) ++ rest := by simp
    rw [hshift] at hasc ⊢
    rw [sortedMembers, sorted_of_ordered h.1, Keyed.insert_of_forall_lt hdone,
      sortedMembers_of_everyMember hasc h.2]

end

/-! ### Parts -/

/-- The member of an object under `key`, null if there is none. -/
def part (doc : Json) (key : String) : Json :=
  (doc.get? key).getD .null

/-- The part of the part and so on, along the keys. -/
def reach (doc : Json) (keys : List String) : Json :=
  keys.foldl part doc

@[simp] lemma reach_nil (doc : Json) : doc.reach [] = doc := rfl

@[simp] lemma reach_cons (doc : Json) (key : String) (keys : List String) :
    doc.reach (key :: keys) = (doc.part key).reach keys := rfl

@[simp] lemma get?_null (key : String) : (null).get? key = none := rfl

@[simp] lemma part_null (key : String) : (null).part key = .null := rfl

@[simp] lemma get?_obj_nil (key : String) : (obj []).get? key = none := rfl

@[simp] lemma get?_obj_cons (key k : String) (v : Json) (rest : List (String × Json)) :
    (obj ((k, v) :: rest)).get? key = if key = k then some v else (obj rest).get? key :=
  Keyed.lookup_cons key k v rest

lemma part_of_get? {doc v : Json} {key : String} (h : doc.get? key = some v) :
    doc.part key = v := by
  rw [part, h, Option.getD_some]

/-- A part that is not null is a member. -/
lemma get?_of_part {doc : Json} {key : String} (h : doc.part key ≠ .null) :
    doc.get? key = some (doc.part key) := by
  rw [part] at h ⊢
  cases hk : doc.get? key with
  | none => simp [hk] at h
  | some v => rfl

lemma part_of_not_isObject {v : Json} (h : v.isObject = false) (key : String) :
    v.part key = .null := by
  cases v with
  | obj members => simp [isObject] at h
  | _ => rfl

/-- Only objects have parts. -/
lemma isObject_of_part {doc : Json} (key : String) (h : doc.part key ≠ .null) :
    doc.isObject = true := by
  cases hd : doc.isObject with
  | false => exact absurd (part_of_not_isObject hd key) h
  | true => rfl

/-- What holds of every object of a document holds of every object of its parts. -/
lemma Every.part {doc : Json} (h : doc.Every p) (key : String) : (doc.part key).Every p := by
  cases hk : doc.get? key with
  | none =>
    rw [Json.part, hk]
    trivial
  | some v =>
    rw [part_of_get? hk]
    exact h.of_get? hk

lemma Ordered.part {doc : Json} (h : doc.Ordered) (key : String) : (doc.part key).Ordered :=
  Every.part h key

lemma NullFree.part {doc : Json} (h : doc.NullFree) (key : String) : (doc.part key).NullFree :=
  Every.part h key

lemma NullFree.get?_ne {doc : Json} (h : doc.NullFree) (key : String) :
    doc.get? key ≠ some .null := by
  cases doc with
  | obj members =>
    intro hk
    obtain ⟨front, back, rfl, _⟩ := List.lookup_eq_some_iff.1 hk
    exact h.1 (key, .null) (by simp) rfl
  | _ => simp [get?, members?]

lemma isObject_of_isSome_get? {doc : Json} {key : String} (h : (doc.get? key).isSome = true) :
    doc.isObject = true := by
  cases doc with
  | obj members => rfl
  | _ => cases h

lemma isObject_of_get? {doc v : Json} {key : String} (h : doc.get? key = some v) :
    doc.isObject = true :=
  isObject_of_isSome_get? (by rw [h, Option.isSome_some])

/-- Ordered objects are told by their members. -/
lemma ext_get? {v w : Json} (hv : v.isObject = true) (hw : w.isObject = true) (ho : v.Ordered)
    (ho' : w.Ordered) (h : ∀ key, v.get? key = w.get? key) : v = w := by
  cases v with
  | obj members =>
    cases w with
    | obj members' => exact congrArg obj (ho.1.ext ho'.1 h)
    | _ => cases hw
  | _ => cases hv

/-- Reading along keys and reading parts differ only in how they tell that nothing is there. -/
lemma getD_at? (doc : Json) (keys : List String) : (doc.at? keys).getD .null = doc.reach keys := by
  induction keys generalizing doc with
  | nil => rfl
  | cons key keys ih =>
    rw [at?_cons, reach_cons, part]
    cases doc.get? key with
    | none =>
      rw [Option.bind_none, Option.getD_none, ← ih]
      cases keys <;> rfl
    | some v => exact ih v

end Json

/-! ### Documents -/

/-- An ordered document: what reading a configuration gives. -/
structure Document where
  json : Json
  ordered : json.Ordered

/-- The document with its members put into order. -/
def Document.ofJson (doc : Json) : Document :=
  ⟨doc.sorted, doc.ordered_sorted⟩

end StackForm
