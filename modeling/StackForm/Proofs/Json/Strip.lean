import StackForm.Proofs.Json.Field

/-!
# Documents without nulls

`strip` removes the members that are null from every object of a document. Part by part the stripped
document gives what the document gives, so neither the checks of shapes nor the update of a field
can tell them apart.
-/

namespace StackForm

namespace Json

mutual

/-- The document without the members that are null, at every depth. -/
def strip : Json → Json
  | .arr items => .arr (stripItems items)
  | .obj members => .obj (stripMembers members)
  | doc => doc

def stripItems : List Json → List Json
  | [] => []
  | x :: xs => strip x :: stripItems xs

def stripMembers : List (String × Json) → List (String × Json)
  | [] => []
  | (k, v) :: rest => if v.isNull then stripMembers rest else (k, strip v) :: stripMembers rest

end

/-! ### Shapes -/

@[simp] lemma strip_null : (null).strip = .null := rfl

@[simp] lemma strip_bool (b : Bool) : (bool b).strip = .bool b := rfl

@[simp] lemma strip_num (n : Number) : (num n).strip = .num n := rfl

@[simp] lemma strip_str (s : String) : (str s).strip = .str s := rfl

@[simp] lemma strip_arr (items : List Json) : (arr items).strip = .arr (stripItems items) := rfl

@[simp] lemma strip_obj (members : List (String × Json)) :
    (obj members).strip = .obj (stripMembers members) := rfl

@[simp] lemma stripMembers_nil : stripMembers [] = [] := rfl

lemma stripMembers_cons (k : String) (v : Json) (rest : List (String × Json)) :
    stripMembers ((k, v) :: rest) =
      if v.isNull then stripMembers rest else (k, v.strip) :: stripMembers rest := rfl

lemma stripItems_eq_map (items : List Json) : stripItems items = items.map strip := by
  induction items with
  | nil => rfl
  | cons x xs ih => exact congrArg (x.strip :: ·) ih

@[simp] lemma strip_eq_null_iff {doc : Json} : doc.strip = .null ↔ doc = .null := by
  cases doc <;> simp

@[simp] lemma isString_strip (doc : Json) : doc.strip.isString = doc.isString := by
  cases doc <;> simp [isString]

@[simp] lemma isObject_strip (doc : Json) : doc.strip.isObject = doc.isObject := by
  cases doc <;> simp [isObject]

@[simp] lemma admits_strip (shape : Shape) (doc : Json) :
    shape.Admits doc.strip ↔ shape.Admits doc := by
  rw [Shape.Admits, Shape.Admits, strip_eq_null_iff]
  have hitems : ∀ items : List Json, (items.map strip).all isString = items.all isString := by
    intro items
    rw [List.all_map]
    exact congrArg items.all (funext isString_strip)
  have hmatch : shape.isMatch doc.strip = shape.isMatch doc := by
    cases shape with
    | texts => cases doc <;> simp [Shape.isMatch, stripItems_eq_map, -List.all_map, hitems]
    | _ => cases doc <;> simp [Shape.isMatch, isString, isBool, isObject]
  rw [hmatch]

/-! ### Fields -/

@[simp] lemma textOr_strip (doc : Json) (old : String) : doc.strip.textOr old = doc.textOr old := by
  cases doc <;> simp [textOr]

@[simp] lemma flagOr_strip (doc : Json) (old : Bool) : doc.strip.flagOr old = doc.flagOr old := by
  cases doc <;> simp [flagOr]

@[simp] lemma textsOr_strip (doc : Json) (old : List String) :
    doc.strip.textsOr old = doc.textsOr old := by
  cases doc <;> simp [textsOr, stripItems_eq_map, Function.comp_def]

/-! ### Members -/

lemma isNull_eq_false_iff {v : Json} : v.isNull = false ↔ v ≠ .null := by
  rw [Bool.eq_false_iff, ne_eq, isNull_iff]

lemma exists_of_mem_stripMembers {members : List (String × Json)} {m : String × Json}
    (h : m ∈ stripMembers members) :
    ∃ v, (m.1, v) ∈ members ∧ v ≠ .null ∧ m.2 = v.strip := by
  induction members with
  | nil => simp at h
  | cons e rest ih =>
    obtain ⟨k, v⟩ := e
    rw [stripMembers_cons] at h
    split at h
    · obtain ⟨w, hw, hrest⟩ := ih h
      exact ⟨w, .tail _ hw, hrest⟩
    · next hv =>
      rcases List.mem_cons.1 h with rfl | h
      · exact ⟨v, .head _, fun hn => hv (isNull_iff.2 hn), rfl⟩
      · obtain ⟨w, hw, hrest⟩ := ih h
        exact ⟨w, .tail _ hw, hrest⟩

lemma ascending_stripMembers {members : List (String × Json)} (h : Keyed.Ascending members) :
    Keyed.Ascending (stripMembers members) := by
  induction members with
  | nil => exact .nil
  | cons e rest ih =>
    obtain ⟨k, v⟩ := e
    rw [stripMembers_cons]
    split
    · exact ih h.tail
    · refine List.pairwise_cons.2 ⟨fun m hm => ?_, ih h.tail⟩
      obtain ⟨w, hw, _⟩ := exists_of_mem_stripMembers hm
      exact (List.pairwise_cons.1 h).1 (m.1, w) hw

lemma lookup_stripMembers {members : List (String × Json)} (h : Keyed.Ascending members)
    (key : String) :
    (stripMembers members).lookup key =
      if (members.lookup key).getD .null = .null then none
      else some ((members.lookup key).getD .null).strip := by
  induction members with
  | nil => simp
  | cons e rest ih =>
    obtain ⟨k, v⟩ := e
    rw [stripMembers, Keyed.lookup_cons]
    by_cases hk : key = k
    · subst hk
      by_cases hv : v = .null
      · simp [hv, isNull, ih h.tail, h.lookup_rest]
      · simp [hv, isNull_eq_false_iff.2 hv]
    · rw [if_neg hk, ← ih h.tail]
      split
      · rfl
      · rw [Keyed.lookup_cons, if_neg hk]

lemma get?_strip {doc : Json} (h : doc.Ordered) (key : String) :
    doc.strip.get? key = if doc.part key = .null then none else some (doc.part key).strip := by
  cases doc with
  | obj members =>
    rw [strip_obj]
    exact lookup_stripMembers h.1 key
  | _ => simp [get?, members?, part]

/-- The parts of a stripped document are the stripped parts. -/
lemma part_strip {doc : Json} (h : doc.Ordered) (key : String) :
    doc.strip.part key = (doc.part key).strip := by
  rw [part, get?_strip h]
  split
  · next hn => simp [hn]
  · rfl

lemma reach_strip {doc : Json} (h : doc.Ordered) (keys : List String) :
    doc.strip.reach keys = (doc.reach keys).strip := by
  induction keys generalizing doc with
  | nil => rfl
  | cons key keys ih => rw [reach_cons, reach_cons, part_strip h, ih (h.part key)]

/-! ### Putting and dropping members -/

/-- A member is put among the stripped members, or dropped from them if it is null. -/
lemma stripMembers_insert (key : String) (value : Json) {members : List (String × Json)}
    (h : Keyed.Ascending members) :
    stripMembers (Keyed.insert key value members) =
      if value = .null then Keyed.erase key (stripMembers members)
      else Keyed.insert key value.strip (stripMembers members) := by
  have hs := ascending_stripMembers h
  have hleft := ascending_stripMembers (h.insert key value)
  by_cases hv : value = .null
  · rw [if_pos hv]
    refine hleft.ext (hs.erase key) fun other => ?_
    rw [lookup_stripMembers (h.insert key value), Keyed.lookup_insert, Keyed.lookup_erase,
      lookup_stripMembers h]
    by_cases hk : other = key <;> simp [hk, hv]
  · rw [if_neg hv]
    refine hleft.ext (hs.insert key _) fun other => ?_
    rw [lookup_stripMembers (h.insert key value), Keyed.lookup_insert, Keyed.lookup_insert,
      lookup_stripMembers h]
    by_cases hk : other = key <;> simp [hk, hv]

lemma stripMembers_erase (key : String) {members : List (String × Json)}
    (h : Keyed.Ascending members) :
    stripMembers (Keyed.erase key members) = Keyed.erase key (stripMembers members) := by
  apply Keyed.Ascending.ext (ascending_stripMembers (h.erase key))
    ((ascending_stripMembers h).erase key)
  intro other
  rw [lookup_stripMembers (h.erase key), Keyed.lookup_erase, Keyed.lookup_erase,
    lookup_stripMembers h]
  by_cases hk : other = key <;> simp [hk]

/-! ### The stripped document -/

mutual

theorem ordered_strip : ∀ {doc : Json}, doc.Ordered → doc.strip.Ordered
  | .null, _ | .bool _, _ | .num _, _ | .str _, _ => by simp [Ordered, Every]
  | .arr _, h => by
    rw [strip_arr, Ordered, Every]
    exact everyItem_stripItems h
  | .obj _, h => by
    rw [strip_obj, Ordered, Every]
    exact ⟨ascending_stripMembers h.1, everyMember_stripMembers h.2⟩

theorem everyItem_stripItems : ∀ {items : List Json},
    EveryItem Keyed.Ascending items → EveryItem Keyed.Ascending (stripItems items)
  | [], _ => trivial
  | _ :: _, h => ⟨ordered_strip h.1, everyItem_stripItems h.2⟩

theorem everyMember_stripMembers : ∀ {members : List (String × Json)},
    EveryMember Keyed.Ascending members → EveryMember Keyed.Ascending (stripMembers members)
  | [], _ => trivial
  | (_, _) :: _, h => by
    rw [stripMembers_cons]
    split
    · exact everyMember_stripMembers h.2
    · exact ⟨ordered_strip h.1, everyMember_stripMembers h.2⟩

end

mutual

/-- No null is left among the members. -/
theorem nullFree_strip : ∀ doc : Json, doc.strip.NullFree
  | .null | .bool _ | .num _ | .str _ => by simp [NullFree, Every]
  | .arr items => by
    rw [strip_arr, NullFree, Every]
    exact everyItem_nullFree_stripItems items
  | .obj members => by
    rw [strip_obj, NullFree, Every]
    refine ⟨fun m hm => ?_, everyMember_nullFree_stripMembers members⟩
    obtain ⟨v, _, hv, hm⟩ := exists_of_mem_stripMembers hm
    simp [hm, hv]

theorem everyItem_nullFree_stripItems : ∀ items : List Json,
    EveryItem (fun members => ∀ m ∈ members, m.2 ≠ .null) (stripItems items)
  | [] => trivial
  | x :: xs => ⟨nullFree_strip x, everyItem_nullFree_stripItems xs⟩

theorem everyMember_nullFree_stripMembers : ∀ members : List (String × Json),
    EveryMember (fun members => ∀ m ∈ members, m.2 ≠ .null) (stripMembers members)
  | [] => trivial
  | (_, v) :: rest => by
    rw [stripMembers_cons]
    split
    · exact everyMember_nullFree_stripMembers rest
    · exact ⟨nullFree_strip v, everyMember_nullFree_stripMembers rest⟩

end

end Json

/-- The document without the members that are null. -/
def Document.strip (d : Document) : Document :=
  ⟨d.json.strip, Json.ordered_strip d.ordered⟩

end StackForm
