import StackForm.Cluster.Decode
import StackForm.Proofs.Json.Strip

/-!
# The older spelling of a profile

The document with the current spelling exists unless both spellings are set. It is the document with
one member of its group renamed; all else is as it was.
-/

namespace StackForm.Cluster

open Json

/-- The group is an object that sets the profile under both spellings. -/
def SetsBothSpellings (doc : Json) : Prop :=
  ((doc.part groupKey).get? profileKey).isSome = true ∧
    ((doc.part groupKey).get? legacyProfileKey).isSome = true

instance (doc : Json) : Decidable (SetsBothSpellings doc) :=
  inferInstanceAs (Decidable (_ ∧ _))

/-- The members of a group with the profile renamed. -/
def renamedGroup (group : List (String × Json)) : List (String × Json) :=
  match group.lookup legacyProfileKey with
  | none => group
  | some profile => Keyed.insert profileKey profile (Keyed.erase legacyProfileKey group)

/-- The document with the profile of its group renamed. -/
def renamed : Json → Json
  | .obj members =>
    match members.lookup groupKey with
    | some (.obj group) => .obj (Keyed.insert groupKey (.obj (renamedGroup group)) members)
    | _ => .obj members
  | doc => doc

/-- A document has a group that is an object, or it is not touched. -/
lemma group_cases (doc : Json) :
    (∃ members group, doc = .obj members ∧ members.lookup groupKey = some (.obj group)) ∨
      ((doc.part groupKey).isObject = false ∧ renamed doc = doc ∧
        currentSpelling doc = .ok doc) := by
  cases doc with
  | obj members =>
    have hpart : (obj members).part groupKey = (members.lookup groupKey).getD .null := rfl
    rw [hpart, renamed, currentSpelling]
    cases hg : members.lookup groupKey with
    | none => exact .inr ⟨rfl, rfl, rfl⟩
    | some v =>
      cases v with
      | obj group => exact .inl ⟨members, group, rfl, hg⟩
      | _ => exact .inr ⟨rfl, rfl, rfl⟩
  | _ => exact .inr ⟨rfl, rfl, rfl⟩

lemma renamed_of_not_isObject {doc : Json} (h : (doc.part groupKey).isObject = false) :
    renamed doc = doc := by
  rcases group_cases doc with ⟨members, group, rfl, hg⟩ | ⟨_, hren, _⟩
  · have hpart : (obj members).part groupKey = .obj group := part_of_get? hg
    rw [hpart] at h
    cases h
  · exact hren

lemma renamed_obj {members group : List (String × Json)}
    (hg : members.lookup groupKey = some (.obj group)) :
    renamed (.obj members) =
      .obj (Keyed.insert groupKey (.obj (renamedGroup group)) members) := by
  rw [renamed, hg]

lemma setsBothSpellings_obj {members group : List (String × Json)}
    (hg : members.lookup groupKey = some (.obj group)) :
    SetsBothSpellings (.obj members) ↔
      (group.lookup profileKey).isSome = true ∧ (group.lookup legacyProfileKey).isSome = true := by
  have hpart : (obj members).part groupKey = .obj group := part_of_get? hg
  rw [SetsBothSpellings, hpart]
  rfl

lemma not_setsBothSpellings {doc : Json} (h : (doc.part groupKey).isObject = false) :
    ¬ SetsBothSpellings doc := by
  rw [SetsBothSpellings]
  cases hp : doc.part groupKey <;> simp_all [get?, members?, isObject]

lemma currentGroup_eq (group : List (String × Json)) :
    currentGroup group =
      if (group.lookup profileKey).isSome = true ∧
          (group.lookup legacyProfileKey).isSome = true then
        .error (.malformed (.bothSpellings groupKey profileKey legacyProfileKey))
      else .ok (renamedGroup group) := by
  rw [currentGroup, renamedGroup, Keyed.contains]
  cases group.lookup legacyProfileKey with
  | none => simp
  | some profile => by_cases hc : (group.lookup profileKey).isSome = true <;> simp [hc]

theorem currentSpelling_eq (doc : Json) :
    currentSpelling doc =
      if SetsBothSpellings doc then
        .error (.malformed (.bothSpellings groupKey profileKey legacyProfileKey))
      else .ok (renamed doc) := by
  rcases group_cases doc with ⟨members, group, rfl, hg⟩ | ⟨hobj, hren, hcur⟩
  · rw [currentSpelling, hg, renamed_obj hg]
    simp only [setsBothSpellings_obj hg, currentGroup_eq]
    split <;> rfl
  · rw [hcur, hren, if_neg (not_setsBothSpellings hobj)]

/-! ### What renaming keeps -/

lemma legacyProfileKey_ne : legacyProfileKey ≠ profileKey := by
  decide

lemma ascending_renamedGroup {group : List (String × Json)} (h : Keyed.Ascending group) :
    Keyed.Ascending (renamedGroup group) := by
  rw [renamedGroup]
  split
  · exact h
  · exact (h.erase legacyProfileKey).insert profileKey _

/-- Renaming adds no value. -/
lemma exists_of_mem_renamedGroup {group : List (String × Json)} {m : String × Json}
    (h : m ∈ renamedGroup group) : ∃ m' ∈ group, m'.2 = m.2 := by
  rw [renamedGroup] at h
  split at h
  · exact ⟨m, h, rfl⟩
  · next profile hl =>
    rcases Keyed.mem_insert h with rfl | h
    · obtain ⟨front, back, rfl, _⟩ := List.lookup_eq_some_iff.1 hl
      exact ⟨(legacyProfileKey, profile), by simp, rfl⟩
    · exact ⟨m, (List.mem_filter.1 h).1, rfl⟩

lemma every_renamed {p : List (String × Json) → Prop} {doc : Json}
    (hinsert : ∀ ms key group, p ms → p (Keyed.insert key (.obj group) ms))
    (hgroup : ∀ group, p group → p (renamedGroup group)) (h : doc.Every p) :
    (renamed doc).Every p := by
  rcases group_cases doc with ⟨members, group, rfl, hg⟩ | ⟨_, hren, _⟩
  · have hget : (obj members).get? groupKey = some (.obj group) := hg
    have hobj : (obj group).Every p := h.of_get? hget
    rw [renamed_obj hg]
    refine ⟨hinsert _ _ _ h.1, everyMember_insert ⟨hgroup _ hobj.1, ?_⟩ h.2⟩
    rw [everyMember_iff]
    intro m hm
    obtain ⟨m', hm', heq⟩ := exists_of_mem_renamedGroup hm
    exact heq ▸ everyMember_iff.1 hobj.2 m' hm'
  · rw [hren]
    exact h

lemma ordered_renamed {doc : Json} (h : doc.Ordered) : (renamed doc).Ordered :=
  every_renamed (fun _ _ _ h => h.insert _ _) (fun _ => ascending_renamedGroup) h

lemma nullFree_renamed {doc : Json} (h : doc.NullFree) : (renamed doc).NullFree := by
  refine every_renamed (fun ms key group hms m hm => ?_) (fun group hgroup m hm => ?_) h
  · rcases Keyed.mem_insert hm with rfl | hm
    · simp
    · exact hms m hm
  · obtain ⟨m', hm', heq⟩ := exists_of_mem_renamedGroup hm
    exact heq ▸ hgroup m' hm'

@[simp] lemma isObject_renamed (doc : Json) : (renamed doc).isObject = doc.isObject := by
  rcases group_cases doc with ⟨members, group, rfl, hg⟩ | ⟨_, hren, _⟩
  · rw [renamed_obj hg]
    rfl
  · rw [hren]

/-- Under the older spelling nothing is left. -/
lemma part_legacy_renamed (doc : Json) :
    ((renamed doc).part groupKey).part legacyProfileKey = .null := by
  rcases group_cases doc with ⟨members, group, rfl, hg⟩ | ⟨hobj, hren, _⟩
  · have hgroup : (renamed (.obj members)).part groupKey = .obj (renamedGroup group) := by
      rw [renamed_obj hg]
      exact part_of_get? (Keyed.lookup_insert_self groupKey _ members)
    have hnone : (renamedGroup group).lookup legacyProfileKey = none := by
      rw [renamedGroup]
      split
      · next hl => exact hl
      · rw [Keyed.lookup_insert_of_ne legacyProfileKey_ne, Keyed.lookup_erase_self]
    rw [hgroup]
    simp [part, get?, members?, hnone]
  · rw [hren]
    cases hp : doc.part groupKey <;> simp_all [part, get?, members?, isObject]

/-- Where nothing stands under the older spelling, nothing is renamed. -/
lemma renamed_of_legacy_eq_none {doc : Json} (h : doc.Ordered)
    (hlegacy : (doc.part groupKey).get? legacyProfileKey = none) : renamed doc = doc := by
  rcases group_cases doc with ⟨members, group, rfl, hg⟩ | ⟨_, hren, _⟩
  · have hpart : (obj members).part groupKey = .obj group := part_of_get? hg
    have hgroup : renamedGroup group = group := by
      rw [hpart] at hlegacy
      rw [renamedGroup, show group.lookup legacyProfileKey = none from hlegacy]
    rw [renamed_obj hg, hgroup]
    congr 1
    refine (h.1.insert groupKey _).ext h.1 fun key => ?_
    rw [Keyed.lookup_insert]
    split
    · next hkey => rw [hkey, hg]
    · rfl
  · exact hren

/-! ### Renaming and stripping -/

lemma renamedGroup_stripMembers {group : List (String × Json)} (h : Keyed.Ascending group)
    (hboth : ¬ ((group.lookup profileKey).isSome = true ∧
      (group.lookup legacyProfileKey).isSome = true)) :
    renamedGroup (stripMembers group) = stripMembers (renamedGroup group) := by
  have hs := ascending_stripMembers h
  rw [renamedGroup, renamedGroup, lookup_stripMembers h]
  cases hl : group.lookup legacyProfileKey with
  | none => simp
  | some v =>
    have hp : group.lookup profileKey = none := by
      rw [← Option.not_isSome_iff_eq_none]
      exact fun hsome => hboth ⟨hsome, by rw [hl]; rfl⟩
    by_cases hv : v = .null
    · -- the renamed null is dropped, and so is the null under the older spelling
      simp only [hv, Option.getD_some, if_true, stripMembers_insert _ _ (h.erase _),
        stripMembers_erase _ h]
      refine hs.ext ((hs.erase _).erase _) fun key => ?_
      rw [Keyed.lookup_erase, Keyed.lookup_erase]
      by_cases hkp : key = profileKey
      · simp [hkp, lookup_stripMembers h, hp]
      · by_cases hkl : key = legacyProfileKey
        · simp [hkl, lookup_stripMembers h, hl, hv]
        · simp [hkp, hkl]
    · simp only [hv, Option.getD_some, if_false, stripMembers_insert _ _ (h.erase _),
        stripMembers_erase _ h]

/-- Unless both spellings are set, nulls can be stripped before or after renaming. -/
theorem renamed_strip {doc : Json} (h : doc.Ordered) (hboth : ¬ SetsBothSpellings doc) :
    renamed doc.strip = (renamed doc).strip := by
  rcases group_cases doc with ⟨members, group, rfl, hg⟩ | ⟨hobj, hren, _⟩
  · have hget : (obj members).get? groupKey = some (.obj group) := hg
    have hgroup : (obj group).Ordered := Every.of_get? h hget
    have hstrip : (stripMembers members).lookup groupKey = some (.obj (stripMembers group)) := by
      simp [lookup_stripMembers h.1, hg]
    rw [setsBothSpellings_obj hg] at hboth
    rw [renamed_obj hg, strip_obj, strip_obj, renamed_obj hstrip, stripMembers_insert _ _ h.1,
      if_neg (by simp), renamedGroup_stripMembers hgroup.1 hboth, strip_obj]
  · rw [hren, renamed_of_not_isObject (by rw [part_strip h, isObject_strip, hobj])]

end StackForm.Cluster
