import StackForm.Proofs.Json.Field

/-!
# Layers of documents

Laying a document over another keeps every object in order and lets no null in, and laying it there
a second time changes nothing. Part by part, the layered document is the layered parts, as long as
only objects meet objects; so a field that is read from two layers is the field of the lower one,
read again from the upper one.
-/

namespace StackForm

namespace Json

/-! ### Laying over nothing, and laying objects -/

@[simp] lemma overlay_null_left (v : Json) : overlay .null v = v := by
  by_cases hv : v = .null
  · rw [hv, overlay_null]
  · exact overlay_of_not_merging hv (by simp [isObject])

lemma merge_ne_null {old : Option Json} {v : Json} (hv : v ≠ .null) : merge old v ≠ .null := by
  cases old with
  | none => exact hv
  | some old =>
    rw [merge]
    by_cases hm : (v.isObject && old.isObject) = true
    · cases v <;> cases old <;> simp [isObject] at hm ⊢
    · rwa [overlay_of_not_merging hv (Bool.eq_false_iff.2 hm)]

lemma isObject_overlay {u v : Json} (hu : u.isObject = true) (hv : v.isObject = true) :
    (overlay u v).isObject = true := by
  cases u <;> cases v <;> simp [isObject] at hu hv ⊢

/-- Where only objects meet objects, layers are looked at part by part. -/
lemma part_overlay {u v : Json} (hu : Shape.object.Admits u) (hv : Shape.object.Admits v)
    (ho : v.Ordered) (key : String) :
    (overlay u v).part key = overlay (u.part key) (v.part key) := by
  rcases hu with rfl | hu
  · rw [overlay_null_left, part_null, overlay_null_left]
  · obtain ⟨members, hmembers, hl⟩ := exists_overlay_obj u hu hv ho
    have hpart : (obj members).part key = (layered (u.get? key) (v.part key)).getD .null :=
      congrArg (·.getD .null) (hl key)
    rw [hmembers, hpart]
    cases hk : u.get? key with
    | none =>
      have hnull : u.part key = .null := by rw [part, hk, Option.getD_none]
      rw [hnull, overlay_null_left, layered]
      split
      · next hv => rw [hv, Option.getD_none]
      · rfl
    | some old => rw [layered_some, Option.getD_some, part_of_get? hk]

/-- A name that stands in neither layer stands nowhere. -/
lemma get?_overlay_eq_none {u v : Json} (hu : Shape.object.Admits u) (hv : Shape.object.Admits v)
    (ho : v.Ordered) {key : String} (hukey : u.get? key = none) (hvkey : v.get? key = none) :
    (overlay u v).get? key = none := by
  rcases hu with rfl | hu
  · rw [overlay_null_left, hvkey]
  · obtain ⟨members, hmembers, hl⟩ := exists_overlay_obj u hu hv ho
    rw [hmembers]
    show members.lookup key = none
    rw [hl, hukey, part, hvkey, Option.getD_none, layered_null]

/-! ### What layering keeps -/

section Every

variable {p : List (String × Json) → Prop}

mutual

/-- What holds of the objects of both documents holds of those of the layered one, if putting a
value among members keeps it. -/
theorem every_overlay
    (hp : ∀ members key v, v ≠ .null → p members → p (Keyed.insert key v members)) :
    ∀ {doc base : Json}, base.Every p → doc.Every p → (overlay base doc).Every p
  | .null, _, hb, _ => by rwa [overlay_null]
  | .bool _, _, _, hd | .num _, _, _, hd | .str _, _, _, hd | .arr _, _, _, hd => by
    rwa [overlay_of_not_merging (by simp) (by simp [isObject])]
  | .obj members, base, hb, hd => by
    cases base with
    | obj under =>
      rw [overlay_obj]
      exact every_overlayMembers hp hb.1 hb.2 hd.2
    | _ => rwa [overlay_of_not_merging (by simp) (by simp [isObject])]

theorem every_overlayMembers
    (hp : ∀ members key v, v ≠ .null → p members → p (Keyed.insert key v members)) :
    ∀ {members under : List (String × Json)}, p under → EveryMember p under →
      EveryMember p members → (obj (overlayMembers under members)).Every p
  | [], _, hu, hevery, _ => ⟨hu, hevery⟩
  | (k, v) :: rest, under, hu, hevery, hd => by
    rw [overlayMembers_cons]
    by_cases hv : v = .null
    · rw [if_pos hv]
      exact every_overlayMembers hp hu hevery hd.2
    · rw [if_neg hv]
      have hmerge : (merge (under.lookup k) v).Every p := by
        cases hl : under.lookup k with
        | none => exact hd.1
        | some old =>
          have hunder : (obj under).Every p := ⟨hu, hevery⟩
          exact every_overlay hp (hunder.of_get? hl) hd.1
      have hne : merge (under.lookup k) v ≠ .null := merge_ne_null hv
      have hinsert := hp under k _ hne hu
      exact every_overlayMembers hp hinsert (everyMember_insert hmerge hevery) hd.2

end

end Every

lemma Ordered.overlay {base doc : Json} (hb : base.Ordered) (hd : doc.Ordered) :
    (overlay base doc).Ordered :=
  every_overlay (fun _ key v _ h => h.insert key v) hb hd

lemma NullFree.overlay {base doc : Json} (hb : base.NullFree) (hd : doc.NullFree) :
    (overlay base doc).NullFree := by
  refine every_overlay (fun members key v hv h m hm => ?_) hb hd
  rcases Keyed.mem_insert hm with rfl | hm
  · exact hv
  · exact h m hm

/-! ### Laying a document twice -/

lemma ordered_null : (null).Ordered := trivial

/-- What has been laid once in a place is found there when it is laid a second time. -/
lemma layered_layered {old : Option Json} {v : Json} (hold : ∀ o ∈ old, o.Ordered)
    (h : ∀ {base : Json}, base.Ordered → overlay (overlay base v) v = overlay base v) :
    layered (layered old v) v = layered old v := by
  by_cases hv : v = .null
  · rw [hv, layered_null]
  cases old with
  | none =>
    have hself : overlay v v = v := by simpa using h ordered_null
    simp [layered, hv, merge, hself]
  | some o => rw [layered_some, layered_some, h (hold o rfl)]

mutual

/-- A document laid a second time over another one finds everything as it would leave it. -/
theorem overlay_overlay_self : ∀ {doc base : Json}, base.Ordered → doc.Ordered →
    overlay (overlay base doc) doc = overlay base doc
  | .null, _, _, _ => overlay_null _
  | .bool _, _, _, _ | .num _, _, _, _ | .str _, _, _, _ | .arr _, _, _, _ =>
    (overlay_of_not_merging (by simp) (by simp [isObject])).trans
      (overlay_of_not_merging (by simp) (by simp [isObject])).symm
  | .obj members, base, hb, hd => by
    have hmember : ∀ key, ∀ {base : Json}, base.Ordered →
        overlay (overlay base ((obj members).part key)) ((obj members).part key) =
          overlay base ((obj members).part key) := fun key _ hb =>
      overlay_overlay_part hd.2 key hb
    -- whatever was below, an object is left, in which every name holds what the second time asks for
    obtain ⟨once, honce, hl⟩ : ∃ once, overlay base (.obj members) = .obj once ∧ ∀ key,
        layered (once.lookup key) ((obj members).part key) = once.lookup key := by
      cases base with
      | obj under =>
        refine ⟨_, overlay_obj under members, fun key => ?_⟩
        rw [lookup_overlayMembers under hd.1]
        exact layered_layered (fun o ho => Every.of_get? hb ho) (hmember key)
      | _ =>
        refine ⟨members, overlay_of_not_merging (by simp) (by simp [isObject]), fun key => ?_⟩
        cases hk : members.lookup key with
        | none => simp [part, get?, members?, hk]
        | some v =>
          have hself := hmember key ordered_null
          have hpart : (obj members).part key = v := part_of_get? hk
          rw [hpart, overlay_null_left] at hself
          rw [hpart, layered_some, hself]
    have hone : (overlay base (.obj members)).Ordered := hb.overlay hd
    have htwo : (overlay (overlay base (.obj members)) (.obj members)).Ordered := hone.overlay hd
    rw [honce, overlay_obj] at htwo
    rw [honce] at hone ⊢
    rw [overlay_obj, obj.injEq]
    refine htwo.1.ext hone.1 fun key => ?_
    rw [lookup_overlayMembers once hd.1]
    exact hl key

theorem overlay_overlay_part : ∀ {members : List (String × Json)},
    EveryMember Keyed.Ascending members → ∀ (key : String) {base : Json}, base.Ordered →
      overlay (overlay base ((obj members).part key)) ((obj members).part key) =
        overlay base ((obj members).part key)
  | [], _, _, _, _ => overlay_null _
  | (k, v) :: rest, h, key, base, hb => by
    by_cases hk : key = k
    · have hpart : (obj ((k, v) :: rest)).part key = v := part_of_get? (by simp [hk])
      rw [hpart]
      exact overlay_overlay_self hb h.1
    · have hpart : (obj ((k, v) :: rest)).part key = (obj rest).part key := by simp [part, hk]
      rw [hpart]
      exact overlay_overlay_part h.2 key hb

end

/-! ### Fields of two layers -/

lemma admits_overlay {shape : Shape} {u v : Json} (hu : shape.Admits u) (hv : shape.Admits v) :
    shape.Admits (overlay u v) := by
  by_cases hnull : v = .null
  · rwa [hnull, overlay_null]
  by_cases hm : (v.isObject && u.isObject) = true
  · obtain ⟨hvobj, huobj⟩ := Bool.and_eq_true_iff.1 hm
    cases v with
    | obj members =>
      cases u with
      | obj under =>
        rw [overlay_obj]
        cases shape with
        | object => exact .inr rfl
        | _ => simp [Shape.Admits, Shape.isMatch, isString, isBool] at hv
      | _ => simp [isObject] at huobj
    | _ => simp [isObject] at hvobj
  · rwa [overlay_of_not_merging hnull (Bool.eq_false_iff.2 hm)]

lemma textOr_overlay {v : Json} (hv : Shape.text.Admits v) (u : Json) (old : String) :
    (overlay u v).textOr old = v.textOr (u.textOr old) := by
  rcases hv with rfl | hv
  · simp
  · cases v with
    | str s => rw [overlay_of_not_merging (by simp) (by simp [isObject]), textOr_str, textOr_str]
    | _ => simp [Shape.isMatch, isString] at hv

lemma flagOr_overlay {v : Json} (hv : Shape.flag.Admits v) (u : Json) (old : Bool) :
    (overlay u v).flagOr old = v.flagOr (u.flagOr old) := by
  rcases hv with rfl | hv
  · simp
  · cases v with
    | bool b => rw [overlay_of_not_merging (by simp) (by simp [isObject]), flagOr_bool, flagOr_bool]
    | _ => simp [Shape.isMatch, isBool] at hv

lemma textsOr_overlay {v : Json} (hv : Shape.texts.Admits v) (u : Json) (old : List String) :
    (overlay u v).textsOr old = v.textsOr (u.textsOr old) := by
  rcases hv with rfl | hv
  · simp
  · cases v with
    | arr items =>
      rw [overlay_of_not_merging (by simp) (by simp [isObject])]
      rfl
    | _ => simp [Shape.isMatch] at hv

/-- A record is begun or updated from the lower layer, then from the upper one. -/
lemma recordOr_overlay {α : Type} {update : α → Json → α} {u v : Json}
    (hu : Shape.object.Admits u) (hv : Shape.object.Admits v)
    (hupdate : ∀ a, update a (overlay u v) = update (update a u) v) (zero : α) (old : Option α) :
    (overlay u v).recordOr update zero old =
      v.recordOr update zero (u.recordOr update zero old) := by
  rcases hu.cases_object with rfl | ⟨under, rfl⟩
  · rw [overlay_null_left]
    rfl
  · rcases hv.cases_object with rfl | ⟨members, rfl⟩
    · rw [overlay_null]
      rfl
    · have hobj : (overlay (.obj under) (.obj members)).isObject = true := isObject_overlay rfl rfl
      rw [recordOr, if_pos hobj, hupdate]
      rfl

end Json

end StackForm
