import StackForm.Proofs.Json.Layers

/-!
# Paths through layered documents

Laying a document over another sets what it holds and touches nothing else. Both laws are about one
path, and follow it key by key: at every key the two documents that stand there are layered in turn,
until the upper one holds a value that replaces what is below, or has nothing to say.
-/

namespace StackForm

namespace Json

variable {base doc v : Json} {key : String}

/-! ### One key -/

/-- Where an object is laid over anything, a member that is not null is laid over what stands in its
place, if anything does. -/
lemma get?_overlay_of_get? (ho : doc.Ordered) (hkey : doc.get? key = some v) (hv : v ≠ .null) :
    (overlay base doc).get? key = some (overlay (base.part key) v) := by
  have hd : doc.isObject = true := isObject_of_get? hkey
  cases hb : base.isObject with
  | true =>
    obtain ⟨members, hmembers, hl⟩ := exists_overlay_obj base hb (.inr hd) ho
    have hlookup : members.lookup key = layered (base.get? key) v := by
      rw [hl, part_of_get? hkey]
    rw [hmembers]
    show members.lookup key = _
    rw [hlookup, layered, if_neg hv, part]
    cases base.get? key with
    | none => rw [merge, Option.getD_none, overlay_null_left]
    | some old => rfl
  | false =>
    have hnull : doc ≠ .null := by
      rintro rfl
      cases hd
    rw [overlay_of_not_merging hnull (by rw [hb, Bool.and_false]), hkey,
      part_of_not_isObject hb, overlay_null_left]

/-- Where an object is laid over an object, a name that is missing or null in the upper one keeps
what it holds in the lower one. -/
lemma get?_overlay_of_part_eq_null (hb : base.isObject = true) (hd : doc.isObject = true)
    (ho : doc.Ordered) (hkey : doc.part key = .null) :
    (overlay base doc).get? key = base.get? key := by
  obtain ⟨members, hmembers, hl⟩ := exists_overlay_obj base hb (.inr hd) ho
  rw [hmembers]
  show members.lookup key = _
  rw [hl, hkey, layered_null]

/-! ### Paths -/

/-- The keys lead, through objects, to an object. -/
def LeadsToObject (doc : Json) (keys : List String) : Prop :=
  ∃ members, doc.at? keys = some (.obj members)

/-- Nothing or null stands where the keys lead. -/
def SaysNothing (doc : Json) (keys : List String) : Prop :=
  doc.at? keys = none ∨ doc.at? keys = some .null

lemma LeadsToObject.isObject (h : doc.LeadsToObject []) : doc.isObject = true := by
  obtain ⟨members, hmembers⟩ := h
  obtain rfl := Option.some.inj hmembers
  rfl

lemma LeadsToObject.exists_get? {keys : List String} (h : doc.LeadsToObject (key :: keys)) :
    ∃ v, doc.get? key = some v ∧ v ≠ .null ∧ v.LeadsToObject keys := by
  obtain ⟨members, hmembers⟩ := h
  obtain ⟨v, hkey, hv⟩ := Option.bind_eq_some_iff.1 hmembers
  refine ⟨v, hkey, ?_, members, hv⟩
  rintro rfl
  cases keys <;> cases hv

/-- What the upper document holds, and what is no object and not null, is found in its place. -/
lemma at?_overlay_of_at? {keys : List String} (ho : doc.Ordered) (h : doc.at? keys = some v)
    (hv : v ≠ .null) (hobj : v.isObject = false) : (overlay base doc).at? keys = some v := by
  induction keys generalizing base doc with
  | nil =>
    obtain rfl := Option.some.inj h
    rw [at?_nil, overlay_of_not_merging hv (by rw [hobj, Bool.false_and])]
  | cons key keys ih =>
    obtain ⟨w, hkey, hw⟩ := Option.bind_eq_some_iff.1 h
    have hnull : w ≠ .null := by
      rintro rfl
      cases keys with
      | nil => exact hv (Option.some.inj hw).symm
      | cons key' keys => cases hw
    rw [at?_cons, get?_overlay_of_get? ho hkey hnull]
    exact ih (ho.of_get? hkey) hw

/-- Where the upper document says nothing, what stands in the lower one is kept, and so is all that
stands below. -/
lemma at?_overlay_of_saysNothing {front back : List String} (ho : doc.Ordered)
    (hb : base.LeadsToObject front) (hd : doc.LeadsToObject front)
    (h : doc.SaysNothing (front ++ [key])) :
    (overlay base doc).at? (front ++ key :: back) = base.at? (front ++ key :: back) := by
  induction front generalizing base doc with
  | nil =>
    have hpart : doc.part key = .null := by
      rw [SaysNothing, List.nil_append, at?_cons] at h
      rw [part]
      cases hkey : doc.get? key with
      | none => rfl
      | some v => simpa [hkey] using h
    rw [List.nil_append, at?_cons, at?_cons,
      get?_overlay_of_part_eq_null hb.isObject hd.isObject ho hpart]
  | cons first front ih =>
    obtain ⟨b, hbkey, -, hb⟩ := hb.exists_get?
    obtain ⟨d, hdkey, hnull, hd⟩ := hd.exists_get?
    have hbelow : d.SaysNothing (front ++ [key]) := by
      simpa [SaysNothing, hdkey] using h
    rw [List.cons_append, at?_cons, at?_cons, get?_overlay_of_get? ho hdkey hnull,
      part_of_get? hbkey, hbkey]
    exact ih (ho.of_get? hdkey) hb hd hbelow

/-- The law of paths. A value of the upper document that is no object and not null is found at its
own path, whatever was below. Where both documents have an object and the upper one says nothing of
a name, the lower one is kept under that name at every depth. Null, and the empty object over an
object, change nothing. -/
theorem overlay_sets_and_keeps (base : Json) (doc : Document) :
    (∀ (keys : List String) (v : Json), doc.json.at? keys = some v → v ≠ .null →
      v.isObject = false → (overlay base doc.json).at? keys = some v) ∧
    (∀ (front : List String) (key : String) (back : List String), base.LeadsToObject front →
      doc.json.LeadsToObject front → doc.json.SaysNothing (front ++ [key]) →
      (overlay base doc.json).at? (front ++ key :: back) = base.at? (front ++ key :: back)) ∧
    overlay base .null = base ∧ (base.isObject = true → overlay base (.obj []) = base) := by
  refine ⟨fun keys v h hv hobj => at?_overlay_of_at? doc.ordered h hv hobj,
    fun front key back hb hd h => at?_overlay_of_saysNothing doc.ordered hb hd h,
    overlay_null base, fun hb => ?_⟩
  cases base with
  | obj under => rw [overlay_obj, overlayMembers]
  | _ => cases hb

/-- A text is laid over an object, and a null beside it over a text. -/
theorem overlay_sets_and_keeps_subnets :
    ∃ (base : Json) (doc : Document),
      doc.json.at? ["subnets", "tag"] = some (.str "db") ∧
      (overlay base doc.json).at? ["subnets", "tag"] = some (.str "db") ∧
      base.LeadsToObject ["subnets"] ∧ doc.json.LeadsToObject ["subnets"] ∧
      doc.json.SaysNothing ["subnets", "tagName"] ∧
      (overlay base doc.json).at? ["subnets", "tagName"] = some (.str "Name") ∧
      base.isObject = true ∧ overlay base (.obj []) = base := by
  let base : Json := .obj [("image", .str "ami-2b"),
    ("subnets", .obj [("tag", .obj [("older", .str "web")]), ("tagName", .str "Name")])]
  let upper : Json := .obj [("subnets", .obj [("tag", .str "db"), ("tagName", .null)])]
  let doc : Document := ⟨upper, ordered_sorted upper⟩
  have hbase : base.LeadsToObject ["subnets"] := ⟨_, rfl⟩
  have hdoc : doc.json.LeadsToObject ["subnets"] := ⟨_, rfl⟩
  have hnothing : doc.json.SaysNothing ["subnets", "tagName"] := .inr rfl
  obtain ⟨hsets, hkeeps, -, hempty⟩ := overlay_sets_and_keeps base doc
  exact ⟨base, doc, rfl, hsets ["subnets", "tag"] _ rfl (by simp) rfl, hbase, hdoc, hnothing,
    hkeeps ["subnets"] "tagName" [] hbase hdoc hnothing, rfl, hempty rfl⟩

end Json

end StackForm
