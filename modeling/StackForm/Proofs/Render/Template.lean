import StackForm.Proofs.KeyMap
import StackForm.Render.Template

/-!
# What a template declares

A template that is built from resources under distinct names holds these resources and no others.
A value refers to a resource by its logical name, and references may stand at any depth, among the
properties of a resource or in the value of an output.
-/

namespace StackForm

/-! ### Resources and templates -/

lemma Resource.properties_withProperties (type : String) (properties : List (String × Json)) :
    (withProperties type properties).properties = .ofList properties := by
  have hfold : ∀ (r : Resource), (properties.foldl (fun r p => r.property p.1 p.2) r).properties =
      properties.foldl (fun map pair => map.insert pair.1 pair.2) r.properties := by
    induction properties with
    | nil => exact fun r => rfl
    | cons p rest ih => exact fun r => ih (r.property p.1 p.2)
  exact hfold (ofType type)

lemma Resource.get?_withProperties {type key : String} {value : Json}
    {properties : List (String × Json)} (hnodup : (Keyed.keys properties).Nodup)
    (h : (key, value) ∈ properties) : (withProperties type properties).get? key = some value := by
  rw [get?, properties_withProperties]
  exact KeyMap.get?_ofList_of_mem hnodup h

lemma sublist_ite {α : Type} (p : Bool) (x : α) : List.Sublist (if p then [x] else []) [x] := by
  cases p
  · exact List.nil_sublist _
  · exact List.Sublist.refl _

/-- A property that comes last, or is left out, does not hide the others. -/
lemma Resource.get?_withProperties_ite {type key : String} {value : Json}
    {properties : List (String × Json)} {last : String × Json} {p : Bool}
    (hnodup : (Keyed.keys (properties ++ [last])).Nodup) (h : (key, value) ∈ properties) :
    (withProperties type (properties ++ if p then [last] else [])).get? key = some value := by
  refine get?_withProperties (hnodup.sublist ?_) (List.mem_append_left _ h)
  apply List.Sublist.map
  exact (sublist_ite p last).append_left properties

namespace Template

variable {t : Template}

/-- Templates are told by their version, their description and what stands under each name. -/
lemma eq_of_resource? {t' : Template} (hversion : t.formatVersion = t'.formatVersion)
    (hdescription : t.description = t'.description)
    (hresources : ∀ name, t.resource? name = t'.resource? name)
    (houtputs : ∀ name, t.outputs.get? name = t'.outputs.get? name) : t = t' := by
  obtain ⟨_, _, _, _⟩ := t
  obtain ⟨_, _, _, _⟩ := t'
  rw [Template.mk.injEq]
  exact ⟨hversion, hdescription, KeyMap.eq_of_get? hresources, KeyMap.eq_of_get? houtputs⟩

/-- Resources under new and distinct names can all be declared. -/
lemma addResources_eq_ok {resources : List (String × Resource)}
    (hnodup : (Keyed.keys resources).Nodup)
    (hnew : ∀ name ∈ Keyed.keys resources, t.resources.contains name = false) :
    t.addResources resources =
      .ok { t with
        resources := resources.foldl (fun map r => map.insert r.1 r.2) t.resources } := by
  induction resources generalizing t with
  | nil => rfl
  | cons r rest ih =>
    simp only [Keyed.keys, List.map_cons, List.nodup_cons, List.forall_mem_cons] at hnodup hnew
    have hrest : ∀ name ∈ Keyed.keys rest,
        (t.resources.insert r.1 r.2).contains name = false := by
      intro name hname
      rw [Bool.eq_false_iff]
      intro hc
      rcases (KeyMap.contains_insert t.resources r.1 name r.2).1 hc with rfl | hc
      · exact hnodup.1 hname
      · rw [hnew.2 name hname] at hc
        cases hc
    rw [addResources, List.foldlM_cons, addResource_of_not_contains r.2 hnew.1]
    exact ih (t := { t with resources := t.resources.insert r.1 r.2 }) hnodup.2 hrest

lemma addOutputs_eq (t : Template) (outputs : List (String × Output)) :
    t.addOutputs outputs =
      { t with outputs := outputs.foldl (fun map o => map.insert o.1 o.2) t.outputs } := by
  induction outputs generalizing t with
  | nil => rfl
  | cons o rest ih => exact ih (t.addOutput o.1 o.2)

end Template

/-! ### References -/

namespace Json

/-- The value stands somewhere in the document. -/
inductive Occurs (v : Json) : Json → Prop where
  | self : Occurs v v
  | item {x : Json} {items : List Json} : x ∈ items → Occurs v x → Occurs v (.arr items)
  | member {m : String × Json} {members : List (String × Json)} :
      m ∈ members → Occurs v m.2 → Occurs v (.obj members)

/-- The value is a reference to the resource with a logical name, or to an attribute of it. -/
inductive IsReference (name : String) : Json → Prop where
  | value : IsReference name (.obj [("Ref", .str name)])
  | attribute (attr : Json) : IsReference name (.obj [("Fn::GetAtt", .arr [.str name, attr])])

/-- A reference to the name stands somewhere in the document. -/
def Mentions (name : String) (doc : Json) : Prop :=
  ∃ v, v.IsReference name ∧ Occurs v doc

variable {name : String}

lemma isReference_iff {v : Json} :
    v.IsReference name ↔ v = .obj [("Ref", .str name)] ∨
      ∃ attr, v = .obj [("Fn::GetAtt", .arr [.str name, attr])] := by
  constructor
  · rintro (_ | ⟨attr⟩)
    · exact .inl rfl
    · exact .inr ⟨attr, rfl⟩
  · rintro (rfl | ⟨attr, rfl⟩)
    · exact .value
    · exact .attribute attr

/-- Plain values mention nothing, whatever they hold. -/
@[simp] lemma not_mentions_str (s : String) : ¬ Mentions name (.str s) := by
  rintro ⟨v, hv, ho⟩
  cases ho
  cases hv

@[simp] lemma not_mentions_bool (b : Bool) : ¬ Mentions name (.bool b) := by
  rintro ⟨v, hv, ho⟩
  cases ho
  cases hv

@[simp] lemma mentions_arr {items : List Json} :
    Mentions name (.arr items) ↔ ∃ x ∈ items, Mentions name x := by
  constructor
  · rintro ⟨v, hv, ho⟩
    cases ho with
    | self => cases hv
    | item hx ho => exact ⟨_, hx, v, hv, ho⟩
  · rintro ⟨x, hx, v, hv, ho⟩
    exact ⟨v, hv, .item hx ho⟩

lemma mentions_obj {members : List (String × Json)} :
    Mentions name (.obj members) ↔
      (obj members).IsReference name ∨ ∃ m ∈ members, Mentions name m.2 := by
  constructor
  · rintro ⟨v, hv, ho⟩
    cases ho with
    | self => exact .inl hv
    | member hm ho => exact .inr ⟨_, hm, v, hv, ho⟩
  · rintro (hv | ⟨m, hm, v, hv, ho⟩)
    · exact ⟨_, hv, .self⟩
    · exact ⟨v, hv, .member hm ho⟩

/-- Texts are no references. -/
@[simp] lemma not_mentions_strings (texts : List String) : ¬ Mentions name (.strings texts) := by
  simp [strings]

@[simp] lemma mentions_reference {other : String} :
    Mentions name (reference other) ↔ name = other := by
  simp [reference, mentions_obj, isReference_iff, eq_comm]

@[simp] lemma mentions_attributeOf {other attr : String} :
    Mentions name (attributeOf other attr) ↔ name = other := by
  simp [attributeOf, mentions_obj, isReference_iff, strings, eq_comm]

end Json

/-- A reference to the name stands somewhere among the properties. -/
def Resource.Mentions (r : Resource) (name : String) : Prop :=
  Json.Mentions name (.obj r.properties.entries)

/-- A reference to the name stands somewhere in a resource, or in the value of an output. -/
def Template.Mentions (t : Template) (name : String) : Prop :=
  (∃ r ∈ t.resources.entries, r.2.Mentions name) ∨
    ∃ o ∈ t.outputs.entries, Json.Mentions name o.2.value

/-- Unless a property has the name of an intrinsic function, references stand in the values of the
properties only. -/
lemma Resource.Mentions.exists_property {type name : String} {properties : List (String × Json)}
    (h : (withProperties type properties).Mentions name)
    (hkeys : ∀ key ∈ Keyed.keys properties, key ≠ "Ref" ∧ key ≠ "Fn::GetAtt") :
    ∃ p ∈ properties, Json.Mentions name p.2 := by
  rw [Mentions, properties_withProperties] at h
  rcases Json.mentions_obj.1 h with h | ⟨p, hp, h⟩
  · have hmem : ∀ e ∈ (KeyMap.ofList properties).entries, e.1 ∈ Keyed.keys properties :=
      fun e he => List.mem_map_of_mem (KeyMap.mem_of_mem_ofList he)
    rcases Json.isReference_iff.1 h with h | ⟨attr, h⟩
    · rw [Json.obj.inj h] at hmem
      exact absurd rfl (hkeys _ (hmem _ List.mem_cons_self)).1
    · rw [Json.obj.inj h] at hmem
      exact absurd rfl (hkeys _ (hmem _ List.mem_cons_self)).2
  · exact ⟨p, KeyMap.mem_of_mem_ofList hp, h⟩

end StackForm
