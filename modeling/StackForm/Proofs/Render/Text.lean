import StackForm.Proofs.Json.Tidy
import StackForm.Proofs.Render.Template

/-!
# The text of a template

The text of a template is read back as the document of the template, with the members of every
object in the order of their names. Such a document shows everything that a template holds, so a
template is told by its text.
-/

namespace StackForm

/-! ### Sorted objects -/

namespace Keyed

variable {α β : Type}

lemma lookup_map (f : α → β) (entries : List (String × α)) (key : String) :
    (entries.map fun e => (e.1, f e.2)).lookup key = (entries.lookup key).map f := by
  induction entries with
  | nil => rfl
  | cons e rest ih =>
    obtain ⟨k, v⟩ := e
    rw [List.map_cons, lookup_cons, lookup_cons, ih]
    split <;> rfl

lemma keys_map (f : α → β) (entries : List (String × α)) :
    keys (entries.map fun e => (e.1, f e.2)) = keys entries := by
  simp [keys]

lemma Ascending.nodup {entries : List (String × α)} (h : Ascending entries) :
    (keys entries).Nodup := by
  refine List.pairwise_map.2 (h.imp fun hlt heq => ?_)
  rw [heq] at hlt
  exact String.lt_irrefl _ hlt

end Keyed

namespace Json

/-- Sorting does not change which member stands under a name, if each name stands once. -/
lemma lookup_sortedMembers {members done : List (String × Json)} (h : (Keyed.keys members).Nodup)
    (key : String) :
    (sortedMembers done members).lookup key =
      ((members.lookup key).map sorted).or (done.lookup key) := by
  induction members generalizing done with
  | nil => rfl
  | cons m rest ih =>
    obtain ⟨k, v⟩ := m
    obtain ⟨hk, hrest⟩ := List.nodup_cons.1 h
    rw [sortedMembers, ih hrest, Keyed.lookup_cons]
    split
    · next heq =>
      have hnone : rest.lookup key = none := by
        rw [List.lookup_eq_none_iff]
        rintro ⟨k', v'⟩ hmem
        have hne : k' ≠ k := fun heq => hk (List.mem_map.2 ⟨_, hmem, heq⟩)
        simpa [heq] using hne.symm
      rw [hnone, heq, Keyed.lookup_insert_self]
      rfl
    · next hne => rw [Keyed.lookup_insert_of_ne hne]

lemma get?_sorted {members : List (String × Json)} (h : (Keyed.keys members).Nodup) (key : String) :
    (obj members).sorted.get? key = ((obj members).get? key).map sorted := by
  show (sortedMembers [] members).lookup key = _
  rw [lookup_sortedMembers h]
  exact Option.or_none

/-- The members that a map is shown as, by the keys of its entries. -/
lemma get?_sorted_entries {α : Type} (f : α → Json) (map : KeyMap α) (key : String) :
    (obj (map.entries.map fun e => (e.1, f e.2))).sorted.get? key =
      (map.get? key).map fun a => (f a).sorted := by
  rw [get?_sorted (by rw [Keyed.keys_map]; exact map.ascending.nodup)]
  show ((map.entries.map fun e => (e.1, f e.2)).lookup key).map sorted = _
  rw [Keyed.lookup_map, Option.map_map]
  rfl

end Json

/-! ### Templates -/

open Json

namespace Template

/-- The document shows the template: its version and description, and every resource and output with
what it holds. -/
structure ShownBy (t : Template) (doc : Json) : Prop where
  version : doc.at? ["AWSTemplateFormatVersion"] = some (.str t.formatVersion)
  description : doc.at? ["Description"] = t.description.map .str
  type : ∀ name, doc.at? ["Resources", name, "Type"] = (t.resource? name).map (.str ·.type)
  property : ∀ name key,
    doc.at? ["Resources", name, "Properties", key] = (t.resource? name).bind (·.get? key)
  outputDescription : ∀ name, doc.at? ["Outputs", name, "Description"] =
    (t.outputs.get? name).bind fun o => o.description.map .str
  output : ∀ name, doc.at? ["Outputs", name, "Value"] = (t.outputs.get? name).map (·.value)

/-- A document shows the resources of one template at most. -/
lemma ShownBy.resource?_eq {t t' : Template} {doc : Json} (h : t.ShownBy doc) (h' : t'.ShownBy doc)
    (name : String) : t.resource? name = t'.resource? name := by
  have htype := (h.type name).symm.trans (h'.type name)
  cases hr : t.resource? name with
  | none =>
    rw [hr] at htype
    exact (Option.map_eq_none_iff.1 htype.symm).symm
  | some r =>
    rw [hr] at htype
    obtain ⟨r', hr', heq⟩ := Option.map_eq_some_iff.1 htype.symm
    have hproperties : r.properties = r'.properties := by
      apply KeyMap.eq_of_get?
      intro key
      have hproperty := (h.property name key).symm.trans (h'.property name key)
      rwa [hr, hr'] at hproperty
    obtain ⟨type, properties⟩ := r
    obtain ⟨type', properties'⟩ := r'
    obtain rfl : type' = type := Json.str.inj heq
    obtain rfl : properties = properties' := hproperties
    exact hr'.symm

/-- A document shows the outputs of one template at most. -/
lemma ShownBy.output_eq {t t' : Template} {doc : Json} (h : t.ShownBy doc) (h' : t'.ShownBy doc)
    (name : String) : t.outputs.get? name = t'.outputs.get? name := by
  have hvalue := (h.output name).symm.trans (h'.output name)
  have hdescription := (h.outputDescription name).symm.trans (h'.outputDescription name)
  cases ho : t.outputs.get? name with
  | none =>
    rw [ho] at hvalue
    exact (Option.map_eq_none_iff.1 hvalue.symm).symm
  | some o =>
    rw [ho] at hvalue hdescription
    obtain ⟨o', ho', heq⟩ := Option.map_eq_some_iff.1 hvalue.symm
    rw [ho'] at hdescription
    obtain ⟨description, value⟩ := o
    obtain ⟨description', value'⟩ := o'
    obtain rfl : value' = value := heq
    obtain rfl : description = description' :=
      Option.map_injective (fun _ _ => Json.str.inj) hdescription
    exact ho'.symm

/-- A document shows one template at most. -/
lemma ShownBy.unique {t t' : Template} {doc : Json} (h : t.ShownBy doc) (h' : t'.ShownBy doc) :
    t = t' := by
  have hversion : t.formatVersion = t'.formatVersion :=
    Json.str.inj (Option.some.inj (h.version.symm.trans h'.version))
  have hdescription : t.description = t'.description :=
    Option.map_injective (fun _ _ => Json.str.inj) (h.description.symm.trans h'.description)
  exact eq_of_resource? hversion hdescription (h.resource?_eq h') (h.output_eq h')

/-! ### The document of a template -/

variable (t : Template)

lemma get?_sorted_document (key : String) :
    t.document.sorted.get? key = (t.document.get? key).map sorted := by
  rw [document]
  apply get?_sorted
  cases t.description <;> cases t.outputs.isEmpty <;> simp [Keyed.keys]

lemma get?_document_version :
    t.document.get? "AWSTemplateFormatVersion" = some (.str t.formatVersion) := by
  rw [document]
  cases t.description <;> cases t.outputs.isEmpty <;> rfl

lemma get?_document_description : t.document.get? "Description" = t.description.map .str := by
  rw [document]
  cases t.description <;> cases t.outputs.isEmpty <;> rfl

lemma get?_document_resources :
    t.document.get? "Resources" =
      some (.obj (t.resources.entries.map fun entry => (entry.1, entry.2.document))) := by
  rw [document]
  cases t.description <;> cases t.outputs.isEmpty <;> rfl

lemma get?_document_outputs :
    t.document.get? "Outputs" = if t.outputs.isEmpty then none
      else some (.obj (t.outputs.entries.map fun entry => (entry.1, entry.2.document))) := by
  rw [document]
  cases t.description <;> cases t.outputs.isEmpty <;> rfl

variable {t}

/-- Everything that the template holds is tidy. -/
structure Tidy (t : Template) (levels : Nat) : Prop where
  property : ∀ r ∈ t.resources.entries, ∀ p ∈ r.2.properties.entries, p.2.Tidy levels
  output : ∀ o ∈ t.outputs.entries, o.2.value.Tidy (levels + 1)

variable {levels : Nat}

lemma Tidy.plain (h : t.Tidy levels) : t.document.Plain (levels + 4) := by
  have hresources : ∀ e ∈ t.resources.entries.map fun entry => (entry.1, entry.2.document),
      e.2.Plain (levels + 2) := by
    rw [List.forall_mem_map]
    intro r hr
    show ∀ m ∈ [("Type", str r.2.type), ("Properties", .obj r.2.properties.entries)],
      m.2.Plain (levels + 1)
    rw [List.forall_mem_cons, List.forall_mem_singleton]
    exact ⟨trivial, fun p hp => (h.property r hr p hp).plain⟩
  have houtputs : ∀ e ∈ t.outputs.entries.map fun entry => (entry.1, entry.2.document),
      e.2.Plain (levels + 2) := by
    rw [List.forall_mem_map]
    intro o ho
    have hvalue := (h.output o ho).plain
    rw [Output.document]
    cases o.2.description with
    | none => exact List.forall_mem_singleton.2 hvalue
    | some text => exact List.forall_mem_cons.2 ⟨trivial, List.forall_mem_singleton.2 hvalue⟩
  have hmembers : ∀ members : List (String × Json), (∀ m ∈ members, m.2.Plain (levels + 3)) →
      (Json.obj members).Plain (levels + 4) := fun _ hm => hm
  apply hmembers
  simp only [List.forall_mem_append, List.forall_mem_singleton]
  refine ⟨⟨⟨trivial, ?_⟩, hresources⟩, ?_⟩
  · cases t.description with
    | none => exact nofun
    | some text => exact List.forall_mem_singleton.2 trivial
  · cases t.outputs.isEmpty with
    | true => exact nofun
    | false => exact List.forall_mem_singleton.2 houtputs

lemma get?_sorted_properties {r : Resource} (h : ∀ p ∈ r.properties.entries, p.2.Tidy levels) :
    r.document.sorted.get? "Properties" = some (.obj r.properties.entries) := by
  have hordered := (tidy_obj r.properties.ascending h).ordered
  rw [Resource.document, get?_sorted (by simp [Keyed.keys])]
  show some (sorted (.obj r.properties.entries)) = _
  rw [sorted_of_ordered hordered]

lemma get?_sorted_type (r : Resource) : r.document.sorted.get? "Type" = some (.str r.type) := by
  rw [Resource.document, get?_sorted (by simp [Keyed.keys])]
  rfl

lemma at?_resources (t : Template) (name : String) (keys : List String) :
    t.document.sorted.at? ("Resources" :: name :: keys) =
      (t.resource? name).bind (·.document.sorted.at? keys) := by
  rw [at?_cons, get?_sorted_document, get?_document_resources]
  show ((obj _).sorted.get? name).bind _ = _
  rw [get?_sorted_entries, Option.bind_map]
  rfl

lemma get?_sorted_output (o : Output) (key : String) :
    o.document.sorted.get? key = (o.document.get? key).map sorted := by
  rw [Output.document]
  apply get?_sorted
  cases o.description <;> simp [Keyed.keys]

lemma get?_document_output (o : Output) : o.document.get? "Value" = some o.value := by
  rw [Output.document]
  cases o.description <;> rfl

lemma get?_document_outputDescription (o : Output) :
    o.document.get? "Description" = o.description.map .str := by
  rw [Output.document]
  cases o.description <;> rfl

lemma at?_outputs (t : Template) (name : String) (keys : List String) :
    t.document.sorted.at? ("Outputs" :: name :: keys) =
      (t.outputs.get? name).bind (·.document.sorted.at? keys) := by
  rw [at?_cons, get?_sorted_document, get?_document_outputs]
  cases hempty : t.outputs.isEmpty with
  | true =>
    have hnone : t.outputs.get? name = none := by
      rw [KeyMap.get?, List.isEmpty_iff.1 hempty]
      rfl
    rw [hnone]
    rfl
  | false =>
    show ((obj _).sorted.get? name).bind _ = _
    rw [get?_sorted_entries, Option.bind_map]
    rfl

lemma Tidy.shownBy (h : t.Tidy levels) : t.ShownBy t.document.sorted where
  version := by
    rw [at?_cons, get?_sorted_document, get?_document_version]
    rfl
  description := by
    rw [at?_cons, get?_sorted_document, get?_document_description]
    cases t.description <;> rfl
  type := by
    intro name
    rw [at?_resources]
    cases t.resource? name with
    | none => rfl
    | some r =>
      rw [Option.bind_some, at?_cons, get?_sorted_type]
      rfl
  property := by
    intro name key
    rw [at?_resources]
    cases hr : t.resource? name with
    | none => rfl
    | some r =>
      have htidy := h.property _ (KeyMap.mem_entries_of_get? hr)
      rw [Option.bind_some, at?_cons, get?_sorted_properties htidy]
      exact Option.bind_fun_some (r.get? key)
  outputDescription := by
    intro name
    rw [at?_outputs]
    cases t.outputs.get? name with
    | none => rfl
    | some o =>
      rw [Option.bind_some, at?_cons, get?_sorted_output, get?_document_outputDescription,
        Option.bind_some]
      cases o.description <;> rfl
  output := by
    intro name
    rw [at?_outputs]
    cases ho : t.outputs.get? name with
    | none => rfl
    | some o =>
      have hordered := (h.output _ (KeyMap.mem_entries_of_get? ho)).ordered
      rw [Option.bind_some, at?_cons, get?_sorted_output, get?_document_output, Option.map_some,
        sorted_of_ordered hordered]
      rfl

/-- The text of a tidy template is read back as a document that shows it. -/
lemma Tidy.parse_text (h : t.Tidy levels) (hlevels : levels + 4 = maxLevels) :
    Json.parse (Utf8.encode t.text) = .ok t.document.sorted := by
  have hplain := h.plain
  rw [hlevels] at hplain
  exact parse_write .indented hplain

end Template

end StackForm
