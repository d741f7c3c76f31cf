import StackForm.Proofs.Cluster.Decode
import StackForm.Proofs.Cluster.Validity
import StackForm.Proofs.Json.Tidy
import StackForm.Stack.Load

/-!
# Saving and loading clusters

The document of a cluster, with the kind added, is a configuration that describes the cluster:
decoding it onto the initial cluster gives the cluster back, whatever its texts are and whichever of
its optional parts are there. Loading its text gives the same cluster if that is valid, and the
complaint of its validation if not.
-/

namespace StackForm

open Json

/-! ### The documents of clusters are tidy -/

variable (levels : Nat)

lemma Subnets.tidy_toDocument (s : Subnets) : s.toDocument.Tidy (levels + 2) := by
  apply tidy_obj
  · exact .of_keys ["ids", "tag", "tagName"] rfl (by decide)
  · simp [tidy_str, tidy_strings]

lemma Policy.tidy_toDocument (p : Policy) : p.toDocument.Tidy (levels + 2) := by
  apply tidy_obj
  · exact .of_keys ["action", "effect"] rfl (by decide)
  · simp [tidy_str, tidy_strings]

lemma InstanceProfile.tidy_toDocument (p : InstanceProfile) :
    p.toDocument.Tidy (levels + 3) := by
  apply tidy_obj
  · cases p.policy with
    | none => exact .of_keys ["roles"] rfl (by decide)
    | some q => exact .of_keys ["policy", "roles"] rfl (by decide)
  · cases p.policy <;> simp [optionalMember, tidy_strings, Policy.tidy_toDocument]

lemma MachineGroup.tidy_toDocument (g : MachineGroup) : g.toDocument.Tidy (levels + 4) := by
  apply tidy_obj
  · cases g.profile with
    | none => exact .of_keys ["image", "instanceType", "subnets"] rfl (by decide)
    | some p =>
      exact .of_keys ["iamInstanceProfile", "image", "instanceType", "subnets"] rfl (by decide)
  · cases g.profile <;> simp [optionalMember, tidy_str, Subnets.tidy_toDocument,
      InstanceProfile.tidy_toDocument]

lemma HealthCheck.tidy_toDocument (h : HealthCheck) : h.toDocument.Tidy (levels + 1) := by
  apply tidy_obj
  · exact .of_keys ["healthyThreshold", "interval", "target", "timeout", "unhealthyThreshold"] rfl
      (by decide)
  · simp [tidy_str]

lemma LoadBalancer.tidy_toDocument (b : LoadBalancer) : b.toDocument.Tidy (levels + 3) := by
  apply tidy_obj
  · exact .of_keys ["healthCheck", "public", "scheme", "subnets"] rfl (by decide)
  · simp [tidy_str, tidy_bool, Subnets.tidy_toDocument, HealthCheck.tidy_toDocument]

lemma Cluster.tidy_toDocument (c : Cluster) : c.toDocument.Tidy (levels + 5) := by
  apply tidy_obj
  · cases c.balancer with
    | none => exact .of_keys ["autoscalingGroup", "name", "region", "vpcId"] rfl (by decide)
    | some b =>
      exact .of_keys ["autoscalingGroup", "loadBalancer", "name", "region", "vpcId"] rfl
        (by decide)
  · cases c.balancer <;> simp [optionalMember, tidy_str, MachineGroup.tidy_toDocument,
      LoadBalancer.tidy_toDocument]

/-! ### The documents of clusters have the right shapes -/

/-- A part that shows an optional record is shaped like the record, or null. -/
lemma Json.ShowsOption.shaped {α : Type} {shows : α → Json → Prop} {shaped : Json → Prop}
    {v : Json} {o : Option α} (h : v.ShowsOption shows o) (hnull : shaped .null)
    (hshaped : ∀ a, shows a v → shaped v) : shaped v := by
  cases o with
  | none => exact (show v = .null from h) ▸ hnull
  | some a => exact hshaped a h

variable {v : Json}

lemma Subnets.Shown.shaped {s : Subnets} (h : s.Shown v) : Shaped v :=
  ⟨.inr h.object, h.tag.admits, h.tagName.admits, h.ids.admits⟩

lemma Policy.Shown.shaped {p : Policy} (h : p.Shown v) : Shaped v :=
  ⟨.inr h.object, h.effect.admits, h.action.admits⟩

lemma InstanceProfile.Shown.shaped {p : InstanceProfile} (h : p.Shown v) : Shaped v where
  object := .inr h.object
  roles := h.roles.admits
  policy := h.policy.shaped (by simp [Policy.shaped_iff]) fun _ hp => hp.shaped

lemma MachineGroup.Shown.shaped {g : MachineGroup} (h : g.Shown v) : Shaped v where
  object := .inr h.object
  image := h.image.admits
  instanceType := h.instanceType.admits
  subnets := h.subnets.shaped
  profile := h.profile.shaped (by simp [InstanceProfile.shaped_iff, Policy.shaped_iff])
    fun _ hp => hp.shaped

lemma HealthCheck.Shown.shaped {c : HealthCheck} (h : c.Shown v) : Shaped v :=
  ⟨.inr h.object, h.target.admits, h.healthyThreshold.admits, h.unhealthyThreshold.admits,
    h.interval.admits, h.timeout.admits⟩

lemma LoadBalancer.Shown.shaped {b : LoadBalancer} (h : b.Shown v) : Shaped v :=
  ⟨.inr h.object, h.scheme.admits, h.isPublic, h.healthCheck.shaped, h.subnets.shaped⟩

lemma Cluster.Shown.shaped {c : Cluster} (h : c.Shown v) : Shaped v where
  name := h.name.admits
  region := h.region.admits
  vpcId := h.vpcId.admits
  group := h.group.shaped
  balancer := h.balancer.shaped
    (by simp [LoadBalancer.shaped_iff, HealthCheck.shaped_iff, Subnets.shaped_iff])
    fun _ hb => hb.shaped

/-! ### The document of a cluster holds all its fields -/

/-- An optional record that was not there is the one that is written. -/
lemma Json.recordOr_map {α : Type} {update : α → Json → α} {zero : α} {write : α → Json}
    (hobj : ∀ a, (write a).isObject = true) (hupdate : ∀ a, update zero (write a) = a)
    (o : Option α) : ((o.map write).getD .null).recordOr update zero none = o := by
  cases o with
  | none => rfl
  | some a => simp [recordOr, hobj, hupdate]

lemma Subnets.update_toDocument (old s : Subnets) : old.update s.toDocument = s := by
  simp [update, toDocument, part]

lemma Policy.update_toDocument (old p : Policy) : old.update p.toDocument = p := by
  simp [update, toDocument, part]

lemma InstanceProfile.update_toDocument (p : InstanceProfile) : zero.update p.toDocument = p := by
  have hpolicy := recordOr_map (fun _ => rfl) (Policy.update_toDocument .zero) p.policy
  simp [update, toDocument, part, zero, hpolicy]

lemma MachineGroup.update_toDocument {old : MachineGroup} (hold : old.profile = none)
    (g : MachineGroup) : old.update g.toDocument = g := by
  have hprofile := recordOr_map (fun _ => rfl) InstanceProfile.update_toDocument g.profile
  simp [update, toDocument, part, hold, Cluster.profileKey, Subnets.update_toDocument, hprofile]

lemma HealthCheck.update_toDocument (old h : HealthCheck) : old.update h.toDocument = h := by
  simp [update, toDocument, part]

lemma LoadBalancer.update_toDocument (old b : LoadBalancer) : old.update b.toDocument = b := by
  simp [update, toDocument, part, HealthCheck.update_toDocument, Subnets.update_toDocument]

namespace Cluster

/-- Nothing of the old cluster is left but optional parts that are not written. -/
lemma update_toDocument {old : Cluster} (hprofile : old.group.profile = none)
    (hbalancer : old.balancer = none) (c : Cluster) : old.update c.toDocument = c := by
  have hoption := recordOr_map (fun _ => rfl) (LoadBalancer.update_toDocument .zero) c.balancer
  simp [update, toDocument, part, hbalancer, groupKey, balancerKey,
    MachineGroup.update_toDocument hprofile, hoption]

end Cluster

/-! ### Saved stacks -/

/-- The object with a member put under a name. -/
def Json.withMember (doc : Json) (key : String) (value : Json) : Json :=
  match doc with
  | .obj members => .obj (Keyed.insert key value members)
  | doc => doc

/-- The configuration that describes a stack: its document, with its kind. -/
def Stack.saved (s : Stack) : Json :=
  s.toDocument.withMember "kind" (.str s.kind)

/-- The configuration as text. -/
def Stack.savedBytes (s : Stack) (spacing : Spacing) : List UInt8 :=
  Utf8.encode (s.saved.write spacing)

namespace Json

lemma part_withMember_of_ne {key other : String} (h : other ≠ key) (doc value : Json) :
    (doc.withMember key value).part other = doc.part other := by
  cases doc with
  | obj members =>
    show ((Keyed.insert key value members).lookup other).getD .null = _
    rw [Keyed.lookup_insert_of_ne h]
    rfl
  | _ => rfl

variable {levels}

lemma Tidy.withMember {doc value : Json} (h : doc.Tidy (levels + 1)) (key : String)
    (hvalue : value.Tidy levels) : (doc.withMember key value).Tidy (levels + 1) := by
  cases doc with
  | obj members =>
    obtain ⟨hasc, hmembers⟩ := h.of_obj
    refine tidy_obj (hasc.insert key value) fun m hm => ?_
    rcases Keyed.mem_insert hm with rfl | hm
    · exact hvalue
    · exact hmembers m hm
  | _ => exact h

end Json

namespace Cluster

variable (c : Cluster)

lemma tidy_saved : (Stack.cluster c).saved.Tidy maxLevels :=
  (c.tidy_toDocument 122).withMember "kind" (tidy_str _ _)

lemma kindOf_saved : kindOf (Stack.cluster c).saved = .ok "Cluster" := by
  rw [Stack.saved, Stack.toDocument, toDocument, withMember, kindOf, Keyed.lookup_insert_self]
  rfl

/-- The kind hides no field of the cluster. -/
lemma part_saved {key : String} (h : key ≠ "kind") :
    (Stack.cluster c).saved.part key = c.toDocument.part key :=
  part_withMember_of_ne h _ _

lemma shaped_saved : Shaped (Stack.cluster c).saved := by
  have hshaped := c.shown_toDocument.shaped
  rw [shaped_iff] at hshaped ⊢
  simpa [part_saved, groupKey, balancerKey] using hshaped

lemma update_saved : initial.update (Stack.cluster c).saved = c := by
  have hupdate : initial.update c.toDocument = c := update_toDocument rfl rfl c
  rw [update] at hupdate ⊢
  simpa [part_saved, groupKey, balancerKey] using hupdate

/-- The group is written under the current spellings. -/
lemma legacy_saved :
    ((Stack.cluster c).saved.part groupKey).get? legacyProfileKey = none := by
  have hgroup : c.toDocument.part groupKey = c.group.toDocument := by
    simp [toDocument, part, groupKey]
  rw [c.part_saved (by decide), hgroup, MachineGroup.get?_legacy_toDocument]

/-- Decoding the saved cluster gives the cluster. -/
lemma decode_saved : initial.decode (Stack.cluster c).saved = .ok c := by
  have hrenamed := renamed_of_legacy_eq_none c.tidy_saved.ordered c.legacy_saved
  rw [decode_eq_ok_iff c.tidy_saved.ordered, hrenamed]
  refine ⟨?_, ?_, initial.not_exposes c.tidy_saved.nullFree, c.update_saved⟩
  · rintro ⟨-, hlegacy⟩
    rw [c.legacy_saved] at hlegacy
    cases hlegacy
  · exact schemaCheck_iff_shaped.2 ⟨rfl, c.shaped_saved⟩

/-- The text of the saved cluster is read back as its document. -/
lemma parse_savedBytes (spacing : Spacing) :
    Format.parse .json ((Stack.cluster c).savedBytes spacing) = .ok (Stack.cluster c).saved :=
  Format.parse_json_eq_ok_iff.2
    (parse_write_of_ordered spacing c.tidy_saved.plain c.tidy_saved.ordered)

/-- The text of the saved cluster describes the cluster. -/
lemma decodeBytes_saved (spacing : Spacing) :
    StackKinds.builtin.decodeBytes ((Stack.cluster c).savedBytes spacing) .json =
      .ok (.cluster c) := by
  have hdecode : (Stack.cluster initial).decode (Stack.cluster c).saved = .ok (.cluster c) := by
    rw [Stack.decode, c.decode_saved]
    rfl
  rw [StackKinds.decodeBytes, c.parse_savedBytes spacing]
  show StackKinds.builtin.decode (Stack.cluster c).saved = _
  rw [StackKinds.decode, c.kindOf_saved]
  exact hdecode

/-- Decoding cannot fail, so all that is left of loading a saved cluster is its validation. -/
lemma load_savedBytes_eq (spacing : Spacing) :
    StackKinds.builtin.load ((Stack.cluster c).savedBytes spacing) .json =
      (c.validate >>= fun _ => .ok (.cluster c)) := by
  rw [StackKinds.load, c.decodeBytes_saved spacing]
  rfl

/-- The text of a saved cluster that is valid is loaded as that cluster. -/
lemma load_savedBytes (h : c.Valid) (spacing : Spacing) :
    StackKinds.builtin.load ((Stack.cluster c).savedBytes spacing) .json = .ok (.cluster c) := by
  rw [c.load_savedBytes_eq spacing, validate_eq_ok_iff.2 h]
  rfl

lemma exists_validation_of_validate {e : StackError} (h : c.validate = .error e) :
    ∃ path rule detail, e = .validation path rule detail := by
  have hreported := c.reported_validate
  rw [h] at hreported
  obtain ⟨k, -, detail, he⟩ := hreported.exists_of_error
  exact ⟨k.path, k.rule, detail, he⟩

/-- Saving a cluster and loading it gives the cluster back. The configuration is decoded to exactly
the cluster, and its text, in either layout, is loaded as that cluster if the cluster is valid; if
not, loading fails as validating the cluster does. -/
theorem load_saved (spacing : Spacing) :
    initial.decode (Stack.cluster c).saved = .ok c ∧
      (c.validate = .ok () →
        StackKinds.builtin.load ((Stack.cluster c).savedBytes spacing) .json =
          .ok (.cluster c)) ∧
      ∀ e, c.validate = .error e →
        (∃ path rule detail, e = .validation path rule detail) ∧
          StackKinds.builtin.load ((Stack.cluster c).savedBytes spacing) .json = .error e := by
  have hload := c.load_savedBytes_eq spacing
  refine ⟨c.decode_saved, fun h => ?_, fun e h => ⟨c.exists_validation_of_validate h, ?_⟩⟩
  · rw [hload, h]
    rfl
  · rw [hload, h]
    rfl

end Cluster

end StackForm
