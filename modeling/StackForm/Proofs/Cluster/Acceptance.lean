import StackForm.Proofs.Cluster.Decode
import StackForm.Proofs.Cluster.Validity

/-!
# Accepting documents and accepting clusters

A document can be checked as it stands, or decoded and checked as a cluster. The cluster is filled
up: each record that every cluster has is there, if only with empty fields. The document need not
have it, and the table then asks for it. Both ways agree, because an empty record fails a check of
its own.
-/

namespace StackForm

open Json Rule Constraint

/-! ### Complete documents -/

/-- The part has the records that every balancer has. -/
structure LoadBalancer.Complete (v : Json) : Prop where
  healthCheck : (v.part "healthCheck").isObject = true
  subnets : (v.part "subnets").isObject = true

/-- The document has the records that every cluster has, and those of its balancer if it has one. -/
structure Cluster.Complete (n : Json) : Prop where
  group : (n.part groupKey).isObject = true
  subnets : ((n.part groupKey).part "subnets").isObject = true
  balancer : (n.part balancerKey).isObject = true → LoadBalancer.Complete (n.part balancerKey)

lemma Json.showsOption_recordOr {α : Type} {shows : α → Json → Prop} {update : α → Json → α}
    {zero : α} {v : Json} (hv : Shape.object.Admits v)
    (h : v.isObject = true → shows (update zero v) v) :
    v.ShowsOption shows (v.recordOr update zero none) := by
  rcases hv.cases_object with rfl | ⟨ms, rfl⟩
  · rfl
  · exact h rfl

lemma Subnets.shown_update {v : Json} (h : Shaped v) (hv : v.isObject = true) :
    (zero.update v).Shown v :=
  ⟨hv, h.tag.holdsText, h.tagName.holdsText, h.ids.holdsTexts⟩

lemma Policy.shown_update {v : Json} (h : Shaped v) (hv : v.isObject = true) :
    (zero.update v).Shown v :=
  ⟨hv, h.effect.holdsText, h.action.holdsTexts⟩

lemma InstanceProfile.shown_update {v : Json} (h : Shaped v) (hv : v.isObject = true) :
    (zero.update v).Shown v :=
  ⟨hv, h.roles.holdsTexts, showsOption_recordOr h.policy.object (Policy.shown_update h.policy)⟩

lemma MachineGroup.shown_update {v : Json} (h : Shaped v) (hv : v.isObject = true)
    (hsubnets : (v.part "subnets").isObject = true) : (zero.update v).Shown v :=
  ⟨hv, h.image.holdsText, h.instanceType.holdsText, Subnets.shown_update h.subnets hsubnets,
    showsOption_recordOr h.profile.object (InstanceProfile.shown_update h.profile)⟩

lemma HealthCheck.shown_update {v : Json} (h : Shaped v) (hv : v.isObject = true) :
    (zero.update v).Shown v :=
  ⟨hv, h.target.holdsText, h.healthyThreshold.holdsText, h.unhealthyThreshold.holdsText,
    h.interval.holdsText, h.timeout.holdsText⟩

lemma LoadBalancer.shown_update {v : Json} (h : Shaped v) (hv : v.isObject = true)
    (hcomplete : Complete v) : (zero.update v).Shown v :=
  ⟨hv, h.scheme.holdsText, h.isPublic,
    HealthCheck.shown_update h.healthCheck hcomplete.healthCheck,
    Subnets.shown_update h.subnets hcomplete.subnets⟩

namespace Cluster

/-- A complete document shows the cluster that it makes of an empty one. -/
lemma shown_update {n : Json} (h : Shaped n) (hcomplete : Complete n) : (zero.update n).Shown n :=
  ⟨h.name.holdsText, h.region.holdsText, h.vpcId.holdsText,
    MachineGroup.shown_update h.group hcomplete.group hcomplete.subnets,
    showsOption_recordOr h.balancer.object fun hv =>
      LoadBalancer.shown_update h.balancer hv (hcomplete.balancer hv)⟩

/-! ### What is accepted is complete -/

open ConstraintTable

lemma isObject_of_checkOne {table : ConstraintTable} {rules : RuleSet} {doc : Json} {path : String}
    (hskip : table.skips (require path .object) doc = false)
    (h : table.checkOne rules doc (require path .object) = .ok ()) :
    (doc.reach (pathKeys path)).isObject = true := by
  rw [checkOne_of_not_skips hskip] at h
  split at h
  · cases h
  · split at h
    · next hmatch => exact hmatch
    · cases h

/-- The table asks for each record. -/
lemma complete_of_validate {n : Json} (h : constraints.validate n .standard = .ok ()) :
    Complete n := by
  have hall : ∀ k ∈ constraints, constraints.checkOne .standard n k = .ok () :=
    forM_eq_ok_iff.1 h
  obtain ⟨htop, -, -, hbelow⟩ := optionalAbove_constraints
  have hgroup : ∀ path, require path .object ∈ MachineGroup.constraints →
      (n.reach (pathKeys path)).isObject = true := by
    intro path hk
    refine isObject_of_checkOne (not_skips ?_) (hall _ (by simp [constraints_eq, hk]))
    simp [htop (require path .object) (by simp [hk])]
  have hbalancer : (n.part balancerKey).isObject = true →
      ∀ path, require path .object ∈ LoadBalancer.constraints →
        (n.reach (pathKeys path)).isObject = true := by
    intro hb path hk
    refine isObject_of_checkOne (not_skips ?_) (hall _ (by simp [constraints_eq, hk]))
    have hthere : (n.reach (pathKeys "loadBalancer")).isAbsent = false := isAbsent_of_isObject hb
    simpa [hbelow _ hk] using hthere
  refine ⟨hgroup "autoscalingGroup" ?_, hgroup "autoscalingGroup.subnets" ?_, fun hb =>
    ⟨hbalancer hb "loadBalancer.healthCheck" ?_, hbalancer hb "loadBalancer.subnets" ?_⟩⟩
  · simp [MachineGroup.constraints]
  · simp [MachineGroup.constraints, Subnets.constraints]
  · simp [LoadBalancer.constraints, HealthCheck.constraints]
  · simp [LoadBalancer.constraints, Subnets.constraints]

/-- Subnets that nothing chooses are not valid. -/
lemma isObject_of_selects {s : Subnets} {v : Json} (hv : Shape.object.Admits v)
    (htag : s.tag = "") (hids : s.ids = []) (h : (s.update v).Selects) : v.isObject = true := by
  rcases hv.cases_object with rfl | ⟨ms, rfl⟩
  · simp [Subnets.update, Subnets.Selects, Xor, htag, hids] at h
  · rfl

/-- An empty record is not valid, so a valid cluster has been decoded from a complete document. -/
lemma complete_of_valid {n : Json} (h : Shaped n) (hv : (initial.update n).Valid) :
    Complete n := by
  constructor
  · rcases h.group.object.cases_object with hg | ⟨ms, hg⟩
    · exact absurd (by simp [update, MachineGroup.update, hg, initial, zero, MachineGroup.zero])
        hv.image
    · rw [hg]
      rfl
  · exact isObject_of_selects h.group.subnets.object rfl rfl hv.subnets.selects
  · intro hb
    have hbalancer : (initial.update n).balancer =
        some (LoadBalancer.zero.update (n.part balancerKey)) := by
      simp [update, initial, zero, recordOr, hb]
    have hvalid := hv.balancer _ hbalancer
    constructor
    · rcases h.balancer.healthCheck.object.cases_object with hc | ⟨ms, hc⟩
      · have hempty : (LoadBalancer.zero.update (n.part balancerKey)).healthCheck.target = "" := by
          simp [LoadBalancer.update, HealthCheck.update, hc, LoadBalancer.zero, HealthCheck.zero]
        exact absurd hempty hvalid.healthCheck.target.1
      · rw [hc]
        rfl
    · exact isObject_of_selects h.balancer.subnets.object rfl rfl hvalid.subnets.selects

/-! ### Both ways agree -/

/-- The default tag name passes its check, and so does the empty one. -/
lemma allHold_initial_update {n : Json} (h : Shaped n) :
    Check.AllHold (initial.update n).fieldChecks ↔ Check.AllHold (zero.update n).fieldChecks := by
  have htagName : isAscii (initial.update n).group.subnets.tagName =
      isAscii (zero.update n).group.subnets.tagName := by
    have hadmits := h.group.subnets.tagName
    simp only [update, MachineGroup.update, Subnets.update]
    cases hv : ((n.part groupKey).part "subnets").part "tagName" with
    | str s => rfl
    | null => rfl
    | _ => simp [hv, Shape.Admits, Shape.isMatch, isString] at hadmits
  have hsubnets : Check.AllHold
        ((initial.update n).group.subnets.fieldChecks "autoscalingGroup.subnets") ↔
      Check.AllHold ((zero.update n).group.subnets.fieldChecks "autoscalingGroup.subnets") := by
    simp only [Subnets.fieldChecks, Check.allHold_append, Check.allHold_cons, htagName]
    rfl
  simp only [fieldChecks, MachineGroup.fieldChecks, Check.allHold_append, hsubnets]
  rfl

/-- Validating a cluster that was decoded accepts what the table accepts of the document, in its
current spelling, as long as each choice of subnets is made in one way. -/
theorem validate_decode_iff {d : Document} {n : Json} {c : Cluster}
    (hn : currentSpelling d.json = .ok n) (hc : initial.decode d.json = .ok c) :
    c.validate = .ok () ↔
      constraints.validate n .standard = .ok () ∧ c.group.subnets.Selects ∧
        ∀ b ∈ c.balancer, b.subnets.Selects := by
  obtain ⟨_, rfl⟩ := eq_renamed_of_currentSpelling hn
  obtain ⟨_, hschema, _, rfl⟩ := (decode_eq_ok_iff d.ordered).1 hc
  obtain ⟨_, hshaped⟩ := schemaCheck_iff_shaped.1 hschema
  rw [validate_eq_ok_iff]
  -- An incomplete document does not show the cluster, but then neither side can hold.
  by_cases hcomplete : Complete (renamed d.json)
  · rw [validate_eq_run (shown_update hshaped hcomplete), Check.run_eq_ok_iff,
      ← allHold_initial_update hshaped, valid_iff]
    constructor
    · rintro ⟨hfields, hbalancer, hgroup⟩
      exact ⟨hfields, hgroup, hbalancer⟩
    · rintro ⟨hfields, hgroup, hbalancer⟩
      exact ⟨hfields, hbalancer, hgroup⟩
  · constructor
    · intro hvalid
      exact absurd (complete_of_valid hshaped hvalid) hcomplete
    · rintro ⟨hvalidate, _, _⟩
      exact absurd (complete_of_validate hvalidate) hcomplete

/-- A document whose group chooses its subnets by a tag is accepted as a cluster. -/
theorem validate_decode_tagged :
    ∃ (d : Document) (n : Json) (c : Cluster), currentSpelling d.json = .ok n ∧
      initial.decode d.json = .ok c ∧ c.group.subnets = .byTag "db" ∧ c.validate = .ok () := by
  let n : Json := .obj [(groupKey, .obj [("image", .str "ami-2b"),
    ("instanceType", .str "m3.large"), ("subnets", .obj [("tag", .str "db")])]),
    ("name", .str "web"), ("region", .str "eu-west-1"), ("vpcId", .str "vpc-1a")]
  have ho : n.Ordered := ordered_sorted n
  have hfree : n.NullFree := by
    simp [n, NullFree, Every, EveryMember]
  have hnone : n.part balancerKey = .null := rfl
  have hshaped : Shaped n := by
    simp [n, shaped_iff, MachineGroup.shaped_iff, Subnets.shaped_iff, InstanceProfile.shaped_iff,
      Policy.shaped_iff, LoadBalancer.shaped_iff, HealthCheck.shaped_iff, part, Shape.Admits,
      Shape.isMatch, isObject, isString, groupKey, profileKey, balancerKey]
  have hschema : constraints.schemaCheck n = .ok () := schemaCheck_iff_shaped.2 ⟨rfl, hshaped⟩
  have hcomplete : Complete n := ⟨rfl, rfl, by simp [hnone, isObject]⟩
  have hfields : ∀ k ∈ (zero.update n).fieldChecks, k.holds = true := by
    decide +kernel
  have hvalidate : constraints.validate n .standard = .ok () :=
    (validate_eq_run (shown_update hshaped hcomplete)).trans (Check.run_eq_ok_iff.2 hfields)
  have hdecode : initial.decode n = .ok (initial.update n) :=
    (decode_eq_ok_iff ho).2
      ⟨by decide, hschema, initial.not_exposes (nullFree_renamed hfree), rfl⟩
  have hbalancer : (initial.update n).balancer = none := rfl
  have hselects : (initial.update n).group.subnets.Selects :=
    .inl ⟨by decide, fun hids => hids rfl⟩
  exact ⟨⟨n, ho⟩, n, initial.update n, rfl, hdecode, rfl,
    (validate_decode_iff (d := ⟨n, ho⟩) rfl hdecode).2
      ⟨hvalidate, hselects, by simp [hbalancer]⟩⟩

end Cluster

end StackForm
