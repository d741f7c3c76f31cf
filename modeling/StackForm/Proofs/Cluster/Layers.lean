import StackForm.Proofs.Cluster.Decode
import StackForm.Proofs.Json.Layers

/-!
# Clusters from layered documents

Reading a cluster from one document and then from another is reading it from the second document
laid over the first. Layering alone does not give this: a value that replaces an object forgets
what was below. It holds because every document that is decoded has the shapes of the fields, so
only objects meet objects and every field is read from the upper layer that holds it.
-/

namespace StackForm

open Json

/-! ### Shapes of layers -/

variable {u v : Json}

lemma Shape.admits_part_overlay {shape : Shape} {key : String} (hu : Shape.object.Admits u)
    (hv : Shape.object.Admits v) (ho : v.Ordered) (hukey : shape.Admits (u.part key))
    (hvkey : shape.Admits (v.part key)) : shape.Admits ((overlay u v).part key) := by
  rw [part_overlay hu hv ho]
  exact admits_overlay hukey hvkey

lemma Subnets.Shaped.overlay (hu : Shaped u) (hv : Shaped v) (ho : v.Ordered) :
    Shaped (overlay u v) where
  object := admits_overlay hu.object hv.object
  tag := Shape.admits_part_overlay hu.object hv.object ho hu.tag hv.tag
  tagName := Shape.admits_part_overlay hu.object hv.object ho hu.tagName hv.tagName
  ids := Shape.admits_part_overlay hu.object hv.object ho hu.ids hv.ids

lemma Policy.Shaped.overlay (hu : Shaped u) (hv : Shaped v) (ho : v.Ordered) :
    Shaped (overlay u v) where
  object := admits_overlay hu.object hv.object
  effect := Shape.admits_part_overlay hu.object hv.object ho hu.effect hv.effect
  action := Shape.admits_part_overlay hu.object hv.object ho hu.action hv.action

lemma InstanceProfile.Shaped.overlay (hu : Shaped u) (hv : Shaped v) (ho : v.Ordered) :
    Shaped (overlay u v) where
  object := admits_overlay hu.object hv.object
  roles := Shape.admits_part_overlay hu.object hv.object ho hu.roles hv.roles
  policy := by
    rw [part_overlay hu.object hv.object ho]
    exact hu.policy.overlay hv.policy (ho.part _)

lemma MachineGroup.Shaped.overlay (hu : Shaped u) (hv : Shaped v) (ho : v.Ordered) :
    Shaped (overlay u v) where
  object := admits_overlay hu.object hv.object
  image := Shape.admits_part_overlay hu.object hv.object ho hu.image hv.image
  instanceType :=
    Shape.admits_part_overlay hu.object hv.object ho hu.instanceType hv.instanceType
  subnets := by
    rw [part_overlay hu.object hv.object ho]
    exact hu.subnets.overlay hv.subnets (ho.part _)
  profile := by
    rw [part_overlay hu.object hv.object ho]
    exact hu.profile.overlay hv.profile (ho.part _)

lemma HealthCheck.Shaped.overlay (hu : Shaped u) (hv : Shaped v) (ho : v.Ordered) :
    Shaped (overlay u v) where
  object := admits_overlay hu.object hv.object
  target := Shape.admits_part_overlay hu.object hv.object ho hu.target hv.target
  healthyThreshold :=
    Shape.admits_part_overlay hu.object hv.object ho hu.healthyThreshold hv.healthyThreshold
  unhealthyThreshold :=
    Shape.admits_part_overlay hu.object hv.object ho hu.unhealthyThreshold hv.unhealthyThreshold
  interval := Shape.admits_part_overlay hu.object hv.object ho hu.interval hv.interval
  timeout := Shape.admits_part_overlay hu.object hv.object ho hu.timeout hv.timeout

lemma LoadBalancer.Shaped.overlay (hu : Shaped u) (hv : Shaped v) (ho : v.Ordered) :
    Shaped (overlay u v) where
  object := admits_overlay hu.object hv.object
  scheme := Shape.admits_part_overlay hu.object hv.object ho hu.scheme hv.scheme
  isPublic := Shape.admits_part_overlay hu.object hv.object ho hu.isPublic hv.isPublic
  healthCheck := by
    rw [part_overlay hu.object hv.object ho]
    exact hu.healthCheck.overlay hv.healthCheck (ho.part _)
  subnets := by
    rw [part_overlay hu.object hv.object ho]
    exact hu.subnets.overlay hv.subnets (ho.part _)

/-! ### Updates from layers -/

lemma Subnets.update_overlay (s : Subnets) (hu : Shaped u) (hv : Shaped v) (ho : v.Ordered) :
    s.update (overlay u v) = (s.update u).update v := by
  simp [update, part_overlay hu.object hv.object ho, textOr_overlay hv.tag,
    textOr_overlay hv.tagName, textsOr_overlay hv.ids]

lemma Policy.update_overlay (p : Policy) (hu : Shaped u) (hv : Shaped v) (ho : v.Ordered) :
    p.update (overlay u v) = (p.update u).update v := by
  simp [update, part_overlay hu.object hv.object ho, textOr_overlay hv.effect,
    textsOr_overlay hv.action]

lemma InstanceProfile.update_overlay (p : InstanceProfile) (hu : Shaped u) (hv : Shaped v)
    (ho : v.Ordered) : p.update (overlay u v) = (p.update u).update v := by
  have hpolicy := recordOr_overlay hu.policy.object hv.policy.object
    (fun q => Policy.update_overlay q hu.policy hv.policy (ho.part _))
  simp [update, part_overlay hu.object hv.object ho, textsOr_overlay hv.roles, hpolicy]

lemma MachineGroup.update_overlay (g : MachineGroup) (hu : Shaped u) (hv : Shaped v)
    (ho : v.Ordered) : g.update (overlay u v) = (g.update u).update v := by
  have hprofile := recordOr_overlay hu.profile.object hv.profile.object
    (fun p => InstanceProfile.update_overlay p hu.profile hv.profile (ho.part _))
  simp [update, part_overlay hu.object hv.object ho, textOr_overlay hv.image,
    textOr_overlay hv.instanceType, Subnets.update_overlay _ hu.subnets hv.subnets (ho.part _),
    hprofile]

lemma HealthCheck.update_overlay (c : HealthCheck) (hu : Shaped u) (hv : Shaped v)
    (ho : v.Ordered) : c.update (overlay u v) = (c.update u).update v := by
  simp [update, part_overlay hu.object hv.object ho, textOr_overlay hv.target,
    textOr_overlay hv.healthyThreshold, textOr_overlay hv.unhealthyThreshold,
    textOr_overlay hv.interval, textOr_overlay hv.timeout]

lemma LoadBalancer.update_overlay (b : LoadBalancer) (hu : Shaped u) (hv : Shaped v)
    (ho : v.Ordered) : b.update (overlay u v) = (b.update u).update v := by
  simp [update, part_overlay hu.object hv.object ho, textOr_overlay hv.scheme,
    flagOr_overlay hv.isPublic,
    HealthCheck.update_overlay _ hu.healthCheck hv.healthCheck (ho.part _),
    Subnets.update_overlay _ hu.subnets hv.subnets (ho.part _)]

namespace Cluster

/-! ### Decoding layers -/

variable (huobj : u.isObject = true) (hvobj : v.isObject = true)
include huobj hvobj

lemma Shaped.overlay (hu : Shaped u) (hv : Shaped v) (ho : v.Ordered) : Shaped (overlay u v) where
  name := Shape.admits_part_overlay (.inr huobj) (.inr hvobj) ho hu.name hv.name
  region := Shape.admits_part_overlay (.inr huobj) (.inr hvobj) ho hu.region hv.region
  vpcId := Shape.admits_part_overlay (.inr huobj) (.inr hvobj) ho hu.vpcId hv.vpcId
  group := by
    rw [part_overlay (.inr huobj) (.inr hvobj) ho]
    exact hu.group.overlay hv.group (ho.part _)
  balancer := by
    rw [part_overlay (.inr huobj) (.inr hvobj) ho]
    exact hu.balancer.overlay hv.balancer (ho.part _)

/-- A cluster is updated from the lower layer, then from the upper one. -/
lemma update_overlay (c : Cluster) (hu : Shaped u) (hv : Shaped v) (ho : v.Ordered) :
    c.update (overlay u v) = (c.update u).update v := by
  have hbalancer := recordOr_overlay hu.balancer.object hv.balancer.object
    (fun b => LoadBalancer.update_overlay b hu.balancer hv.balancer (ho.part _))
  simp [update, part_overlay (.inr huobj) (.inr hvobj) ho, textOr_overlay hv.name,
    textOr_overlay hv.region, textOr_overlay hv.vpcId,
    MachineGroup.update_overlay _ hu.group hv.group (ho.part _), hbalancer]

omit huobj hvobj

/-- A document without nulls, and with the profile under its current name, is decoded if its shapes
are right. -/
lemma decode_eq_ok_iff_of_nullFree {c c' : Cluster} {doc : Json} (ho : doc.Ordered)
    (hf : doc.NullFree) (hlegacy : (doc.part groupKey).get? legacyProfileKey = none) :
    c.decode doc = .ok c' ↔ doc.isObject = true ∧ Shaped doc ∧ c.update doc = c' := by
  have hboth : ¬ SetsBothSpellings doc := by simp [SetsBothSpellings, hlegacy]
  rw [decode_eq_ok_iff ho, renamed_of_legacy_eq_none ho hlegacy, schemaCheck_iff_shaped]
  simp [hboth, c.not_exposes hf, and_assoc]

/-- Decoding one document and then another is decoding the second laid over the first. -/
theorem decode_overlay {c c₁ c₂ : Cluster} {d₁ d₂ : Document} (hf₁ : d₁.json.NullFree)
    (hf₂ : d₂.json.NullFree) (hl₁ : (d₁.json.part groupKey).get? legacyProfileKey = none)
    (hl₂ : (d₂.json.part groupKey).get? legacyProfileKey = none)
    (hc₁ : c.decode d₁.json = .ok c₁) (hc₂ : c₁.decode d₂.json = .ok c₂) :
    ∃ both, decodeOnto d₁.json d₂.json = .ok both ∧ c.decode both = .ok c₂ := by
  obtain ⟨hobj₁, hs₁, rfl⟩ := (decode_eq_ok_iff_of_nullFree d₁.ordered hf₁ hl₁).1 hc₁
  obtain ⟨hobj₂, hs₂, rfl⟩ := (decode_eq_ok_iff_of_nullFree d₂.ordered hf₂ hl₂).1 hc₂
  have hlegacy : ((overlay d₁.json d₂.json).part groupKey).get? legacyProfileKey = none := by
    rw [part_overlay (.inr hobj₁) (.inr hobj₂) d₂.ordered]
    exact get?_overlay_eq_none hs₁.group.object hs₂.group.object (d₂.ordered.part _) hl₁ hl₂
  have hobj : (overlay d₁.json d₂.json).isObject = true := isObject_overlay hobj₁ hobj₂
  refine ⟨overlay d₁.json d₂.json, rfl, ?_⟩
  rw [decode_eq_ok_iff_of_nullFree (d₁.ordered.overlay d₂.ordered) (hf₁.overlay hf₂) hlegacy]
  exact ⟨hobj, hs₁.overlay hobj₁ hobj₂ hs₂ d₂.ordered,
    c.update_overlay hobj₁ hobj₂ hs₁ hs₂ d₂.ordered⟩

/-- Both documents give the balancer something and both give a name: the upper name stays, and the
balancer that the lower document begins is gone on with. -/
theorem decode_overlay_balancer :
    ∃ (d₁ d₂ : Document) (c₁ c₂ : Cluster), d₁.json.NullFree ∧ d₂.json.NullFree ∧
      (d₁.json.part groupKey).get? legacyProfileKey = none ∧
      (d₂.json.part groupKey).get? legacyProfileKey = none ∧
      initial.decode d₁.json = .ok c₁ ∧ c₁.decode d₂.json = .ok c₂ ∧
      (∃ both, decodeOnto d₁.json d₂.json = .ok both ∧ initial.decode both = .ok c₂) ∧
      c₂.name = "web" ∧ c₂.balancer = some ⟨"internal", true, .zero, .zero⟩ := by
  let lower : Json := .obj [(balancerKey, .obj [("public", .bool true)]), ("name", .str "db")]
  let upper : Json := .obj [(balancerKey, .obj [("scheme", .str "internal")]), ("name", .str "web")]
  let c₁ : Cluster := { initial with name := "db", balancer := some ⟨"", true, .zero, .zero⟩ }
  let c₂ : Cluster :=
    { initial with name := "web", balancer := some ⟨"internal", true, .zero, .zero⟩ }
  have hlower : lower.Ordered := ordered_sorted lower
  have hupper : upper.Ordered := ordered_sorted upper
  have hf₁ : lower.NullFree := by simp [lower, NullFree, Every, EveryMember]
  have hf₂ : upper.NullFree := by simp [upper, NullFree, Every, EveryMember]
  have hshaped : Shaped lower ∧ Shaped upper := by
    simp [lower, upper, shaped_iff, MachineGroup.shaped_iff, Subnets.shaped_iff,
      InstanceProfile.shaped_iff, Policy.shaped_iff, LoadBalancer.shaped_iff,
      HealthCheck.shaped_iff, part, Shape.Admits, Shape.isMatch, isObject, isString, isBool,
      groupKey, profileKey, balancerKey]
  have hc₁ : initial.decode lower = .ok c₁ :=
    (decode_eq_ok_iff_of_nullFree hlower hf₁ rfl).2 ⟨rfl, hshaped.1, rfl⟩
  have hc₂ : c₁.decode upper = .ok c₂ :=
    (decode_eq_ok_iff_of_nullFree hupper hf₂ rfl).2 ⟨rfl, hshaped.2, rfl⟩
  exact ⟨⟨lower, hlower⟩, ⟨upper, hupper⟩, c₁, c₂, hf₁, hf₂, rfl, rfl, hc₁, hc₂,
    decode_overlay hf₁ hf₂ rfl rfl hc₁ hc₂, rfl, rfl⟩

end Cluster

end StackForm
