import StackForm.Cluster.Document
import StackForm.Proofs.Json.Field
import Mathlib.Tactic.MkIffOfInductiveProp

/-!
# Updating clusters field by field

`Cluster.update c n` is `c` with every field that the document `n` holds, and decoding a document of
the right shapes is no more than that: reading the layered document gives the updated record. There
is one exception. Where `c` has no record for an optional part yet, the part is read as it stands in
`n`, and then a null is not a missing member.

For each record there are its update, the shapes of its fields, the nulls that its reader refuses,
and two laws: `readsAs` for a part that is read as it stands, `ofDocument_overlay` for one that is
laid over a record.
-/

namespace StackForm

open Json

/-! ### Choices of subnets -/

namespace Subnets

/-- The choice with the fields that a part holds. -/
def update (s : Subnets) (n : Json) : Subnets :=
  ⟨(n.part "tag").textOr s.tag, (n.part "tagName").textOr s.tagName, (n.part "ids").textsOr s.ids⟩

/-- The part has the shapes that the constraints ask of a choice of subnets. -/
@[mk_iff]
structure Shaped (n : Json) : Prop where
  object : Shape.object.Admits n
  tag : Shape.text.Admits (n.part "tag")
  tagName : Shape.text.Admits (n.part "tagName")
  ids : Shape.texts.Admits (n.part "ids")

/-- Some field of the part is null. -/
def HasNull (n : Json) : Prop :=
  n.get? "ids" = some .null ∨ n.get? "tag" = some .null ∨ n.get? "tagName" = some .null

lemma readsAs {n : Json} (h : Shaped n) {s : Subnets} :
    ReadsAs ofDocument zero n s ↔ ¬ HasNull n ∧ zero.update n = s := by
  rcases h.object.cases_object with rfl | ⟨ms, rfl⟩
  · simp [readsAs_null, HasNull, update, zero]
  · simp only [ofDocument, readsAs_obj, ofMembers, bind_eq_ok_iff, memberOr_text h.tag,
      memberOr_text h.tagName, memberOr_texts h.ids]
    simp [HasNull, update, zero, and_assoc, pure, Except.pure]

lemma ofDocument_overlay (s : Subnets) {n : Json} (h : Shaped n) (ho : n.Ordered) :
    ofDocument (overlay s.toDocument n) = .ok (s.update n) := by
  obtain ⟨ms, hms, hl⟩ := exists_overlay_obj s.toDocument rfl h.object ho
  have hids : ms.lookup "ids" = some (.strings ((n.part "ids").textsOr s.ids)) := by
    simp [hl, toDocument, overlay_strings h.ids]
  have htag : ms.lookup "tag" = some (.str ((n.part "tag").textOr s.tag)) := by
    simp [hl, toDocument, overlay_str h.tag]
  have htagName : ms.lookup "tagName" = some (.str ((n.part "tagName").textOr s.tagName)) := by
    simp [hl, toDocument, overlay_str h.tagName]
  rw [hms]
  simp [ofDocument, readRecord, ofMembers, memberOr, readText, hids, htag, htagName, update, bind,
    Except.bind, pure, Except.pure]

end Subnets

/-! ### Profiles and their policies -/

namespace Policy

/-- The policy with the fields that a part holds. -/
def update (p : Policy) (n : Json) : Policy :=
  ⟨(n.part "effect").textOr p.effect, (n.part "action").textsOr p.action⟩

@[mk_iff]
structure Shaped (n : Json) : Prop where
  object : Shape.object.Admits n
  effect : Shape.text.Admits (n.part "effect")
  action : Shape.texts.Admits (n.part "action")

def HasNull (n : Json) : Prop :=
  n.get? "action" = some .null ∨ n.get? "effect" = some .null

lemma readsAs {n : Json} (h : Shaped n) {p : Policy} :
    ReadsAs ofDocument zero n p ↔ ¬ HasNull n ∧ zero.update n = p := by
  rcases h.object.cases_object with rfl | ⟨ms, rfl⟩
  · simp [readsAs_null, HasNull, update, zero]
  · simp only [ofDocument, readsAs_obj, ofMembers, bind_eq_ok_iff, memberOr_text h.effect,
      memberOr_texts h.action]
    simp [HasNull, update, zero, and_assoc, pure, Except.pure]

lemma ofDocument_overlay (p : Policy) {n : Json} (h : Shaped n) (ho : n.Ordered) :
    ofDocument (overlay p.toDocument n) = .ok (p.update n) := by
  obtain ⟨ms, hms, hl⟩ := exists_overlay_obj p.toDocument rfl h.object ho
  have haction : ms.lookup "action" = some (.strings ((n.part "action").textsOr p.action)) := by
    simp [hl, toDocument, overlay_strings h.action]
  have heffect : ms.lookup "effect" = some (.str ((n.part "effect").textOr p.effect)) := by
    simp [hl, toDocument, overlay_str h.effect]
  rw [hms]
  simp [ofDocument, readRecord, ofMembers, memberOr, readText, haction, heffect, update, bind,
    Except.bind, pure, Except.pure]

end Policy

namespace InstanceProfile

/-- The profile with the fields that a part holds. -/
def update (p : InstanceProfile) (n : Json) : InstanceProfile :=
  ⟨(n.part "roles").textsOr p.roles, (n.part "policy").recordOr Policy.update .zero p.policy⟩

@[mk_iff]
structure Shaped (n : Json) : Prop where
  object : Shape.object.Admits n
  roles : Shape.texts.Admits (n.part "roles")
  policy : Policy.Shaped (n.part "policy")

/-- Some field of the part is null; the policy itself may be. -/
def HasNull (n : Json) : Prop :=
  Policy.HasNull (n.part "policy") ∨ n.get? "roles" = some .null

/-- The part holds nulls for a policy that the profile does not have. -/
def Exposes (p : InstanceProfile) (n : Json) : Prop :=
  p.policy = none ∧ Policy.HasNull (n.part "policy")

lemma readsAs {n : Json} (h : Shaped n) {p : InstanceProfile} :
    ReadsAs ofDocument zero n p ↔ ¬ HasNull n ∧ zero.update n = p := by
  rcases h.object.cases_object with rfl | ⟨ms, rfl⟩
  · simp [readsAs_null, HasNull, Policy.HasNull, update, zero, recordOr, isObject]
  · have hpolicy := fun q => readsAs_readOption (a := q) h.policy.object
      fun _ => Policy.readsAs h.policy
    simp only [ofDocument, readsAs_obj, ofMembers, bind_eq_ok_iff, memberOr_readOption, hpolicy,
      memberOr_texts h.roles]
    simp [HasNull, update, zero, and_assoc, pure, Except.pure]

lemma ofDocument_overlay (p : InstanceProfile) {n : Json} (h : Shaped n) (ho : n.Ordered)
    {q : InstanceProfile} :
    ofDocument (overlay p.toDocument n) = .ok q ↔ ¬ p.Exposes n ∧ p.update n = q := by
  obtain ⟨ms, hms, hl⟩ := exists_overlay_obj p.toDocument rfl h.object ho
  have hroles : ms.lookup "roles" = some (.strings ((n.part "roles").textsOr p.roles)) := by
    simp [hl, toDocument, overlay_strings h.roles]
  have hpolicy : ms.lookup "policy" =
      layered (p.policy.map Policy.toDocument) (n.part "policy") := by
    simp [hl, toDocument]
  have hread := fun q => memberOr_readOption_of_layered (a := q)
    (P := fun o => ¬ (o = none ∧ Policy.HasNull (n.part "policy"))) hpolicy h.policy.object
    (ho.part _) (fun _ => rfl) (fun _ => rfl) (by simpa using fun _ => Policy.readsAs h.policy)
    (by simp [Policy.ofDocument_overlay _ h.policy (ho.part _)])
  rw [hms]
  simp only [ofDocument, readRecord, ofMembers, bind_eq_ok_iff, hread, memberOr_of_lookup hroles,
    readList_strings]
  constructor
  · rintro ⟨_, ⟨hnulls, rfl⟩, _, hroles', hq⟩
    cases hroles'
    exact ⟨hnulls, Except.ok.inj hq⟩
  · rintro ⟨hnulls, rfl⟩
    exact ⟨_, ⟨hnulls, rfl⟩, _, rfl, rfl⟩

end InstanceProfile

/-! ### Load balancers and their health checks -/

namespace HealthCheck

/-- The health check with the fields that a part holds. -/
def update (h : HealthCheck) (n : Json) : HealthCheck :=
  ⟨(n.part "target").textOr h.target, (n.part "healthyThreshold").textOr h.healthyThreshold,
    (n.part "unhealthyThreshold").textOr h.unhealthyThreshold,
    (n.part "interval").textOr h.interval, (n.part "timeout").textOr h.timeout⟩

@[mk_iff]
structure Shaped (n : Json) : Prop where
  object : Shape.object.Admits n
  target : Shape.text.Admits (n.part "target")
  healthyThreshold : Shape.text.Admits (n.part "healthyThreshold")
  unhealthyThreshold : Shape.text.Admits (n.part "unhealthyThreshold")
  interval : Shape.text.Admits (n.part "interval")
  timeout : Shape.text.Admits (n.part "timeout")

def HasNull (n : Json) : Prop :=
  n.get? "healthyThreshold" = some .null ∨ n.get? "interval" = some .null ∨
    n.get? "target" = some .null ∨ n.get? "timeout" = some .null ∨
    n.get? "unhealthyThreshold" = some .null

lemma readsAs {n : Json} (h : Shaped n) {c : HealthCheck} :
    ReadsAs ofDocument zero n c ↔ ¬ HasNull n ∧ zero.update n = c := by
  rcases h.object.cases_object with rfl | ⟨ms, rfl⟩
  · simp [readsAs_null, HasNull, update, zero]
  · simp only [ofDocument, readsAs_obj, ofMembers, bind_eq_ok_iff, memberOr_text h.target,
      memberOr_text h.healthyThreshold, memberOr_text h.unhealthyThreshold,
      memberOr_text h.interval, memberOr_text h.timeout]
    simp [HasNull, update, zero, and_assoc, pure, Except.pure]

lemma ofDocument_overlay (c : HealthCheck) {n : Json} (h : Shaped n) (ho : n.Ordered) :
    ofDocument (overlay c.toDocument n) = .ok (c.update n) := by
  obtain ⟨ms, hms, hl⟩ := exists_overlay_obj c.toDocument rfl h.object ho
  have hhealthy : ms.lookup "healthyThreshold" =
      some (.str ((n.part "healthyThreshold").textOr c.healthyThreshold)) := by
    simp [hl, toDocument, overlay_str h.healthyThreshold]
  have hinterval : ms.lookup "interval" = some (.str ((n.part "interval").textOr c.interval)) := by
    simp [hl, toDocument, overlay_str h.interval]
  have htarget : ms.lookup "target" = some (.str ((n.part "target").textOr c.target)) := by
    simp [hl, toDocument, overlay_str h.target]
  have htimeout : ms.lookup "timeout" = some (.str ((n.part "timeout").textOr c.timeout)) := by
    simp [hl, toDocument, overlay_str h.timeout]
  have hunhealthy : ms.lookup "unhealthyThreshold" =
      some (.str ((n.part "unhealthyThreshold").textOr c.unhealthyThreshold)) := by
    simp [hl, toDocument, overlay_str h.unhealthyThreshold]
  rw [hms]
  simp [ofDocument, readRecord, ofMembers, memberOr, readText, hhealthy, hinterval, htarget,
    htimeout, hunhealthy, update, bind, Except.bind, pure, Except.pure]

end HealthCheck

namespace LoadBalancer

/-- The balancer with the fields that a part holds. -/
def update (b : LoadBalancer) (n : Json) : LoadBalancer :=
  ⟨(n.part "scheme").textOr b.scheme, (n.part "public").flagOr b.isPublic,
    b.healthCheck.update (n.part "healthCheck"), b.subnets.update (n.part "subnets")⟩

@[mk_iff]
structure Shaped (n : Json) : Prop where
  object : Shape.object.Admits n
  scheme : Shape.text.Admits (n.part "scheme")
  isPublic : Shape.flag.Admits (n.part "public")
  healthCheck : HealthCheck.Shaped (n.part "healthCheck")
  subnets : Subnets.Shaped (n.part "subnets")

/-- Some field of the part is null, or some field of its own parts. -/
def HasNull (n : Json) : Prop :=
  n.get? "healthCheck" = some .null ∨ HealthCheck.HasNull (n.part "healthCheck") ∨
    n.get? "public" = some .null ∨ n.get? "scheme" = some .null ∨
    n.get? "subnets" = some .null ∨ Subnets.HasNull (n.part "subnets")

lemma readsAs {n : Json} (h : Shaped n) {b : LoadBalancer} :
    ReadsAs ofDocument zero n b ↔ ¬ HasNull n ∧ zero.update n = b := by
  rcases h.object.cases_object with rfl | ⟨ms, rfl⟩
  · simp [readsAs_null, HasNull, HealthCheck.HasNull, Subnets.HasNull, update, zero,
      HealthCheck.update, HealthCheck.zero, Subnets.update, Subnets.zero]
  · have hcheck := fun c => HealthCheck.readsAs (c := c) h.healthCheck
    have hsubnets := fun s => Subnets.readsAs (s := s) h.subnets
    rw [HealthCheck.ofDocument] at hcheck
    rw [Subnets.ofDocument] at hsubnets
    simp only [ofDocument, readsAs_obj, ofMembers, bind_eq_ok_iff, HealthCheck.ofDocument,
      Subnets.ofDocument, memberOr_record, hcheck, hsubnets, memberOr_text h.scheme,
      memberOr_flag h.isPublic]
    simp [HasNull, update, zero, and_assoc, pure, Except.pure]

lemma ofDocument_overlay (b : LoadBalancer) {n : Json} (h : Shaped n) (ho : n.Ordered) :
    ofDocument (overlay b.toDocument n) = .ok (b.update n) := by
  obtain ⟨ms, hms, hl⟩ := exists_overlay_obj b.toDocument rfl h.object ho
  have hcheck : ms.lookup "healthCheck" =
      some (overlay b.healthCheck.toDocument (n.part "healthCheck")) := by
    simp [hl, toDocument]
  have hpublic : ms.lookup "public" = some (.bool ((n.part "public").flagOr b.isPublic)) := by
    simp [hl, toDocument, overlay_bool h.isPublic]
  have hscheme : ms.lookup "scheme" = some (.str ((n.part "scheme").textOr b.scheme)) := by
    simp [hl, toDocument, overlay_str h.scheme]
  have hsubnets : ms.lookup "subnets" =
      some (overlay b.subnets.toDocument (n.part "subnets")) := by
    simp [hl, toDocument]
  rw [hms]
  simp [ofDocument, readRecord, ofMembers, memberOr, readText, readFlag, hcheck, hpublic, hscheme,
    hsubnets, HealthCheck.ofDocument_overlay _ h.healthCheck (ho.part _),
    Subnets.ofDocument_overlay _ h.subnets (ho.part _), update, bind, Except.bind, pure,
    Except.pure]

end LoadBalancer

/-! ### Groups and clusters -/

namespace MachineGroup

/-- The group with the fields that a part holds. -/
def update (g : MachineGroup) (n : Json) : MachineGroup :=
  ⟨(n.part "image").textOr g.image, (n.part "instanceType").textOr g.instanceType,
    g.subnets.update (n.part "subnets"),
    (n.part Cluster.profileKey).recordOr InstanceProfile.update .zero g.profile⟩

@[mk_iff]
structure Shaped (n : Json) : Prop where
  object : Shape.object.Admits n
  image : Shape.text.Admits (n.part "image")
  instanceType : Shape.text.Admits (n.part "instanceType")
  subnets : Subnets.Shaped (n.part "subnets")
  profile : InstanceProfile.Shaped (n.part Cluster.profileKey)

/-- The part holds nulls for a profile, or for its policy, that the group does not have. -/
def Exposes (g : MachineGroup) (n : Json) : Prop :=
  match g.profile with
  | none => InstanceProfile.HasNull (n.part Cluster.profileKey)
  | some p => p.Exposes (n.part Cluster.profileKey)

/-- A group is written with its profile under the current spelling. -/
lemma get?_legacy_toDocument (g : MachineGroup) :
    g.toDocument.get? Cluster.legacyProfileKey = none := by
  simp [toDocument, Cluster.legacyProfileKey, Cluster.profileKey]

/-- The older spelling of the profile has been replaced when a group is read. -/
lemma ofDocument_overlay (g : MachineGroup) {n : Json} (h : Shaped n) (ho : n.Ordered)
    (hlegacy : n.part Cluster.legacyProfileKey = .null) {g' : MachineGroup} :
    ofDocument (overlay g.toDocument n) = .ok g' ↔ ¬ g.Exposes n ∧ g.update n = g' := by
  obtain ⟨ms, hms, hl⟩ := exists_overlay_obj g.toDocument rfl h.object ho
  have himage : ms.lookup "image" = some (.str ((n.part "image").textOr g.image)) := by
    simp [hl, toDocument, Cluster.profileKey, overlay_str h.image]
  have htype : ms.lookup "instanceType" =
      some (.str ((n.part "instanceType").textOr g.instanceType)) := by
    simp [hl, toDocument, Cluster.profileKey, overlay_str h.instanceType]
  have hsubnets : ms.lookup "subnets" =
      some (overlay g.subnets.toDocument (n.part "subnets")) := by
    simp [hl, toDocument, Cluster.profileKey]
  have hnone : ms.lookup Cluster.legacyProfileKey = none := by
    rw [hl, hlegacy, layered_null, get?_legacy_toDocument]
  have hprofile : ms.lookup Cluster.profileKey =
      layered (g.profile.map InstanceProfile.toDocument) (n.part Cluster.profileKey) := by
    simp [hl, toDocument, Cluster.profileKey]
  have hread := fun q => memberOr_readOption_of_layered (a := q)
    (P := fun o => ¬ match o with
      | none => InstanceProfile.HasNull (n.part Cluster.profileKey)
      | some p => p.Exposes (n.part Cluster.profileKey))
    hprofile h.profile.object (ho.part _) (fun _ => rfl) (fun _ => rfl)
    (fun _ => InstanceProfile.readsAs h.profile)
    (fun p _ => p.ofDocument_overlay h.profile (ho.part _))
  rw [hms]
  simp only [ofDocument, readRecord, ofMembers, profileOfMembers, bind_eq_ok_iff, hread, hnone,
    memberOr_of_lookup himage, memberOr_of_lookup htype, memberOr_of_lookup hsubnets,
    Subnets.ofDocument_overlay _ h.subnets (ho.part _), readText]
  simp [Exposes, update, and_assoc, pure, Except.pure]

end MachineGroup

namespace Cluster

/-- The cluster with the fields that a document holds. -/
def update (c : Cluster) (n : Json) : Cluster :=
  ⟨(n.part "name").textOr c.name, (n.part "region").textOr c.region,
    (n.part "vpcId").textOr c.vpcId, c.group.update (n.part groupKey),
    (n.part balancerKey).recordOr LoadBalancer.update .zero c.balancer⟩

@[mk_iff]
structure Shaped (n : Json) : Prop where
  name : Shape.text.Admits (n.part "name")
  region : Shape.text.Admits (n.part "region")
  vpcId : Shape.text.Admits (n.part "vpcId")
  group : MachineGroup.Shaped (n.part groupKey)
  balancer : LoadBalancer.Shaped (n.part balancerKey)

/-- The document holds nulls for fields of an optional part that the cluster does not have. -/
def Exposes (c : Cluster) (n : Json) : Prop :=
  c.group.Exposes (n.part groupKey) ∨
    c.balancer = none ∧ LoadBalancer.HasNull (n.part balancerKey)

/-- Reading a cluster from what was laid over it is updating it field by field. -/
theorem ofDocument_overlay (c : Cluster) {n : Json} (hobj : n.isObject = true) (h : Shaped n)
    (ho : n.Ordered) (hlegacy : (n.part groupKey).part legacyProfileKey = .null) {c' : Cluster} :
    ofDocument (overlay c.toDocument n) = .ok c' ↔ ¬ c.Exposes n ∧ c.update n = c' := by
  obtain ⟨ms, hms, hl⟩ := exists_overlay_obj c.toDocument rfl (.inr hobj) ho
  have hname : ms.lookup "name" = some (.str ((n.part "name").textOr c.name)) := by
    simp [hl, toDocument, groupKey, balancerKey, overlay_str h.name]
  have hregion : ms.lookup "region" = some (.str ((n.part "region").textOr c.region)) := by
    simp [hl, toDocument, groupKey, balancerKey, overlay_str h.region]
  have hvpc : ms.lookup "vpcId" = some (.str ((n.part "vpcId").textOr c.vpcId)) := by
    simp [hl, toDocument, groupKey, balancerKey, overlay_str h.vpcId]
  have hgroup : ms.lookup groupKey = some (overlay c.group.toDocument (n.part groupKey)) := by
    simp [hl, toDocument, groupKey]
  have hbalancer : ms.lookup balancerKey =
      layered (c.balancer.map LoadBalancer.toDocument) (n.part balancerKey) := by
    simp [hl, toDocument, groupKey, balancerKey]
  have hread := fun q => memberOr_readOption_of_layered (a := q)
    (P := fun o => ¬ (o = none ∧ LoadBalancer.HasNull (n.part balancerKey)))
    hbalancer h.balancer.object (ho.part _) (fun _ => rfl) (fun _ => rfl)
    (by simpa using fun _ => LoadBalancer.readsAs h.balancer)
    (by simp [LoadBalancer.ofDocument_overlay _ h.balancer (ho.part _)])
  rw [hms]
  simp only [ofDocument, readRecord, ofMembers, bind_eq_ok_iff, hread, memberOr_of_lookup hname,
    memberOr_of_lookup hregion, memberOr_of_lookup hvpc, memberOr_of_lookup hgroup,
    c.group.ofDocument_overlay h.group (ho.part _) hlegacy, readText]
  simp [Exposes, update, and_assoc, not_or, pure, Except.pure]

end Cluster

end StackForm
