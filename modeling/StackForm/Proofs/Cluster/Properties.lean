import StackForm.Proofs.Cluster.Enquiries

/-!
# What the template shows of a cluster

Each field that a template shows stands in one property of one resource. The tags of the resources
hold the name of the cluster and nothing else.
-/

namespace StackForm

/-- A property of the resource with a logical name. -/
def Template.property? (t : Template) (name key : String) : Option Json :=
  (t.resource? name).bind (·.get? key)

/-- A resource has no other properties than those it is made with. -/
lemma Resource.mem_of_get?_withProperties {type key : String} {value : Json}
    {properties : List (String × Json)}
    (h : (withProperties type properties).get? key = some value) : (key, value) ∈ properties := by
  rw [get?, properties_withProperties] at h
  exact KeyMap.mem_of_mem_ofList (KeyMap.mem_entries_of_get? h)

namespace Cluster

open Json

variable {c : Cluster} {groupSubnets balancerSubnets : List String}

lemma property?_templateWith {name : String} {r : Resource}
    (h : (name, r) ∈ c.resources groupSubnets balancerSubnets) (key : String) :
    (c.templateWith groupSubnets balancerSubnets).property? name key = r.get? key := by
  rw [Template.property?, resource?_templateWith h]
  rfl

lemma property?_vpc (key : String) :
    (c.templateWith groupSubnets balancerSubnets).property? "VPC" key = c.vpc.get? key :=
  property?_templateWith (by simp [resources]) key

lemma property?_launchConfiguration (key : String) :
    (c.templateWith groupSubnets balancerSubnets).property? "LaunchConfiguration" key =
      c.launchConfiguration.get? key :=
  property?_templateWith (by simp [resources]) key

lemma property?_group (key : String) :
    (c.templateWith groupSubnets balancerSubnets).property? "AutoScalingGroup" key =
      (c.groupResource groupSubnets).get? key :=
  property?_templateWith (by simp [resources]) key

lemma property?_instanceProfile {p : InstanceProfile} (hp : c.group.profile = some p)
    (key : String) :
    (c.templateWith groupSubnets balancerSubnets).property? "InstanceProfile" key =
      (instanceProfile p).get? key :=
  property?_templateWith (by simp [resources, hp, profileResources]) key

lemma property?_instancePolicy {p : InstanceProfile} {policy : Policy}
    (hp : c.group.profile = some p) (hpolicy : p.policy = some policy) (key : String) :
    (c.templateWith groupSubnets balancerSubnets).property? "InstancePolicy" key =
      (c.instancePolicy p policy).get? key :=
  property?_templateWith (by simp [resources, hp, profileResources, hpolicy]) key

lemma property?_balancer {b : LoadBalancer} (hb : c.balancer = some b) (key : String) :
    (c.templateWith groupSubnets balancerSubnets).property? "LoadBalancer" key =
      (c.balancerResource b balancerSubnets).get? key :=
  property?_templateWith (by simp [resources, hb, balancerResources]) key

/-- What holds of each kind of resource holds of every resource of a cluster. -/
lemma forall_mem_resources {p : Resource → Prop} (hvpc : p c.vpc) (hrole : p instanceRole)
    (hpolicy : ∀ profile policy, p (c.instancePolicy profile policy))
    (hprofile : ∀ profile, p (instanceProfile profile)) (hlaunch : p c.launchConfiguration)
    (hsecurity : p c.securityGroup) (hbalancer : ∀ b, p (c.balancerResource b balancerSubnets))
    (hgroup : p (c.groupResource groupSubnets)) :
    ∀ entry ∈ c.resources groupSubnets balancerSubnets, p entry.2 := by
  simp only [resources, List.forall_mem_append, List.forall_mem_singleton]
  refine ⟨⟨⟨⟨hvpc, ?_⟩, hlaunch⟩, ?_⟩, hgroup⟩
  · cases c.group.profile with
    | none => exact List.forall_mem_nil _
    | some profile =>
      simp only [profileResources, List.forall_mem_append, List.forall_mem_singleton]
      refine ⟨⟨?_, ?_⟩, hprofile profile⟩
      · cases profile.roles.isEmpty with
        | false => exact List.forall_mem_nil _
        | true => exact List.forall_mem_singleton.2 hrole
      · cases profile.policy with
        | none => exact List.forall_mem_nil _
        | some policy => exact List.forall_mem_singleton.2 (hpolicy profile policy)
  · cases c.balancer with
    | none => exact List.forall_mem_nil _
    | some b =>
      simp only [balancerResources, List.forall_mem_append, List.forall_mem_singleton]
      refine ⟨?_, hbalancer b⟩
      cases b.isPublic with
      | false => exact List.forall_mem_nil _
      | true => exact List.forall_mem_singleton.2 hsecurity

/-! ### Group -/

lemma image_launchConfiguration (c : Cluster) :
    c.launchConfiguration.get? "ImageId" = some (.str c.group.image) :=
  Resource.get?_withProperties_ite (by simp [Keyed.keys]) (by simp)

lemma instanceType_launchConfiguration (c : Cluster) :
    c.launchConfiguration.get? "InstanceType" = some (.str c.group.instanceType) :=
  Resource.get?_withProperties_ite (by simp [Keyed.keys]) (by simp)

/-! ### Profile -/

lemma roles_instanceProfile (p : InstanceProfile) :
    (instanceProfile p).get? "Roles" = some (profileRoles p) :=
  Resource.get?_withProperties (by simp [Keyed.keys]) (by simp)

lemma document_instancePolicy (c : Cluster) (p : InstanceProfile) (policy : Policy) :
    (c.instancePolicy p policy).get? "PolicyDocument" = some (policyDocument (.obj [
      ("Action", .strings policy.action),
      ("Effect", .str policy.effect),
      ("Resource", .str "*")])) :=
  Resource.get?_withProperties (by simp [Keyed.keys]) (by simp)

lemma declares_instancePolicy_iff :
    c.Declares "InstancePolicy" ↔ ∃ p policy, c.group.profile = some p ∧ p.policy = some policy := by
  constructor
  · intro h
    generalize hname : "InstancePolicy" = name at h
    cases h with
    | policy hp hq => exact ⟨_, _, hp, hq⟩
    | _ => simp at hname
  · rintro ⟨p, policy, hp, hpolicy⟩
    exact .policy hp hpolicy

/-! ### Load balancer -/

lemma scheme_balancerResource (c : Cluster) (b : LoadBalancer) (subnets : List String) :
    (c.balancerResource b subnets).get? "Scheme" = some (.str b.scheme) :=
  Resource.get?_withProperties_ite (by simp [Keyed.keys]) (by simp)

lemma healthCheck_balancerResource (c : Cluster) (b : LoadBalancer) (subnets : List String) :
    (c.balancerResource b subnets).get? "HealthCheck" =
      some (healthCheckDocument b.healthCheck) :=
  Resource.get?_withProperties_ite (by simp [Keyed.keys]) (by simp)

/-! ### Tags -/

lemma tags_vpc (c : Cluster) : c.vpc.get? "Tags" = some c.nameTags :=
  Resource.get?_withProperties (by simp [Keyed.keys]) (by simp)

lemma tags_groupResource (c : Cluster) (subnets : List String) :
    (c.groupResource subnets).get? "Tags" = some (.arr [.obj [("Key", .str "Name"),
      ("PropagateAtLaunch", .bool true), ("Value", .str c.name)]]) :=
  Resource.get?_withProperties_ite (by simp [Keyed.keys]) (by simp)

lemma tags_balancerResource (c : Cluster) (b : LoadBalancer) (subnets : List String) :
    (c.balancerResource b subnets).get? "Tags" = some c.nameTags :=
  Resource.get?_withProperties_ite (by simp [Keyed.keys]) (by simp)

/-- Every tag of the resource has the value. -/
def TaggedBy (value : String) (r : Resource) : Prop :=
  ∀ tags, r.get? "Tags" = some (.arr tags) → ∀ tag ∈ tags, tag.get? "Value" = some (.str value)

lemma taggedBy_of_tags {r : Resource} {value : String} {members : List (String × Json)}
    (hr : r.get? "Tags" = some (.arr [.obj members]))
    (hvalue : (obj members).get? "Value" = some (.str value)) : TaggedBy value r := by
  intro tags htags tag htag
  obtain rfl : [.obj members] = tags := Json.arr.inj (Option.some.inj (hr.symm.trans htags))
  rw [List.mem_singleton.1 htag]
  exact hvalue

/-- Without a property for tags there are none. -/
lemma taggedBy_withProperties {type value : String} {properties : List (String × Json)}
    (h : "Tags" ∉ Keyed.keys properties) : TaggedBy value (.withProperties type properties) := by
  intro tags htags
  have hmem := Resource.mem_of_get?_withProperties htags
  exact absurd (List.mem_map_of_mem hmem) h

/-- The tags of all resources have the name of the cluster. -/
lemma taggedBy_of_mem_resources :
    ∀ entry ∈ c.resources groupSubnets balancerSubnets, TaggedBy c.name entry.2 := by
  apply forall_mem_resources
  · exact taggedBy_of_tags c.tags_vpc rfl
  · exact taggedBy_withProperties (by decide)
  · exact fun _ _ => taggedBy_withProperties (by simp [Keyed.keys])
  · exact fun _ => taggedBy_withProperties (by simp [Keyed.keys])
  · refine taggedBy_withProperties ?_
    cases c.group.profile.isSome <;> simp [Keyed.keys]
  · exact taggedBy_withProperties (by simp [Keyed.keys])
  · exact fun b => taggedBy_of_tags (c.tags_balancerResource b _) rfl
  · exact taggedBy_of_tags (c.tags_groupResource _) rfl

end Cluster

end StackForm
