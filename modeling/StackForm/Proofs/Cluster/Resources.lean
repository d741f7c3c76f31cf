import StackForm.Cluster.Resources
import StackForm.Proofs.Json.Field
import StackForm.Proofs.Render.Template

/-!
# The resources of a cluster

Which resources a cluster declares depends on its optional parts alone. Its template holds exactly
these, no name is declared twice, and whatever a resource or an output refers to is declared, for
any texts that the cluster may hold.
-/

namespace StackForm

open Json

namespace Cluster

variable {c : Cluster} {name : String}

/-- The logical names of the resources that a cluster declares. -/
inductive Declares (c : Cluster) : String → Prop where
  | vpc : Declares c "VPC"
  | launchConfiguration : Declares c "LaunchConfiguration"
  | group : Declares c "AutoScalingGroup"
  | profile {p : InstanceProfile} : c.group.profile = some p → Declares c "InstanceProfile"
  | role {p : InstanceProfile} : c.group.profile = some p → p.roles = [] →
      Declares c "InstanceRole"
  | policy {p : InstanceProfile} {q : Policy} : c.group.profile = some p → p.policy = some q →
      Declares c "InstancePolicy"
  | balancer {b : LoadBalancer} : c.balancer = some b → Declares c "LoadBalancer"
  | securityGroup {b : LoadBalancer} : c.balancer = some b → b.isPublic = true →
      Declares c "LoadBalancerSecurityGroup"

/-! ### Names -/

lemma keys_profileResources (c : Cluster) (p : InstanceProfile) :
    Keyed.keys (c.profileResources p) =
      (if p.roles.isEmpty then ["InstanceRole"] else []) ++
        (if p.policy.isSome then ["InstancePolicy"] else []) ++ ["InstanceProfile"] := by
  rw [profileResources]
  cases p.roles.isEmpty <;> cases p.policy <;> rfl

lemma keys_balancerResources (c : Cluster) (b : LoadBalancer) (subnets : List String) :
    Keyed.keys (c.balancerResources b subnets) =
      (if b.isPublic then ["LoadBalancerSecurityGroup"] else []) ++ ["LoadBalancer"] := by
  rw [balancerResources]
  cases b.isPublic <;> rfl

lemma keys_resources (c : Cluster) (groupSubnets balancerSubnets : List String) :
    Keyed.keys (c.resources groupSubnets balancerSubnets) =
      ["VPC"] ++ (c.group.profile.elim [] fun p => Keyed.keys (c.profileResources p)) ++
        ["LaunchConfiguration"] ++
        (c.balancer.elim [] fun b => Keyed.keys (c.balancerResources b balancerSubnets)) ++
        ["AutoScalingGroup"] := by
  simp only [Keyed.keys, resources, List.map_append]
  cases c.group.profile <;> cases c.balancer <;> rfl

lemma sublist_elim {α : Type} {o : Option α} {f : α → List String} {l : List String}
    (h : ∀ a, List.Sublist (f a) l) : List.Sublist (o.elim [] f) l := by
  cases o with
  | none => exact List.nil_sublist _
  | some a => exact h a

/-- No name is declared twice, whichever parts there are. -/
lemma nodup_keys_resources (c : Cluster) (groupSubnets balancerSubnets : List String) :
    (Keyed.keys (c.resources groupSubnets balancerSubnets)).Nodup := by
  have hall : (["VPC"] ++ ["InstanceRole", "InstancePolicy", "InstanceProfile"] ++
      ["LaunchConfiguration"] ++ ["LoadBalancerSecurityGroup", "LoadBalancer"] ++
      ["AutoScalingGroup"]).Nodup := by
    decide
  refine hall.sublist ?_
  rw [keys_resources]
  refine .append (.append (.append (.append (.refl _) (sublist_elim fun p => ?_)) (.refl _))
    (sublist_elim fun b => ?_)) (.refl _)
  · rw [keys_profileResources]
    exact .append (.append (sublist_ite _ "InstanceRole") (sublist_ite _ "InstancePolicy"))
      (.refl _)
  · rw [keys_balancerResources]
    exact .append (sublist_ite _ "LoadBalancerSecurityGroup") (.refl _)

lemma mem_elim {α β : Type} {o : Option α} {f : α → List β} {x : β} :
    x ∈ o.elim [] f ↔ ∃ a, o = some a ∧ x ∈ f a := by
  cases o <;> simp

lemma mem_ite_singleton {α : Type} {p : Bool} {x y : α} :
    x ∈ (if p then [y] else []) ↔ p = true ∧ x = y := by
  cases p <;> simp

lemma mem_keys_resources {groupSubnets balancerSubnets : List String} :
    name ∈ Keyed.keys (c.resources groupSubnets balancerSubnets) ↔ c.Declares name := by
  simp only [keys_resources, keys_profileResources, keys_balancerResources, List.mem_append,
    List.mem_singleton, mem_elim, mem_ite_singleton]
  constructor
  · rintro ((((rfl | ⟨p, hp, (⟨hr, rfl⟩ | ⟨hq, rfl⟩) | rfl⟩) | rfl) |
      ⟨b, hb, ⟨hpub, rfl⟩ | rfl⟩) | rfl)
    · exact .vpc
    · exact .role hp (List.isEmpty_iff.1 hr)
    · obtain ⟨q, hq⟩ := Option.isSome_iff_exists.1 hq
      exact .policy hp hq
    · exact .profile hp
    · exact .launchConfiguration
    · exact .securityGroup hb hpub
    · exact .balancer hb
    · exact .group
  · intro h
    cases h with
    | vpc => simp
    | launchConfiguration => simp
    | group => simp
    | profile hp => simp [hp]
    | role hp hr => simp [hp, hr]
    | policy hp hq => simp [hp, hq]
    | balancer hb => simp [hb]
    | securityGroup hb hpub => simp [hb, hpub]

/-! ### The template -/

/-- A context gives the subnets that were put under a key last. -/
@[simp] lemma subnetsIn_withValue_self (ctx : RenderContext) (key : String) (ids : List String) :
    subnetsIn (ctx.withValue key (.strings ids)) key = .ok ids := by
  rw [subnetsIn, RenderContext.require, RenderContext.get?, RenderContext.withValue,
    KeyMap.get?_insert_self]
  simp [Except.toOption]

lemma subnetsIn_withValue_of_ne (ctx : RenderContext) {key other : String} (h : other ≠ key)
    (value : Json) : subnetsIn (ctx.withValue key value) other = subnetsIn ctx other := by
  rw [subnetsIn, RenderContext.require, RenderContext.get?, RenderContext.withValue,
    KeyMap.get?_insert_of_ne ctx.values h]
  rfl

lemma groupSubnetsKey_ne : groupSubnetsKey ≠ balancerSubnetsKey := by
  decide

/-- The template of a cluster with the given subnets. -/
def templateWith (c : Cluster) (groupSubnets balancerSubnets : List String) : Template where
  formatVersion := Template.currentVersion
  description := some ("bossformation cluster " ++ c.name)
  resources := .ofList (c.resources groupSubnets balancerSubnets)
  outputs := .ofList c.outputs

/-- Where a context must hold the subnets of the balancer, and what is used if there is none. -/
def balancerSubnetsIn (c : Cluster) (ctx : RenderContext) : Except StackError (List String) :=
  if c.balancer.isSome then subnetsIn ctx balancerSubnetsKey else .ok []

/-- Only the context can keep a cluster from having a template. -/
lemma template_eq (c : Cluster) (ctx : RenderContext) :
    c.template ctx = (subnetsIn ctx groupSubnetsKey >>= fun groupSubnets =>
      c.balancerSubnetsIn ctx >>= fun balancerSubnets =>
        .ok (c.templateWith groupSubnets balancerSubnets)) := by
  have hadd : ∀ groupSubnets balancerSubnets,
      ((Template.empty.withDescription ("bossformation cluster " ++ c.name)).addResources
          (c.resources groupSubnets balancerSubnets) >>=
        fun t => Except.ok (ε := StackError) (t.addOutputs c.outputs)) =
      .ok (c.templateWith groupSubnets balancerSubnets) := by
    intro groupSubnets balancerSubnets
    rw [Template.addResources_eq_ok (c.nodup_keys_resources _ _) fun _ _ => rfl]
    exact congrArg Except.ok (Template.addOutputs_eq _ _)
  rw [template, balancerSubnetsIn]
  cases subnetsIn ctx groupSubnetsKey with
  | error e => rfl
  | ok groupSubnets =>
    cases c.balancer.isSome with
    | false => exact hadd groupSubnets []
    | true =>
      cases subnetsIn ctx balancerSubnetsKey with
      | error e => rfl
      | ok balancerSubnets => exact hadd groupSubnets balancerSubnets

lemma template_eq_ok_iff {ctx : RenderContext} {t : Template} :
    c.template ctx = .ok t ↔ ∃ groupSubnets, subnetsIn ctx groupSubnetsKey = .ok groupSubnets ∧
      ∃ balancerSubnets, c.balancerSubnetsIn ctx = .ok balancerSubnets ∧
        c.templateWith groupSubnets balancerSubnets = t := by
  simp only [template_eq, bind_eq_ok_iff, Except.ok.injEq]

variable {groupSubnets balancerSubnets : List String}

/-- The template declares what the cluster does. -/
lemma mem_keys_templateWith :
    name ∈ (c.templateWith groupSubnets balancerSubnets).resources.keys ↔ c.Declares name :=
  KeyMap.mem_keys_ofList.trans mem_keys_resources

lemma resource?_templateWith {r : Resource}
    (h : (name, r) ∈ c.resources groupSubnets balancerSubnets) :
    (c.templateWith groupSubnets balancerSubnets).resource? name = some r :=
  KeyMap.get?_ofList_of_mem (c.nodup_keys_resources _ _) h

lemma mem_outputs_templateWith :
    "LoadBalancerDNSName" ∈ (c.templateWith groupSubnets balancerSubnets).outputs.keys ↔
      c.balancer.isSome = true := by
  rw [templateWith, KeyMap.mem_keys_ofList, outputs]
  cases c.balancer <;> simp [Keyed.keys]

lemma declares_loadBalancer_iff : c.Declares "LoadBalancer" ↔ c.balancer.isSome = true := by
  constructor
  · intro h
    generalize hname : "LoadBalancer" = name at h
    cases h with
    | balancer hb => rw [hb, Option.isSome_some]
    | _ => simp at hname
  · intro h
    obtain ⟨b, hb⟩ := Option.isSome_iff_exists.1 h
    exact .balancer hb

/-! ### References -/

lemma mentions_profileRoles {p : InstanceProfile} :
    Mentions name (profileRoles p) ↔ p.roles = [] ∧ name = "InstanceRole" := by
  rw [profileRoles]
  cases hr : p.roles.isEmpty with
  | false => simp [List.isEmpty_eq_false_iff.1 hr]
  | true => simp [List.isEmpty_iff.1 hr]

lemma not_mentions_nameTags (c : Cluster) : ¬ Mentions name c.nameTags := by
  simp [nameTags, mentions_obj, isReference_iff]

lemma mentions_policyDocument {statement : Json} :
    Mentions name (policyDocument statement) ↔ Mentions name statement := by
  simp [policyDocument, mentions_obj, isReference_iff]

lemma not_mentions_vpc (c : Cluster) : ¬ c.vpc.Mentions name := by
  intro h
  have hp := h.exists_property (by simp [Keyed.keys])
  simp [c.not_mentions_nameTags] at hp

lemma not_mentions_instanceRole : ¬ instanceRole.Mentions name := by
  intro h
  have hp := h.exists_property (by simp [Keyed.keys])
  simp [mentions_policyDocument, mentions_obj, isReference_iff] at hp

lemma mentions_instancePolicy {p : InstanceProfile} {policy : Policy}
    (h : (c.instancePolicy p policy).Mentions name) : p.roles = [] ∧ name = "InstanceRole" := by
  have hp := h.exists_property (by simp [Keyed.keys])
  simpa [mentions_policyDocument, mentions_obj, isReference_iff, mentions_profileRoles] using hp

lemma mentions_instanceProfile {p : InstanceProfile} (h : (instanceProfile p).Mentions name) :
    p.roles = [] ∧ name = "InstanceRole" := by
  have hp := h.exists_property (by simp [Keyed.keys])
  simpa [mentions_profileRoles] using hp

lemma mentions_launchConfiguration (h : c.launchConfiguration.Mentions name) :
    c.group.profile.isSome = true ∧ name = "InstanceProfile" := by
  rw [launchConfiguration] at h
  cases hp : c.group.profile.isSome with
  | false =>
    rw [hp] at h
    simpa using h.exists_property (by simp [Keyed.keys])
  | true =>
    rw [hp] at h
    simpa using h.exists_property (by simp [Keyed.keys])

lemma mentions_groupResource {subnets : List String}
    (h : (c.groupResource subnets).Mentions name) :
    name = "LaunchConfiguration" ∨ c.balancer.isSome = true ∧ name = "LoadBalancer" := by
  rw [groupResource] at h
  cases hb : c.balancer.isSome with
  | false =>
    rw [hb] at h
    simpa [mentions_obj, isReference_iff] using h.exists_property (by simp [Keyed.keys])
  | true =>
    rw [hb] at h
    simpa [mentions_obj, isReference_iff] using h.exists_property (by simp [Keyed.keys])

lemma not_mentions_securityGroup (c : Cluster) : ¬ c.securityGroup.Mentions name := by
  intro h
  have hp := h.exists_property (by simp [Keyed.keys])
  simp [mentions_obj, isReference_iff] at hp

lemma mentions_balancerResource {b : LoadBalancer} {subnets : List String}
    (h : (c.balancerResource b subnets).Mentions name) :
    b.isPublic = true ∧ name = "LoadBalancerSecurityGroup" := by
  rw [balancerResource] at h
  cases hb : b.isPublic with
  | false =>
    rw [hb] at h
    simpa [mentions_obj, isReference_iff, healthCheckDocument, c.not_mentions_nameTags] using
      h.exists_property (by simp [Keyed.keys])
  | true =>
    rw [hb] at h
    simpa [mentions_obj, isReference_iff, healthCheckDocument, c.not_mentions_nameTags] using
      h.exists_property (by simp [Keyed.keys])

variable {r : Resource} {key : String}

lemma declares_of_profileResources_mention {p : InstanceProfile} (hp : c.group.profile = some p)
    (hr : (key, r) ∈ c.profileResources p) (h : r.Mentions name) : c.Declares name := by
  rw [profileResources] at hr
  simp only [List.mem_append, List.mem_singleton, mem_ite_singleton, Prod.mk.injEq] at hr
  rcases hr with (⟨_, _, rfl⟩ | hr) | ⟨_, rfl⟩
  · exact absurd h not_mentions_instanceRole
  · split at hr
    · obtain ⟨_, rfl⟩ := Prod.mk.inj (List.mem_singleton.1 hr)
      obtain ⟨hroles, rfl⟩ := mentions_instancePolicy h
      exact .role hp hroles
    · cases hr
  · obtain ⟨hroles, rfl⟩ := mentions_instanceProfile h
    exact .role hp hroles

lemma declares_of_balancerResources_mention {b : LoadBalancer} (hb : c.balancer = some b)
    (hr : (key, r) ∈ c.balancerResources b balancerSubnets) (h : r.Mentions name) :
    c.Declares name := by
  rw [balancerResources] at hr
  simp only [List.mem_append, List.mem_singleton, mem_ite_singleton, Prod.mk.injEq] at hr
  rcases hr with ⟨_, _, rfl⟩ | ⟨_, rfl⟩
  · exact absurd h c.not_mentions_securityGroup
  · obtain ⟨hpub, rfl⟩ := mentions_balancerResource h
    exact .securityGroup hb hpub

/-- What a resource of the cluster refers to, the cluster declares. -/
lemma declares_of_resource_mentions (hr : (key, r) ∈ c.resources groupSubnets balancerSubnets)
    (h : r.Mentions name) : c.Declares name := by
  rw [resources] at hr
  simp only [List.mem_append, List.mem_singleton, Prod.mk.injEq] at hr
  rcases hr with (((⟨_, rfl⟩ | hr) | ⟨_, rfl⟩) | hr) | ⟨_, rfl⟩
  · exact absurd h c.not_mentions_vpc
  · cases hp : c.group.profile with
    | none =>
      rw [hp] at hr
      cases hr
    | some p =>
      rw [hp] at hr
      exact declares_of_profileResources_mention hp hr h
  · obtain ⟨hp, rfl⟩ := mentions_launchConfiguration h
    obtain ⟨p, hp⟩ := Option.isSome_iff_exists.1 hp
    exact .profile hp
  · cases hb : c.balancer with
    | none =>
      rw [hb] at hr
      cases hr
    | some b =>
      rw [hb] at hr
      exact declares_of_balancerResources_mention hb hr h
  · rcases mentions_groupResource h with rfl | ⟨hb, rfl⟩
    · exact .launchConfiguration
    · obtain ⟨b, hb⟩ := Option.isSome_iff_exists.1 hb
      exact .balancer hb

lemma declares_of_output_mentions {o : Output} (ho : (key, o) ∈ c.outputs)
    (h : Json.Mentions name o.value) : c.Declares name := by
  rw [outputs] at ho
  simp only [List.mem_append, List.mem_singleton, mem_ite_singleton, Prod.mk.injEq] at ho
  rcases ho with ⟨hb, _, rfl⟩ | ⟨_, rfl⟩
  · obtain ⟨b, hb⟩ := Option.isSome_iff_exists.1 hb
    rw [mentions_attributeOf.1 h]
    exact .balancer hb
  · rw [mentions_reference.1 h]
    exact .group

lemma declares_of_mentions (h : (c.templateWith groupSubnets balancerSubnets).Mentions name) :
    c.Declares name := by
  rcases h with ⟨r, hr, h⟩ | ⟨o, ho, h⟩
  · exact declares_of_resource_mentions (KeyMap.mem_of_mem_ofList hr) h
  · exact declares_of_output_mentions (KeyMap.mem_of_mem_ofList ho) h

/-- A template declares the resources that belong to the parts of its cluster, and no others.
Everything that it refers to is declared, and it reports on the load balancer if it has one. -/
theorem template_closed {ctx : RenderContext} {t : Template} (ht : c.template ctx = .ok t) :
    (∀ name, t.Mentions name → name ∈ t.resources.keys) ∧
      (∀ name, name ∈ t.resources.keys ↔ c.Declares name) ∧
      ("LoadBalancerDNSName" ∈ t.outputs.keys ↔ "LoadBalancer" ∈ t.resources.keys) := by
  obtain ⟨groupSubnets, _, balancerSubnets, _, rfl⟩ := template_eq_ok_iff.1 ht
  refine ⟨fun name h => ?_, fun name => mem_keys_templateWith, ?_⟩
  · exact mem_keys_templateWith.2 (declares_of_mentions h)
  · rw [mem_outputs_templateWith, mem_keys_templateWith, declares_loadBalancer_iff]

/-- A template with a role and a public balancer, of a cluster whose texts look like references. -/
theorem template_closed_public :
    ∃ (c : Cluster) (ctx : RenderContext) (t : Template), c.template ctx = .ok t ∧
      c.group.profile = some ⟨[], some ⟨"Ref", ["Fn::GetAtt"]⟩⟩ ∧ t.Mentions "InstanceRole" ∧
      "InstanceRole" ∈ t.resources.keys ∧ "LoadBalancerSecurityGroup" ∈ t.resources.keys ∧
      "LoadBalancerDNSName" ∈ t.outputs.keys := by
  let c : Cluster := ⟨"Ref", "", "vpc-1",
    ⟨"Ref", "", .zero, some ⟨[], some ⟨"Ref", ["Fn::GetAtt"]⟩⟩⟩,
    some ⟨"internal", true, .zero, .zero⟩⟩
  let ctx := (RenderContext.empty.withValue groupSubnetsKey (.strings ["Ref"])).withValue
    balancerSubnetsKey (.strings [])
  have hgroup : subnetsIn ctx groupSubnetsKey = .ok ["Ref"] := by
    rw [subnetsIn_withValue_of_ne _ groupSubnetsKey_ne, subnetsIn_withValue_self]
  have hbalancer : c.balancerSubnetsIn ctx = .ok [] := by
    show subnetsIn ctx balancerSubnetsKey = .ok []
    rw [subnetsIn_withValue_self]
  have ht : c.template ctx = .ok (c.templateWith ["Ref"] []) :=
    template_eq_ok_iff.2 ⟨_, hgroup, _, hbalancer, rfl⟩
  obtain ⟨hmentions, hdeclares, houtput⟩ := template_closed ht
  have hrole : (c.templateWith ["Ref"] []).Mentions "InstanceRole" := by
    have hresource : (c.templateWith ["Ref"] []).resource? "InstanceProfile" =
        some (instanceProfile ⟨[], some ⟨"Ref", ["Fn::GetAtt"]⟩⟩) :=
      resource?_templateWith (by simp [resources, c, profileResources])
    have hroles : (instanceProfile ⟨[], some ⟨"Ref", ["Fn::GetAtt"]⟩⟩).get? "Roles" =
        some (.arr [reference "InstanceRole"]) :=
      Resource.get?_withProperties (by simp [Keyed.keys]) (by simp [profileRoles])
    refine .inl ⟨_, KeyMap.mem_entries_of_get? hresource, mentions_obj.2 (.inr ?_)⟩
    exact ⟨_, KeyMap.mem_entries_of_get? hroles, by simp⟩
  exact ⟨c, ctx, _, ht, rfl, hrole, hmentions _ hrole,
    (hdeclares _).2 (.securityGroup rfl rfl), houtput.2 ((hdeclares _).2 (.balancer rfl))⟩

end Cluster

end StackForm
