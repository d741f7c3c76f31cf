import StackForm.Proofs.Cluster.Resources

/-!
# What a template depends on

A template shows neither the region of its cluster nor how subnets were chosen, and it shows the
network only where a public balancer is let into it. Of a context it shows the lists of subnets and
nothing else. So clusters that agree on what is shown are rendered alike, also where that fails.
-/

namespace StackForm

open Json

/-! ### What is shown -/

/-- Two balancers, each with its network, look alike in a template. -/
structure LoadBalancer.ShownAlike (vpcId vpcId' : String) (b b' : LoadBalancer) : Prop where
  scheme : b.scheme = b'.scheme
  isPublic : b.isPublic = b'.isPublic
  healthCheck : b.healthCheck = b'.healthCheck
  network : b.isPublic = true → vpcId = vpcId'

/-- Two clusters look alike in a template. -/
structure Cluster.ShownAlike (c c' : Cluster) : Prop where
  name : c.name = c'.name
  image : c.group.image = c'.group.image
  instanceType : c.group.instanceType = c'.group.instanceType
  profile : c.group.profile = c'.group.profile
  balancer : Option.Rel (LoadBalancer.ShownAlike c.vpcId c'.vpcId) c.balancer c'.balancer

/-- The list of texts that a context gives for a key, if it gives one. -/
def RenderContext.texts? (ctx : RenderContext) (key : String) : Option (List String) :=
  ctx.get? (readList readText) key

/-- Two contexts give the same lists for the keys that the cluster reads. -/
structure Cluster.GivenAlike (c : Cluster) (ctx ctx' : RenderContext) : Prop where
  group : ctx.texts? groupSubnetsKey = ctx'.texts? groupSubnetsKey
  balancer : c.balancer.isSome = true →
    ctx.texts? balancerSubnetsKey = ctx'.texts? balancerSubnetsKey

/-- The balancer with what no template shows left out. -/
def LoadBalancer.shown (b : LoadBalancer) : LoadBalancer :=
  { b with subnets := .zero }

namespace Cluster

/-- The cluster lets the public into its network. -/
def isPublic (c : Cluster) : Bool :=
  c.balancer.any (·.isPublic)

/-- The cluster with what no template shows left out. -/
def shown (c : Cluster) : Cluster where
  name := c.name
  region := ""
  vpcId := if c.isPublic then c.vpcId else ""
  group := { c.group with subnets := .zero }
  balancer := c.balancer.map LoadBalancer.shown

variable (c : Cluster) {c' : Cluster}

/-- Clusters that look alike are the same but for what is left out. -/
lemma ShownAlike.shown_eq {c : Cluster} (h : c.ShownAlike c') : c.shown = c'.shown := by
  obtain ⟨name, region, vpcId, ⟨image, instanceType, subnets, profile⟩, balancer⟩ := c
  obtain ⟨name', region', vpcId', ⟨image', instanceType', subnets', profile'⟩, balancer'⟩ := c'
  obtain ⟨rfl, rfl, rfl, rfl, hbalancer⟩ := h
  cases hbalancer with
  | none => rfl
  | @some b b' hb =>
    obtain ⟨scheme, isPublic, healthCheck, subnets⟩ := b
    obtain ⟨scheme', isPublic', healthCheck', subnets'⟩ := b'
    obtain ⟨rfl, rfl, rfl, hnetwork⟩ := hb
    cases isPublic with
    | false => rfl
    | true =>
      cases hnetwork rfl
      rfl

/-! ### Resources -/

lemma isSome_balancer_shown : c.shown.balancer.isSome = c.balancer.isSome :=
  Option.isSome_map

lemma groupResource_shown (subnets : List String) :
    c.shown.groupResource subnets = c.groupResource subnets := by
  rw [groupResource, groupResource, c.isSome_balancer_shown]
  rfl

lemma vpcId_shown (h : c.isPublic = true) : c.shown.vpcId = c.vpcId :=
  if_pos h

lemma securityGroup_shown (h : c.isPublic = true) : c.shown.securityGroup = c.securityGroup := by
  rw [securityGroup, securityGroup, c.vpcId_shown h]
  rfl

/-- What belongs to a balancer shows the network only if the balancer is public. -/
lemma balancerResources_shown {b : LoadBalancer} (hb : c.balancer = some b)
    (subnets : List String) :
    c.shown.balancerResources b.shown subnets = c.balancerResources b subnets := by
  have hpublic : c.isPublic = b.isPublic := by
    rw [isPublic, hb]
    rfl
  have hshown : b.shown.isPublic = b.isPublic := rfl
  have hresource : c.shown.balancerResource b.shown subnets = c.balancerResource b subnets := rfl
  rw [balancerResources, balancerResources, hshown, hresource]
  cases h : b.isPublic with
  | false => rfl
  | true => rw [c.securityGroup_shown (hpublic.trans h)]

lemma resources_shown (groupSubnets balancerSubnets : List String) :
    c.shown.resources groupSubnets balancerSubnets =
      c.resources groupSubnets balancerSubnets := by
  have hbalancer : c.shown.balancer = c.balancer.map LoadBalancer.shown := rfl
  rw [resources, resources, c.groupResource_shown, hbalancer]
  cases hb : c.balancer with
  | none => rfl
  | some b =>
    simp only [Option.map_some, c.balancerResources_shown hb]
    rfl

lemma outputs_shown : c.shown.outputs = c.outputs := by
  rw [outputs, outputs, c.isSome_balancer_shown]

lemma templateWith_shown (groupSubnets balancerSubnets : List String) :
    c.shown.templateWith groupSubnets balancerSubnets =
      c.templateWith groupSubnets balancerSubnets := by
  rw [templateWith, templateWith, c.resources_shown, c.outputs_shown]
  rfl

/-! ### Templates -/

/-- The template is that of what is shown, whatever the context gives. -/
lemma template_shown (ctx : RenderContext) : c.shown.template ctx = c.template ctx := by
  simp only [template_eq, balancerSubnetsIn, c.isSome_balancer_shown, c.templateWith_shown]

lemma subnetsIn_congr {ctx ctx' : RenderContext} {key : String}
    (h : ctx.texts? key = ctx'.texts? key) : subnetsIn ctx key = subnetsIn ctx' key := by
  rw [RenderContext.texts?, RenderContext.texts?] at h
  rw [subnetsIn, subnetsIn, RenderContext.require, RenderContext.require, h]

lemma GivenAlike.template_eq {c : Cluster} {ctx ctx' : RenderContext} (h : c.GivenAlike ctx ctx') :
    c.template ctx = c.template ctx' := by
  have hbalancer : c.balancerSubnetsIn ctx = c.balancerSubnetsIn ctx' := by
    rw [balancerSubnetsIn, balancerSubnetsIn]
    split
    · next hsome => exact subnetsIn_congr (h.balancer hsome)
    · rfl
  rw [Cluster.template_eq, Cluster.template_eq, subnetsIn_congr h.group, hbalancer]

/-- A template depends on what is shown of the cluster and on the lists that the context gives.
Clusters that look alike, given the same lists, are rendered to the same text or fail with the same
error, whatever their regions, their choices of subnets and the rest of the contexts are. -/
theorem render_eq_of_shownAlike {c c' : Cluster} {ctx ctx' : RenderContext} (h : c.ShownAlike c')
    (hctx : c.GivenAlike ctx ctx') : c.render ctx = c'.render ctx' := by
  have htemplate : c.template ctx = c'.template ctx' :=
    calc c.template ctx
      _ = c.template ctx' := hctx.template_eq
      _ = c.shown.template ctx' := (c.template_shown ctx').symm
      _ = c'.shown.template ctx' := by rw [h.shown_eq]
      _ = c'.template ctx' := c'.template_shown ctx'
  rw [render, render, htemplate]

/-- Two clusters with an internal balancer that differ in their regions, networks and choices of
subnets. One of the contexts holds a foreign value besides. -/
theorem render_eq_of_shownAlike_internal :
    ∃ (c c' : Cluster) (ctx ctx' : RenderContext) (text : String), c.region ≠ c'.region ∧
      c.vpcId ≠ c'.vpcId ∧ c.group.subnets ≠ c'.group.subnets ∧ c.balancer ≠ c'.balancer ∧
      ctx.contains "owner" ≠ ctx'.contains "owner" ∧ c.render ctx = .ok text ∧
      c'.render ctx' = .ok text := by
  let group (s : Subnets) : MachineGroup := ⟨"ami-1", "m3.large", s, some ⟨["web"], none⟩⟩
  let balancer (s : Subnets) : LoadBalancer := ⟨"internal", false, .zero, s⟩
  let c : Cluster := ⟨"web", "eu-west-1", "vpc-1", group (.byTag "a"), some (balancer (.byTag "b"))⟩
  let c' : Cluster :=
    ⟨"web", "us-east-1", "vpc-2", group (.byIds ["subnet-1"]), some (balancer .zero)⟩
  let ctx' := (RenderContext.empty.withValue groupSubnetsKey (.strings ["subnet-1"])).withValue
    balancerSubnetsKey (.strings ["subnet-2"])
  let ctx := ctx'.withValue "owner" .null
  have halike : c.ShownAlike c' :=
    ⟨rfl, rfl, rfl, rfl, .some ⟨rfl, rfl, rfl, nofun⟩⟩
  have hgroup : subnetsIn ctx' groupSubnetsKey = .ok ["subnet-1"] := by
    rw [subnetsIn_withValue_of_ne _ groupSubnetsKey_ne, subnetsIn_withValue_self]
  have hbalancer : c'.balancerSubnetsIn ctx' = .ok ["subnet-2"] := by
    show subnetsIn ctx' balancerSubnetsKey = _
    rw [subnetsIn_withValue_self]
  have ht : c'.template ctx' = .ok (c'.templateWith ["subnet-1"] ["subnet-2"]) :=
    template_eq_ok_iff.2 ⟨_, hgroup, _, hbalancer, rfl⟩
  have hrender : c'.render ctx' = .ok (c'.templateWith ["subnet-1"] ["subnet-2"]).text := by
    rw [render, ht]
    rfl
  have hgiven : c.GivenAlike ctx ctx' := ⟨rfl, fun _ => rfl⟩
  exact ⟨c, c', ctx, ctx', _, by decide, by decide, by decide, by decide, by decide,
    (render_eq_of_shownAlike halike hgiven).trans hrender, hrender⟩

end Cluster

end StackForm
