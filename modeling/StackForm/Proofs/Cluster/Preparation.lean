import StackForm.Proofs.Cluster.Resources

/-!
# What preparation leaves for rendering

Preparation obtains a list of subnets for the group, and one for the load balancer if there is one,
and puts them where rendering looks for them. So a cluster that was prepared has a template,
whatever the context held before, and the lists stand in it unchanged.
-/

namespace StackForm

section Steps

variable {ε σ α β : Type}

/-- A step that succeeds passes its result and its state on to the next one. -/
lemma run_bind_eq_ok_iff {x : ExceptT ε (StateM σ) α} {f : α → ExceptT ε (StateM σ) β}
    {st st' : σ} {b : β} :
    (x >>= f).run.run st = (.ok b, st') ↔
      ∃ a st₁, x.run.run st = (.ok a, st₁) ∧ (f a).run.run st₁ = (.ok b, st') := by
  cases hx : x.run.run st with
  | mk r st₁ =>
    rw [ExceptT.run_bind, StateT.run_bind]
    cases r with
    | error e =>
      constructor
      · intro h
        rw [hx] at h
        cases h
      · rintro ⟨a, st₂, h, _⟩
        cases h
    | ok a =>
      constructor
      · intro h
        rw [hx] at h
        exact ⟨a, st₁, rfl, h⟩
      · rintro ⟨a', st₂, h, hf⟩
        cases h
        rw [hx]
        exact hf

lemma run_pure_eq_ok_iff {a b : α} {st st' : σ} :
    (pure a : ExceptT ε (StateM σ) α).run.run st = (.ok b, st') ↔ a = b ∧ st = st' := by
  show ((Except.ok a : Except ε α), st) = (.ok b, st') ↔ _
  rw [Prod.mk.injEq, Except.ok.injEq]

end Steps

/-- The service gives the identifiers for a choice of subnets: those that are chosen as they are, or
those that it finds for the tag, if it finds any. -/
inductive Subnets.Obtained {σ : Type} (service : LookupService σ) (vpcId : String) (s : Subnets) :
    σ → List String → σ → Prop where
  | given {st : σ} : s.ids ≠ [] → Obtained service vpcId s st s.ids st
  | found {st st' : σ} {ids : List String} : s.ids = [] →
      (service.find s.tag vpcId).run st = (.ok ids, st') → ids ≠ [] →
      Obtained service vpcId s st ids st'

namespace Cluster

variable {σ : Type} {c : Cluster} {service : LookupService σ} {st st' : σ}

lemma foundSubnets_eq_ok_iff {tag scope : String} {answer : Except LookupError (List String)}
    {ids : List String} :
    foundSubnets tag scope answer = .ok ids ↔ answer = .ok ids ∧ ids ≠ [] := by
  cases answer with
  | error e => simp [foundSubnets]
  | ok found =>
    cases found with
    | nil => simp +contextual [foundSubnets]
    | cons id rest => simp +contextual [foundSubnets, eq_comm]

lemma resolveSubnets_eq_ok_iff {s : Subnets} {ids : List String} :
    (c.resolveSubnets service s).run.run st = (.ok ids, st') ↔
      s.Obtained service c.vpcId st ids st' := by
  rw [resolveSubnets]
  by_cases hids : s.ids = []
  · rw [if_pos (by simp [hids])]
    show (foundSubnets _ _ ((service.find s.tag c.vpcId).run st).1,
      ((service.find s.tag c.vpcId).run st).2) = _ ↔ _
    rw [Prod.mk.injEq, foundSubnets_eq_ok_iff]
    constructor
    · rintro ⟨⟨hanswer, hne⟩, rfl⟩
      exact .found hids (Prod.ext hanswer rfl) hne
    · rintro (hgiven | ⟨_, hfind, hne⟩)
      · exact absurd hids hgiven
      · rw [hfind]
        exact ⟨⟨rfl, hne⟩, rfl⟩
  · rw [if_neg (by simp [hids]), run_pure_eq_ok_iff]
    constructor
    · rintro ⟨rfl, rfl⟩
      exact .given hids
    · rintro (_ | ⟨hnone, _, _⟩)
      · exact ⟨rfl, rfl⟩
      · exact absurd hnone hids

/-- The group's subnets are obtained first, then those of the load balancer; each list is put under
the key of its part. -/
lemma prepare_eq_ok_iff {ctx ctx' : RenderContext} :
    (c.prepare service ctx).run.run st = (.ok ctx', st') ↔
      ∃ ids st₁, c.group.subnets.Obtained service c.vpcId st ids st₁ ∧
        match c.balancer with
        | none => ctx.withValue groupSubnetsKey (.strings ids) = ctx' ∧ st₁ = st'
        | some b => ∃ ids', b.subnets.Obtained service c.vpcId st₁ ids' st' ∧
            (ctx.withValue groupSubnetsKey (.strings ids)).withValue balancerSubnetsKey
              (.strings ids') = ctx' := by
  rw [prepare, run_bind_eq_ok_iff]
  simp only [resolveSubnets_eq_ok_iff]
  cases c.balancer with
  | none => simp only [run_pure_eq_ok_iff]
  | some b =>
    simp only [run_bind_eq_ok_iff, resolveSubnets_eq_ok_iff, run_pure_eq_ok_iff]
    constructor
    · rintro ⟨ids, st₁, hgroup, ids', st₂, hbalancer, hctx, rfl⟩
      exact ⟨ids, st₁, hgroup, ids', hbalancer, hctx⟩
    · rintro ⟨ids, st₁, hgroup, ids', hbalancer, hctx⟩
      exact ⟨ids, st₁, hgroup, ids', st', hbalancer, hctx, rfl⟩

/-! ### Rendering what was prepared -/

variable {groupSubnets balancerSubnets : List String}

lemma zones_groupResource (c : Cluster) (subnets : List String) :
    (c.groupResource subnets).get? "VPCZoneIdentifier" = some (.strings subnets) :=
  Resource.get?_withProperties_ite (by simp [Keyed.keys]) (by simp)

lemma subnets_balancerResource (c : Cluster) (b : LoadBalancer) (subnets : List String) :
    (c.balancerResource b subnets).get? "Subnets" = some (.strings subnets) :=
  Resource.get?_withProperties_ite (by simp [Keyed.keys]) (by simp)

lemma resource?_autoScalingGroup :
    (c.templateWith groupSubnets balancerSubnets).resource? "AutoScalingGroup" =
      some (c.groupResource groupSubnets) :=
  resource?_templateWith (by simp [resources])

lemma resource?_loadBalancer {b : LoadBalancer} (hb : c.balancer = some b) :
    (c.templateWith groupSubnets balancerSubnets).resource? "LoadBalancer" =
      some (c.balancerResource b balancerSubnets) :=
  resource?_templateWith (by simp [resources, hb, balancerResources])

lemma render_of_template {ctx : RenderContext} {t : Template} (h : c.template ctx = .ok t) :
    c.render ctx = .ok t.text := by
  rw [render, h]
  rfl

/-- A cluster that was prepared can be rendered, and its template holds the lists of subnets that
were obtained for the group and for the load balancer. -/
theorem template_of_prepare {ctx ctx' : RenderContext}
    (h : (c.prepare service ctx).run.run st = (.ok ctx', st')) :
    ∃ t ids st₁, c.template ctx' = .ok t ∧ c.render ctx' = .ok t.text ∧
      c.group.subnets.Obtained service c.vpcId st ids st₁ ∧
      (t.resource? "AutoScalingGroup").bind (·.get? "VPCZoneIdentifier") = some (.strings ids) ∧
      ∀ b, c.balancer = some b →
        ∃ ids', b.subnets.Obtained service c.vpcId st₁ ids' st' ∧
          (t.resource? "LoadBalancer").bind (·.get? "Subnets") = some (.strings ids') := by
  obtain ⟨ids, st₁, hgroup, h⟩ := prepare_eq_ok_iff.1 h
  have hzones : ∀ ids', ((c.templateWith ids ids').resource? "AutoScalingGroup").bind
      (·.get? "VPCZoneIdentifier") = some (.strings ids) := by
    intro ids'
    rw [resource?_autoScalingGroup]
    exact c.zones_groupResource ids
  cases hb : c.balancer with
  | none =>
    rw [hb] at h
    obtain ⟨rfl, rfl⟩ := h
    have ht : c.template (ctx.withValue groupSubnetsKey (.strings ids)) =
        .ok (c.templateWith ids []) := by
      refine template_eq_ok_iff.2 ⟨ids, subnetsIn_withValue_self _ _ _, [], ?_, rfl⟩
      rw [balancerSubnetsIn, hb]
      rfl
    exact ⟨_, ids, st₁, ht, render_of_template ht, hgroup, hzones [], fun b h => by cases h⟩
  | some b =>
    rw [hb] at h
    obtain ⟨ids', hbalancer, rfl⟩ := h
    have ht : c.template ((ctx.withValue groupSubnetsKey (.strings ids)).withValue
        balancerSubnetsKey (.strings ids')) = .ok (c.templateWith ids ids') := by
      refine template_eq_ok_iff.2 ⟨ids, ?_, ids', ?_, rfl⟩
      · rw [subnetsIn_withValue_of_ne _ groupSubnetsKey_ne, subnetsIn_withValue_self]
      · rw [balancerSubnetsIn, hb]
        exact subnetsIn_withValue_self _ _ _
    refine ⟨_, ids, st₁, ht, render_of_template ht, hgroup, hzones ids', ?_⟩
    rintro _ ⟨rfl⟩
    refine ⟨ids', hbalancer, ?_⟩
    rw [resource?_loadBalancer hb]
    exact c.subnets_balancerResource b ids'

/-- The group's subnets are found by a tag and the balancer's are given; the context holds a value
of another shape where the group's subnets are put. -/
theorem template_of_prepare_stale :
    ∃ (c : Cluster) (ctx ctx' : RenderContext) (st st' : CannedLookup) (t : Template),
      subnetsIn ctx groupSubnetsKey = .error (RenderContext.missing groupSubnetsKey) ∧
      (c.prepare CannedLookup.service ctx).run.run st = (.ok ctx', st') ∧
      c.template ctx' = .ok t ∧
      (t.resource? "AutoScalingGroup").bind (·.get? "VPCZoneIdentifier") =
        some (.strings ["subnet-1"]) ∧
      (t.resource? "LoadBalancer").bind (·.get? "Subnets") = some (.strings ["subnet-2"]) := by
  let c : Cluster := ⟨"web", "", "vpc-1", ⟨"", "", .byTag "db", none⟩,
    some ⟨"internal", true, .zero, .byIds ["subnet-2"]⟩⟩
  let ctx := RenderContext.empty.withValue groupSubnetsKey (.bool true)
  let st := CannedLookup.empty.withIds "db" ["subnet-1"]
  have h : (c.prepare CannedLookup.service ctx).run.run st =
      (.ok ((ctx.withValue groupSubnetsKey (.strings ["subnet-1"])).withValue balancerSubnetsKey
        (.strings ["subnet-2"])), { st with calls := [("db", "vpc-1")] }) := rfl
  obtain ⟨t, ids, st₁, ht, _, hgroup, hzones, hbalancer⟩ := template_of_prepare h
  obtain ⟨ids', hobtained, hsubnets⟩ := hbalancer _ rfl
  have hids : ids = ["subnet-1"] := by
    cases hgroup with
    | given hne => exact absurd rfl hne
    | found _ hfind _ => exact (Except.ok.inj (congrArg Prod.fst hfind)).symm
  have hids' : ids' = ["subnet-2"] := by
    cases hobtained with
    | given _ => rfl
    | found hnone _ _ => cases hnone
  rw [hids] at hzones
  rw [hids'] at hsubnets
  exact ⟨c, ctx, _, st, _, t, rfl, h, ht, hzones, hsubnets⟩

end Cluster

end StackForm
