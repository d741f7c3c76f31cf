import StackForm.Proofs.Cluster.Preparation
import StackForm.Proofs.Lookup.Enquiry

/-!
# What preparation touches

Preparation writes the subnets of the parts that the cluster has and touches nothing else in the
context, whatever stands there. If the answers of the service are fixed, preparing again writes the
same lists over themselves: the context stays as it is.
-/

namespace StackForm

open Json

/-! ### Contexts -/

namespace RenderContext

lemma ext_get? {ctx ctx' : RenderContext}
    (h : ∀ key, ctx.values.get? key = ctx'.values.get? key) : ctx = ctx' := by
  cases ctx
  cases ctx'
  exact congrArg RenderContext.mk (KeyMap.eq_of_get? h)

lemma get?_withValue (ctx : RenderContext) (key other : String) (value : Json) :
    (ctx.withValue key value).values.get? other =
      if other = key then some value else ctx.values.get? other :=
  KeyMap.get?_insert ctx.values key other value

lemma mem_keys_iff {ctx : RenderContext} {key : String} :
    key ∈ ctx.keys ↔ (ctx.values.get? key).isSome = true :=
  KeyMap.mem_keys_iff

/-- The keys are listed in ascending order, each once. -/
lemma pairwise_keys (ctx : RenderContext) : ctx.keys.Pairwise (· < ·) :=
  List.pairwise_map.2 ctx.values.ascending

end RenderContext

/-! ### Fixed answers -/

namespace Subnets.Obtained

variable {σ : Type} {service : LookupService σ} {vpcId : String} {s : Subnets}
  {st st₀ st₁ st₂ : σ} {ids : List String}

lemma reaches (h : s.Obtained service vpcId st ids st₁) : service.Reaches st st₁ := by
  cases h with
  | given _ => exact .refl st
  | found _ hfind _ => exact .find hfind

/-- With fixed answers the same identifiers are obtained at any time. -/
lemma again (hfixed : service.Fixed st) (h₀ : service.Reaches st st₀)
    (h : s.Obtained service vpcId st₀ ids st₁) (h₂ : service.Reaches st st₂) :
    ∃ st₃, s.Obtained service vpcId st₂ ids st₃ := by
  cases h with
  | given hids => exact ⟨st₂, .given hids⟩
  | found hids hfind hne =>
    obtain ⟨answers, hanswers⟩ := hfixed
    have hanswer : ((service.find s.tag vpcId).run st₂).1 = .ok ids := by
      rw [hanswers st₂ h₂, ← hanswers st₀ h₀, hfind]
    exact ⟨_, .found hids (Prod.ext hanswer rfl) hne⟩

end Subnets.Obtained

namespace Cluster

variable {σ : Type} {c : Cluster} {service : LookupService σ} {ctx ctx' : RenderContext}
  {st st' : σ} {key : String} {ids ids' : List String}

/-! ### Filled contexts -/

/-- The keys under which the subnets of a cluster are put. -/
inductive Fills (c : Cluster) : String → Prop where
  | group : Fills c groupSubnetsKey
  | balancer : c.balancer.isSome = true → Fills c balancerSubnetsKey

/-- The context with lists of subnets for the group and, if there is one, for the balancer. -/
def filled (c : Cluster) (ctx : RenderContext) (ids ids' : List String) : RenderContext :=
  if c.balancer.isSome then
    (ctx.withValue groupSubnetsKey (.strings ids)).withValue balancerSubnetsKey (.strings ids')
  else ctx.withValue groupSubnetsKey (.strings ids)

lemma get?_filled (c : Cluster) (ctx : RenderContext) (ids ids' : List String) (key : String) :
    (c.filled ctx ids ids').values.get? key =
      if c.balancer.isSome = true ∧ key = balancerSubnetsKey then some (.strings ids')
      else if key = groupSubnetsKey then some (.strings ids)
      else ctx.values.get? key := by
  rw [filled]
  cases c.balancer.isSome <;> simp [RenderContext.get?_withValue]

lemma get?_filled_of_not_fills (h : ¬ c.Fills key) :
    (c.filled ctx ids ids').values.get? key = ctx.values.get? key := by
  have hbalancer : ¬ (c.balancer.isSome = true ∧ key = balancerSubnetsKey) := by
    rintro ⟨hsome, rfl⟩
    exact h (.balancer hsome)
  have hgroup : key ≠ groupSubnetsKey := by
    rintro rfl
    exact h .group
  rw [get?_filled, if_neg hbalancer, if_neg hgroup]

lemma isSome_get?_filled (h : c.Fills key) :
    ((c.filled ctx ids ids').values.get? key).isSome = true := by
  rw [get?_filled]
  cases h with
  | group => split <;> simp
  | balancer hsome => simp [hsome]

lemma mem_keys_filled : key ∈ (c.filled ctx ids ids').keys ↔ key ∈ ctx.keys ∨ c.Fills key := by
  rw [RenderContext.mem_keys_iff, RenderContext.mem_keys_iff]
  by_cases h : c.Fills key
  · exact iff_of_true (isSome_get?_filled h) (.inr h)
  · rw [get?_filled_of_not_fills h, or_iff_left h]

/-- Filling a filled context with the same lists changes nothing. -/
lemma filled_filled :
    c.filled (c.filled ctx ids ids') ids ids' = c.filled ctx ids ids' := by
  apply RenderContext.ext_get?
  intro key
  rw [get?_filled, get?_filled]
  split_ifs <;> rfl

/-! ### Preparation -/

/-- Preparation fills the context. With fixed answers it fills any context, at any time, with the
same lists. -/
lemma exists_filled_of_prepare (h : (c.prepare service ctx).run.run st = (.ok ctx', st')) :
    ∃ ids ids', ctx' = c.filled ctx ids ids' ∧ service.Reaches st st' ∧
      (service.Fixed st → ∀ ctx₂ st₂, service.Reaches st st₂ →
        ∃ st₃, (c.prepare service ctx₂).run.run st₂ = (.ok (c.filled ctx₂ ids ids'), st₃)) := by
  obtain ⟨ids, st₁, hgroup, h⟩ := prepare_eq_ok_iff.1 h
  cases hb : c.balancer with
  | none =>
    rw [hb] at h
    obtain ⟨rfl, rfl⟩ := h
    refine ⟨ids, [], by simp [filled, hb], hgroup.reaches, fun hfixed ctx₂ st₂ h₂ => ?_⟩
    obtain ⟨st₃, hagain⟩ := hgroup.again hfixed (.refl st) h₂
    refine ⟨st₃, prepare_eq_ok_iff.2 ⟨ids, st₃, hagain, ?_⟩⟩
    simp [filled, hb]
  | some b =>
    rw [hb] at h
    obtain ⟨ids', hbalancer, rfl⟩ := h
    refine ⟨ids, ids', by simp [filled, hb], hgroup.reaches.trans hbalancer.reaches,
      fun hfixed ctx₂ st₂ h₂ => ?_⟩
    obtain ⟨st₃, hagain⟩ := hgroup.again hfixed (.refl st) h₂
    obtain ⟨st₄, hagain'⟩ := hbalancer.again hfixed hgroup.reaches (h₂.trans hagain.reaches)
    refine ⟨st₄, prepare_eq_ok_iff.2 ⟨ids, st₃, hagain, ?_⟩⟩
    simp only [filled, hb]
    exact ⟨ids', hagain', rfl⟩

/-- Preparation touches the keys of the parts that the cluster has, and no others: a value of a
balancer that is not there stays as it is. The keys of the context are the old ones and those, in
ascending order. With fixed answers preparation is stable: run again, at any time, it succeeds and
leaves the context as it is. -/
theorem prepare_stable (h : (c.prepare service ctx).run.run st = (.ok ctx', st')) :
    (∀ key, ¬ c.Fills key → ctx'.values.get? key = ctx.values.get? key) ∧
      (∀ key, key ∈ ctx'.keys ↔ key ∈ ctx.keys ∨ c.Fills key) ∧
      ctx'.keys.Pairwise (· < ·) ∧
      service.Reaches st st' ∧
      (service.Fixed st → ∀ st₁, service.Reaches st st₁ →
        ∃ st₂, (c.prepare service ctx').run.run st₁ = (.ok ctx', st₂)) := by
  obtain ⟨ids, ids', rfl, hreaches, hagain⟩ := exists_filled_of_prepare h
  refine ⟨fun key hkey => get?_filled_of_not_fills hkey, fun key => mem_keys_filled,
    RenderContext.pairwise_keys _, hreaches, fun hfixed st₁ h₁ => ?_⟩
  obtain ⟨st₂, hprepare⟩ := hagain hfixed (c.filled ctx ids ids') st₁ h₁
  rw [filled_filled] at hprepare
  exact ⟨st₂, hprepare⟩

/-- A cluster without a balancer whose subnets are found by a tag. The context holds a value of
another shape for the group, and one that is left from a balancer. -/
theorem prepare_stable_leftover :
    ∃ (c : Cluster) (ctx ctx' : RenderContext) (st st' st'' : CannedLookup), c.balancer = none ∧
      (c.prepare CannedLookup.service ctx).run.run st = (.ok ctx', st') ∧ ctx' ≠ ctx ∧
      ctx'.values.get? balancerSubnetsKey = some (.bool true) ∧
      balancerSubnetsKey ∈ ctx'.keys ∧ groupSubnetsKey ∈ ctx'.keys ∧
      (c.prepare CannedLookup.service ctx').run.run st' = (.ok ctx', st'') := by
  let c : Cluster := ⟨"web", "", "vpc-1", ⟨"", "", .byTag "db", none⟩, none⟩
  let ctx := (RenderContext.empty.withValue balancerSubnetsKey (.bool true)).withValue
    groupSubnetsKey .null
  let ctx' := ctx.withValue groupSubnetsKey (.strings ["subnet-1"])
  let st := CannedLookup.empty.withIds "db" ["subnet-1"]
  have h : (c.prepare CannedLookup.service ctx).run.run st =
      (.ok ctx', { st with calls := [("db", "vpc-1")] }) := rfl
  obtain ⟨hframe, hkeys, -, hreaches, hstable⟩ := prepare_stable h
  have hfills : ¬ c.Fills balancerSubnetsKey := by
    intro hfills
    generalize hkey : balancerSubnetsKey = key at hfills
    cases hfills with
    | group => exact groupSubnetsKey_ne hkey.symm
    | balancer hsome => cases hsome
  have hne : ctx' ≠ ctx := by
    intro heq
    have hgroup : ctx'.values.get? groupSubnetsKey = ctx.values.get? groupSubnetsKey := by rw [heq]
    cases hgroup
  obtain ⟨st'', hagain⟩ := hstable st.fixed_service _ hreaches
  exact ⟨c, ctx, ctx', st, _, st'', rfl, h, hne, hframe _ hfills,
    (hkeys _).2 (.inl (RenderContext.mem_keys_iff.2 rfl)), (hkeys _).2 (.inr .group), hagain⟩

end Cluster

end StackForm
