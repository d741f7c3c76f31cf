import StackForm.Proofs.Cluster.Checks
import StackForm.Proofs.Rule
import Mathlib.Logic.Basic

/-!
# Valid clusters

What validation accepts, stated on the values of a cluster, and what it reports of a cluster that it
does not accept. The fields are checked in the order of the table, and only then the choices of
subnets, the balancer's first.
-/

namespace StackForm

open Json Rule

/-! ### Valid records -/

/-- Exactly one of tag and identifiers chooses the subnets. -/
def Subnets.Selects (s : Subnets) : Prop :=
  Xor (s.tag ≠ "") (s.ids ≠ [])

structure Subnets.Valid (s : Subnets) : Prop where
  tag : IsAscii s.tag
  tagName : IsAscii s.tagName
  ids : ∀ id ∈ s.ids, IsResourceId "subnet" id
  selects : s.Selects

structure Policy.Valid (p : Policy) : Prop where
  effect : p.effect = "Allow" ∨ p.effect = "Deny"
  nonempty : p.action ≠ []
  action : ∀ a ∈ p.action, isAction a = true

structure HealthCheck.Valid (h : HealthCheck) : Prop where
  target : IsRun Char.isAlphanum h.target
  healthyThreshold : IsRun Char.isDigit h.healthyThreshold
  unhealthyThreshold : IsRun Char.isDigit h.unhealthyThreshold
  interval : IsRun Char.isDigit h.interval
  timeout : IsRun Char.isDigit h.timeout

structure LoadBalancer.Valid (b : LoadBalancer) : Prop where
  scheme : b.scheme = "internal" ∨ b.scheme = "internet-facing"
  healthCheck : b.healthCheck.Valid
  subnets : b.subnets.Valid

/-- The policy of the profile of a group, if it has both. -/
def MachineGroup.policy? (g : MachineGroup) : Option Policy :=
  g.profile.bind (·.policy)

structure Cluster.Valid (c : Cluster) : Prop where
  name : IsRun Char.isAlphanum c.name
  region : c.region ∈ regions
  vpcId : IsResourceId "vpc" c.vpcId
  image : c.group.image ≠ ""
  instanceType : c.group.instanceType ≠ ""
  subnets : c.group.subnets.Valid
  policy : ∀ p ∈ c.group.policy?, p.Valid
  balancer : ∀ b ∈ c.balancer, b.Valid

/-! ### Valid values and their checks -/

lemma Subnets.valid_iff (path : String) {s : Subnets} :
    s.Valid ↔ Check.AllHold (s.fieldChecks path) ∧ s.Selects := by
  simp only [fieldChecks, Check.allHold_append, Check.allHold_cons, Check.allHold_nil,
    Check.allHold_each, isAscii_iff, isSubnet, isResourceId_iff, and_true]
  constructor
  · rintro ⟨htag, htagName, hids, hselects⟩
    exact ⟨⟨⟨htag, htagName⟩, hids⟩, hselects⟩
  · rintro ⟨⟨⟨htag, htagName⟩, hids⟩, hselects⟩
    exact ⟨htag, htagName, hids, hselects⟩

lemma Policy.valid_iff {p : Policy} : p.Valid ↔ Check.AllHold p.fieldChecks := by
  simp only [fieldChecks, Check.allHold_append, Check.allHold_text, Check.allHold_texts,
    isEffect_iff]
  constructor
  · rintro ⟨heffect, hnonempty, haction⟩
    refine ⟨⟨?_, heffect⟩, hnonempty, haction⟩
    rcases heffect with h | h <;> simp [h]
  · rintro ⟨⟨_, heffect⟩, hnonempty, haction⟩
    exact ⟨heffect, hnonempty, haction⟩

/-- A run is not empty, so it need not be required besides. -/
lemma Rule.ne_and_isRun_iff {p : Char → Bool} {s : String} : s ≠ "" ∧ IsRun p s ↔ IsRun p s :=
  and_iff_right_of_imp And.left

lemma HealthCheck.valid_iff {h : HealthCheck} : h.Valid ↔ Check.AllHold h.fieldChecks := by
  simp only [fieldChecks, Check.allHold_append, Check.allHold_text, isAlphanum_iff, isNumeric_iff,
    ne_and_isRun_iff]
  constructor
  · rintro ⟨htarget, hhealthy, hunhealthy, hinterval, htimeout⟩
    exact ⟨⟨⟨⟨htarget, hhealthy⟩, hunhealthy⟩, hinterval⟩, htimeout⟩
  · rintro ⟨⟨⟨⟨htarget, hhealthy⟩, hunhealthy⟩, hinterval⟩, htimeout⟩
    exact ⟨htarget, hhealthy, hunhealthy, hinterval, htimeout⟩

lemma LoadBalancer.valid_iff {b : LoadBalancer} :
    b.Valid ↔ Check.AllHold b.fieldChecks ∧ b.subnets.Selects := by
  simp only [fieldChecks, Check.allHold_append, Check.allHold_text, isScheme_iff,
    ← HealthCheck.valid_iff, and_assoc, ← Subnets.valid_iff]
  constructor
  · rintro ⟨hscheme, hcheck, hsubnets⟩
    refine ⟨?_, hscheme, hcheck, hsubnets⟩
    rcases hscheme with h | h <;> simp [h]
  · rintro ⟨_, hscheme, hcheck, hsubnets⟩
    exact ⟨hscheme, hcheck, hsubnets⟩

lemma MachineGroup.allHold_profile {g : MachineGroup} :
    Check.AllHold (g.profile.elim [] InstanceProfile.fieldChecks) ↔ ∀ p ∈ g.policy?, p.Valid := by
  simp only [Check.allHold_elim, InstanceProfile.fieldChecks, ← Policy.valid_iff, policy?,
    Option.mem_def, Option.bind_eq_some_iff]
  constructor
  · rintro h p ⟨profile, hprofile, hp⟩
    exact h profile hprofile p hp
  · intro h profile hprofile p hp
    exact h p ⟨profile, hprofile, hp⟩

namespace Cluster

/-- A cluster is valid if its fields pass their checks and its subnets are chosen in one way. -/
lemma valid_iff {c : Cluster} :
    c.Valid ↔ Check.AllHold c.fieldChecks ∧ (∀ b ∈ c.balancer, b.subnets.Selects) ∧
      c.group.subnets.Selects := by
  have hbalancers : (∀ b ∈ c.balancer, b.Valid) ↔
      (∀ b ∈ c.balancer, Check.AllHold b.fieldChecks) ∧ ∀ b ∈ c.balancer, b.subnets.Selects := by
    simp only [LoadBalancer.valid_iff, forall₂_and]
  simp only [fieldChecks, MachineGroup.fieldChecks, Check.allHold_append, Check.allHold_text,
    Check.allHold_filled, Check.allHold_elim (α := LoadBalancer),
    MachineGroup.allHold_profile, isAlphanum_iff, isRegion_iff, isVpc, isResourceId_iff,
    ne_and_isRun_iff]
  constructor
  · rintro ⟨hname, hregion, hvpc, himage, htype, hsubnets, hpolicy, hbalancer⟩
    obtain ⟨hfields, hselects⟩ := (Subnets.valid_iff "autoscalingGroup.subnets").1 hsubnets
    obtain ⟨hchecks, hbalancer⟩ := hbalancers.1 hbalancer
    refine ⟨⟨⟨⟨⟨hname, ?_, hregion⟩, ?_, hvpc⟩, ⟨⟨himage, htype⟩, hfields⟩, hpolicy⟩, hchecks⟩,
      hbalancer, hselects⟩
    · rintro hempty
      rw [hempty] at hregion
      revert hregion
      decide
    · rintro hempty
      obtain ⟨digits, hdigits, -⟩ := hvpc
      simp [hempty, ← String.toList_inj] at hdigits
  · rintro ⟨⟨⟨⟨⟨hname, -, hregion⟩, -, hvpc⟩, ⟨⟨himage, htype⟩, hfields⟩, hpolicy⟩, hchecks⟩,
      hbalancer, hselects⟩
    exact ⟨hname, hregion, hvpc, himage, htype, (Subnets.valid_iff _).2 ⟨hfields, hselects⟩,
      hpolicy, hbalancers.2 ⟨hchecks, hbalancer⟩⟩

end Cluster

/-! ### What is reported -/

namespace Check

/-- The result reports the first check that does not hold, and is a success if all hold. -/
def Reported (checks : List Check) (result : Except StackError Unit) : Prop :=
  match firstFailing checks with
  | none => result = .ok ()
  | some k => ∃ detail, result = .error (.validation k.path k.rule detail)

lemma reported_run (checks : List Check) :
    Reported checks ((run checks).mapError StackError.ofRule) := by
  rw [Reported, run]
  cases firstFailing checks with
  | none => rfl
  | some k => exact ⟨_, rfl⟩

lemma Reported.bind {a b : List Check} {x y : Except StackError Unit} (hx : Reported a x)
    (hy : Reported b y) : Reported (a ++ b) (x >>= fun _ => y) := by
  rw [Reported] at hx hy ⊢
  rw [firstFailing_append]
  cases ha : firstFailing a with
  | none =>
    rw [ha] at hx
    rw [hx]
    exact hy
  | some k =>
    rw [ha] at hx
    obtain ⟨detail, rfl⟩ := hx
    exact ⟨detail, rfl⟩

variable {checks : List Check} {result : Except StackError Unit}

lemma Reported.eq_ok_iff (h : Reported checks result) : result = .ok () ↔ AllHold checks := by
  rw [← firstFailing_eq_none_iff]
  rw [Reported] at h
  cases hf : firstFailing checks with
  | none => simpa [hf] using h
  | some k =>
    rw [hf] at h
    obtain ⟨detail, rfl⟩ := h
    simp

lemma Reported.exists_error (h : Reported checks result) (hfails : ¬ AllHold checks) :
    ∃ k detail, firstFailing checks = some k ∧
      result = .error (.validation k.path k.rule detail) := by
  rw [← firstFailing_eq_none_iff] at hfails
  obtain ⟨k, hk⟩ := Option.ne_none_iff_exists'.1 hfails
  rw [Reported, hk] at h
  obtain ⟨detail, hdetail⟩ := h
  exact ⟨k, detail, hk, hdetail⟩

lemma Reported.exists_of_error {e : StackError} (h : Reported checks (.error e)) :
    ∃ k ∈ checks, ∃ detail, e = .validation k.path k.rule detail := by
  rw [Reported] at h
  cases hf : firstFailing checks with
  | none =>
    rw [hf] at h
    cases h
  | some k =>
    rw [hf] at h
    obtain ⟨detail, hdetail⟩ := h
    exact ⟨k, List.mem_of_find?_eq_some hf, detail, Except.error.inj hdetail⟩

end Check

namespace Subnets

/-- The check of the choice of subnets at a path. -/
def selectionCheck (s : Subnets) (path : String) : Check :=
  ⟨path, "subnet-selection", s.tag.isEmpty != s.ids.isEmpty⟩

lemma holds_selectionCheck {s : Subnets} {path : String} :
    (s.selectionCheck path).holds = true ↔ s.Selects := by
  rw [selectionCheck, Selects, Xor]
  cases ht : s.tag.isEmpty <;> cases hi : s.ids.isEmpty <;> simp_all

lemma reported_checkSelection (s : Subnets) (path : String) :
    Check.Reported [s.selectionCheck path] (s.checkSelection path) := by
  rw [checkSelection, selectionCheck]
  cases s.tag.isEmpty <;> cases s.ids.isEmpty
  · exact ⟨_, rfl⟩
  · rfl
  · rfl
  · exact ⟨_, rfl⟩

end Subnets

namespace Cluster

/-- All checks in the order in which they are made. -/
def checks (c : Cluster) : List Check :=
  c.fieldChecks ++
    (c.balancer.elim [] fun b => [b.subnets.selectionCheck "loadBalancer.subnets"]) ++
    [c.group.subnets.selectionCheck "autoscalingGroup.subnets"]

lemma valid_iff_allHold {c : Cluster} : c.Valid ↔ Check.AllHold c.checks := by
  rw [valid_iff]
  simp [checks, Subnets.holds_selectionCheck]

/-- The table comes first, then the balancer's choice of subnets, then that of the group. -/
lemma validateWith_eq (c : Cluster) (rules : RuleSet) :
    c.validateWith rules =
      ((constraints.validate c.toDocument rules).mapError StackError.ofRule >>= fun _ =>
        (c.balancer.elim (.ok ()) fun b => b.subnets.checkSelection "loadBalancer.subnets") >>=
          fun _ => c.group.subnets.checkSelection "autoscalingGroup.subnets") := by
  rw [validateWith]
  cases constraints.validate c.toDocument rules with
  | error e => rfl
  | ok u => cases c.balancer <;> rfl

/-- Validation makes the checks in their order. -/
lemma reported_validate (c : Cluster) : Check.Reported c.checks c.validate := by
  rw [validate, validateWith_eq, validate_eq_run c.shown_toDocument, checks, List.append_assoc]
  refine (Check.reported_run _).bind (Check.Reported.bind ?_ (Subnets.reported_checkSelection _ _))
  cases c.balancer with
  | none => rfl
  | some b => exact b.subnets.reported_checkSelection _

lemma validate_eq_ok_iff {c : Cluster} : c.validate = .ok () ↔ c.Valid :=
  c.reported_validate.eq_ok_iff.trans valid_iff_allHold.symm

/-- Validation accepts the valid clusters. Of any other it reports, as a failed validation, the path
and the rule of the first check that does not hold. -/
theorem validate_iff_valid (c : Cluster) :
    (c.validate = .ok () ↔ c.Valid) ∧
      (¬ c.Valid → ∃ k detail, Check.firstFailing c.checks = some k ∧
        c.validate = .error (.validation k.path k.rule detail)) := by
  refine ⟨validate_eq_ok_iff, fun hinvalid => ?_⟩
  rw [valid_iff_allHold] at hinvalid
  exact c.reported_validate.exists_error hinvalid

end Cluster

end StackForm
