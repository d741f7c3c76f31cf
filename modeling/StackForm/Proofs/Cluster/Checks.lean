import StackForm.Proofs.Check
import StackForm.Proofs.Cluster.Update
import StackForm.Proofs.Json.Path
import StackForm.Cluster.Validation

/-!
# The checks of a cluster

The constraints on the fields of a cluster come down to a list of checks on its values, in the order
of the table. They do so for every document that shows the cluster: a document that holds the same
texts, leaves out the same optional parts, and has an object wherever a record stands.
-/

namespace StackForm

open Json Rule

/-! ### Checks of fields -/

/-- The checks of a choice of subnets at a path. -/
def Subnets.fieldChecks (s : Subnets) (path : String) : List Check :=
  [⟨path ++ ".tag", "ascii", isAscii s.tag⟩, ⟨path ++ ".tagName", "ascii", isAscii s.tagName⟩] ++
    Check.each (path ++ ".ids") "subnet" isSubnet s.ids

def Policy.fieldChecks (p : Policy) : List Check :=
  Check.text "autoscalingGroup.iamInstanceProfile.policy.effect" "effect" isEffect p.effect ++
    Check.texts "autoscalingGroup.iamInstanceProfile.policy.action" "action" isAction p.action

/-- The roles of a profile are not checked. -/
def InstanceProfile.fieldChecks (p : InstanceProfile) : List Check :=
  p.policy.elim [] Policy.fieldChecks

def MachineGroup.fieldChecks (g : MachineGroup) : List Check :=
  Check.filled "autoscalingGroup.image" g.image ++
    Check.filled "autoscalingGroup.instanceType" g.instanceType ++
    g.subnets.fieldChecks "autoscalingGroup.subnets" ++
    g.profile.elim [] InstanceProfile.fieldChecks

def HealthCheck.fieldChecks (h : HealthCheck) : List Check :=
  Check.text "loadBalancer.healthCheck.target" "alphanum" isAlphanum h.target ++
    Check.text "loadBalancer.healthCheck.healthyThreshold" "numeric" isNumeric
      h.healthyThreshold ++
    Check.text "loadBalancer.healthCheck.unhealthyThreshold" "numeric" isNumeric
      h.unhealthyThreshold ++
    Check.text "loadBalancer.healthCheck.interval" "numeric" isNumeric h.interval ++
    Check.text "loadBalancer.healthCheck.timeout" "numeric" isNumeric h.timeout

def LoadBalancer.fieldChecks (b : LoadBalancer) : List Check :=
  Check.text "loadBalancer.scheme" "scheme" isScheme b.scheme ++ b.healthCheck.fieldChecks ++
    b.subnets.fieldChecks "loadBalancer.subnets"

/-- The checks of the fields of a cluster, in the order in which they are made. -/
def Cluster.fieldChecks (c : Cluster) : List Check :=
  Check.text "name" "alphanum" isAlphanum c.name ++
    Check.text "region" "region" isRegion c.region ++
    Check.text "vpcId" "vpc" isVpc c.vpcId ++
    c.group.fieldChecks ++
    c.balancer.elim [] LoadBalancer.fieldChecks

/-! ### Documents that show a cluster -/

/-- An optional record is shown by the part that shows it, and none by a null. -/
def Json.ShowsOption {α : Type} (shows : α → Json → Prop) (v : Json) : Option α → Prop
  | some a => shows a v
  | none => v = .null

/-- The part shows the choice of subnets. -/
structure Subnets.Shown (s : Subnets) (v : Json) : Prop where
  object : v.isObject = true
  tag : (v.part "tag").HoldsText s.tag
  tagName : (v.part "tagName").HoldsText s.tagName
  ids : (v.part "ids").HoldsTexts s.ids

structure Policy.Shown (p : Policy) (v : Json) : Prop where
  object : v.isObject = true
  effect : (v.part "effect").HoldsText p.effect
  action : (v.part "action").HoldsTexts p.action

structure InstanceProfile.Shown (p : InstanceProfile) (v : Json) : Prop where
  object : v.isObject = true
  roles : (v.part "roles").HoldsTexts p.roles
  policy : (v.part "policy").ShowsOption Policy.Shown p.policy

structure MachineGroup.Shown (g : MachineGroup) (v : Json) : Prop where
  object : v.isObject = true
  image : (v.part "image").HoldsText g.image
  instanceType : (v.part "instanceType").HoldsText g.instanceType
  subnets : g.subnets.Shown (v.part "subnets")
  profile : (v.part Cluster.profileKey).ShowsOption InstanceProfile.Shown g.profile

structure HealthCheck.Shown (h : HealthCheck) (v : Json) : Prop where
  object : v.isObject = true
  target : (v.part "target").HoldsText h.target
  healthyThreshold : (v.part "healthyThreshold").HoldsText h.healthyThreshold
  unhealthyThreshold : (v.part "unhealthyThreshold").HoldsText h.unhealthyThreshold
  interval : (v.part "interval").HoldsText h.interval
  timeout : (v.part "timeout").HoldsText h.timeout

/-- Whether a balancer is public is not checked, but it must be a truth value. -/
structure LoadBalancer.Shown (b : LoadBalancer) (v : Json) : Prop where
  object : v.isObject = true
  scheme : (v.part "scheme").HoldsText b.scheme
  isPublic : Shape.flag.Admits (v.part "public")
  healthCheck : b.healthCheck.Shown (v.part "healthCheck")
  subnets : b.subnets.Shown (v.part "subnets")

structure Cluster.Shown (c : Cluster) (v : Json) : Prop where
  name : (v.part "name").HoldsText c.name
  region : (v.part "region").HoldsText c.region
  vpcId : (v.part "vpcId").HoldsText c.vpcId
  group : c.group.Shown (v.part groupKey)
  balancer : (v.part balancerKey).ShowsOption LoadBalancer.Shown c.balancer

/-! ### What shows a cluster -/

lemma Json.showsOption_map {α : Type} {shows : α → Json → Prop} {write : α → Json}
    (h : ∀ a, shows a (write a)) (o : Option α) :
    ((o.map write).getD .null).ShowsOption shows o := by
  cases o with
  | none => rfl
  | some a => exact h a

lemma Subnets.shown_toDocument (s : Subnets) : s.Shown s.toDocument :=
  ⟨rfl, .inl rfl, .inl rfl, .inl rfl⟩

lemma Policy.shown_toDocument (p : Policy) : p.Shown p.toDocument :=
  ⟨rfl, .inl rfl, .inl rfl⟩

lemma InstanceProfile.shown_toDocument (p : InstanceProfile) : p.Shown p.toDocument := by
  have hroles : p.toDocument.part "roles" = .strings p.roles := by
    simp [toDocument, part]
  have hpolicy : p.toDocument.part "policy" = (p.policy.map Policy.toDocument).getD .null := by
    simp [toDocument, part]
  refine ⟨rfl, .inl hroles, ?_⟩
  rw [hpolicy]
  exact showsOption_map Policy.shown_toDocument p.policy

lemma MachineGroup.shown_toDocument (g : MachineGroup) : g.Shown g.toDocument := by
  have himage : g.toDocument.part "image" = .str g.image := by
    simp [toDocument, part, Cluster.profileKey]
  have htype : g.toDocument.part "instanceType" = .str g.instanceType := by
    simp [toDocument, part, Cluster.profileKey]
  have hsubnets : g.toDocument.part "subnets" = g.subnets.toDocument := by
    simp [toDocument, part, Cluster.profileKey]
  have hprofile : g.toDocument.part Cluster.profileKey =
      (g.profile.map InstanceProfile.toDocument).getD .null := by
    simp [toDocument, part, Cluster.profileKey]
  refine ⟨rfl, .inl himage, .inl htype, ?_, ?_⟩
  · rw [hsubnets]
    exact g.subnets.shown_toDocument
  · rw [hprofile]
    exact showsOption_map InstanceProfile.shown_toDocument g.profile

lemma HealthCheck.shown_toDocument (h : HealthCheck) : h.Shown h.toDocument :=
  ⟨rfl, .inl rfl, .inl rfl, .inl rfl, .inl rfl, .inl rfl⟩

lemma LoadBalancer.shown_toDocument (b : LoadBalancer) : b.Shown b.toDocument :=
  ⟨rfl, .inl rfl, .inr rfl, b.healthCheck.shown_toDocument, b.subnets.shown_toDocument⟩

/-- The document of a cluster shows it. -/
theorem Cluster.shown_toDocument (c : Cluster) : c.Shown c.toDocument := by
  have hname : c.toDocument.part "name" = .str c.name := by
    simp [toDocument, part, groupKey, balancerKey]
  have hregion : c.toDocument.part "region" = .str c.region := by
    simp [toDocument, part, groupKey, balancerKey]
  have hvpc : c.toDocument.part "vpcId" = .str c.vpcId := by
    simp [toDocument, part, groupKey, balancerKey]
  have hgroup : c.toDocument.part groupKey = c.group.toDocument := by
    simp [toDocument, part, groupKey]
  have hbalancer : c.toDocument.part balancerKey =
      (c.balancer.map LoadBalancer.toDocument).getD .null := by
    simp [toDocument, part, groupKey, balancerKey]
  refine ⟨.inl hname, .inl hregion, .inl hvpc, ?_, ?_⟩
  · rw [hgroup]
    exact c.group.shown_toDocument
  · rw [hbalancer]
    exact showsOption_map LoadBalancer.shown_toDocument c.balancer

/-! ### Parts of the table -/

open Constraint

/-- The constraints on what every group has. -/
def MachineGroup.constraints : ConstraintTable := [
    require "autoscalingGroup" .object,
    require "autoscalingGroup.image" .text,
    require "autoscalingGroup.instanceType" .text] ++
  Subnets.constraints "autoscalingGroup.subnets"

/-- The constraints below the profile, but not below its policy. -/
def InstanceProfile.constraints : ConstraintTable := [
  allow "autoscalingGroup.iamInstanceProfile.roles" .texts,
  allow "autoscalingGroup.iamInstanceProfile.policy" .object]

def Policy.constraints : ConstraintTable := [
  (require "autoscalingGroup.iamInstanceProfile.policy.effect" .text).withRule "effect",
  (require "autoscalingGroup.iamInstanceProfile.policy.action" .texts).withRule "action"]

def HealthCheck.constraints : ConstraintTable := [
  require "loadBalancer.healthCheck" .object,
  (require "loadBalancer.healthCheck.target" .text).withRule "alphanum",
  (require "loadBalancer.healthCheck.healthyThreshold" .text).withRule "numeric",
  (require "loadBalancer.healthCheck.unhealthyThreshold" .text).withRule "numeric",
  (require "loadBalancer.healthCheck.interval" .text).withRule "numeric",
  (require "loadBalancer.healthCheck.timeout" .text).withRule "numeric"]

/-- The constraints below the balancer. -/
def LoadBalancer.constraints : ConstraintTable := [
    (require "loadBalancer.scheme" .text).withRule "scheme",
    allow "loadBalancer.public" .flag] ++
  HealthCheck.constraints ++ Subnets.constraints "loadBalancer.subnets"

namespace Cluster

/-- The table goes through the records one after the other. -/
lemma constraints_eq :
    constraints = [
      (require "name" .text).withRule "alphanum",
      (require "region" .text).withRule "region",
      (require "vpcId" .text).withRule "vpc"] ++
      MachineGroup.constraints ++
      ([allow "autoscalingGroup.iamInstanceProfile" .object] ++
        (InstanceProfile.constraints ++ Policy.constraints)) ++
      ([allow "loadBalancer" .object] ++ LoadBalancer.constraints) := rfl

/-- The optional records that each part of the table lies below. -/
lemma optionalAbove_constraints :
    (∀ k ∈ [(require "name" .text).withRule "alphanum",
        (require "region" .text).withRule "region",
        (require "vpcId" .text).withRule "vpc"] ++ MachineGroup.constraints ++
        [allow "autoscalingGroup.iamInstanceProfile" .object, allow "loadBalancer" .object],
      constraints.optionalAbove k = []) ∧
    (∀ k ∈ InstanceProfile.constraints,
      constraints.optionalAbove k = ["autoscalingGroup.iamInstanceProfile"]) ∧
    (∀ k ∈ Policy.constraints, constraints.optionalAbove k =
      ["autoscalingGroup.iamInstanceProfile", "autoscalingGroup.iamInstanceProfile.policy"]) ∧
    ∀ k ∈ LoadBalancer.constraints, constraints.optionalAbove k = ["loadBalancer"] := by
  decide +kernel

end Cluster

/-! ### Records one by one -/

section Records

open ConstraintTable

variable {table : ConstraintTable} {doc : Json}

lemma Subnets.forM_constraints {s : Subnets} {path : String}
    (hskip : ∀ k ∈ Subnets.constraints path, table.skips k doc = false)
    (h : s.Shown (doc.reach (pathKeys path))) :
    (Subnets.constraints path).forM (table.checkOne .standard doc) =
      Check.run (s.fieldChecks path) := by
  have htag : doc.reach (pathKeys (path ++ ".tag")) = (doc.reach (pathKeys path)).part "tag" :=
    reach_dot doc path "tag" rfl
  have htagName : doc.reach (pathKeys (path ++ ".tagName")) =
      (doc.reach (pathKeys path)).part "tagName" := reach_dot doc path "tagName" rfl
  have hids : doc.reach (pathKeys (path ++ ".ids")) = (doc.reach (pathKeys path)).part "ids" :=
    reach_dot doc path "ids" rfl
  simp only [constraints, List.forall_mem_cons] at hskip
  obtain ⟨hs₀, hs₁, hs₂, hs₃, -⟩ := hskip
  have hrow₀ := checkOne_object .standard hs₀ rfl rfl h.object
  have hrow₁ := checkOne_allow_text_rule .standard (p := isAscii) hs₁ (fun _ => rfl) rfl
    (htag ▸ h.tag)
  have hrow₂ := checkOne_allow_text_rule .standard (p := isAscii) hs₂ (fun _ => rfl) rfl
    (htagName ▸ h.tagName)
  have hrow₃ := checkOne_allow_texts_rule .standard (p := isSubnet) hs₃ (fun _ => rfl)
    (hids ▸ h.ids)
  rw [constraints, forM_eq_run (.cons hrow₀ (.cons hrow₁ (.cons hrow₂ (.cons hrow₃ .nil))))]
  simp [fieldChecks]

lemma Policy.forM_constraints {p : Policy}
    (hskip : ∀ k ∈ Policy.constraints, table.skips k doc = false)
    (h : p.Shown (doc.reach (pathKeys "autoscalingGroup.iamInstanceProfile.policy"))) :
    Policy.constraints.forM (table.checkOne .standard doc) = Check.run p.fieldChecks := by
  simp only [constraints, List.forall_mem_cons] at hskip
  obtain ⟨hs₀, hs₁, -⟩ := hskip
  have heffect :=
    checkOne_require_text_rule .standard (p := isEffect) hs₀ (fun _ => rfl) h.effect
  have haction :=
    checkOne_require_texts_rule .standard (p := isAction) hs₁ (fun _ => rfl) h.action
  rw [constraints, forM_eq_run (.cons heffect (.cons haction .nil))]
  simp [fieldChecks]

lemma HealthCheck.forM_constraints {c : HealthCheck}
    (hskip : ∀ k ∈ HealthCheck.constraints, table.skips k doc = false)
    (h : c.Shown (doc.reach (pathKeys "loadBalancer.healthCheck"))) :
    HealthCheck.constraints.forM (table.checkOne .standard doc) = Check.run c.fieldChecks := by
  simp only [constraints, List.forall_mem_cons] at hskip
  obtain ⟨hs₀, hs₁, hs₂, hs₃, hs₄, hs₅, -⟩ := hskip
  have hobject := checkOne_object .standard hs₀ rfl rfl h.object
  have htarget :=
    checkOne_require_text_rule .standard (p := isAlphanum) hs₁ (fun _ => rfl) h.target
  have hhealthy :=
    checkOne_require_text_rule .standard (p := isNumeric) hs₂ (fun _ => rfl) h.healthyThreshold
  have hunhealthy :=
    checkOne_require_text_rule .standard (p := isNumeric) hs₃ (fun _ => rfl) h.unhealthyThreshold
  have hinterval :=
    checkOne_require_text_rule .standard (p := isNumeric) hs₄ (fun _ => rfl) h.interval
  have htimeout :=
    checkOne_require_text_rule .standard (p := isNumeric) hs₅ (fun _ => rfl) h.timeout
  rw [constraints, forM_eq_run (.cons hobject (.cons htarget (.cons hhealthy
    (.cons hunhealthy (.cons hinterval (.cons htimeout .nil))))))]
  simp [fieldChecks]

/-- The group is checked without its profile. -/
lemma MachineGroup.forM_constraints {g : MachineGroup}
    (hskip : ∀ k ∈ MachineGroup.constraints, table.skips k doc = false)
    (h : g.Shown (doc.reach (pathKeys "autoscalingGroup"))) :
    MachineGroup.constraints.forM (table.checkOne .standard doc) =
      Check.run (Check.filled "autoscalingGroup.image" g.image ++
        Check.filled "autoscalingGroup.instanceType" g.instanceType ++
        g.subnets.fieldChecks "autoscalingGroup.subnets") := by
  simp only [constraints, List.forall_mem_append, List.forall_mem_cons] at hskip
  obtain ⟨⟨hs₀, hs₁, hs₂, -⟩, hsubnets⟩ := hskip
  have hobject := checkOne_object .standard hs₀ rfl rfl h.object
  have himage := checkOne_require_text .standard hs₁ h.image
  have htype := checkOne_require_text .standard hs₂ h.instanceType
  refine forM_append_eq_run ?_ (Subnets.forM_constraints hsubnets h.subnets)
  rw [forM_eq_run (.cons hobject (.cons himage (.cons htype .nil)))]
  simp

lemma LoadBalancer.forM_constraints {b : LoadBalancer}
    (hskip : ∀ k ∈ LoadBalancer.constraints, table.skips k doc = false)
    (h : b.Shown (doc.reach (pathKeys "loadBalancer"))) :
    LoadBalancer.constraints.forM (table.checkOne .standard doc) = Check.run b.fieldChecks := by
  simp only [constraints, List.forall_mem_append, List.forall_mem_cons] at hskip
  obtain ⟨⟨⟨hs₀, hs₁, -⟩, hcheck⟩, hsubnets⟩ := hskip
  have hscheme :=
    checkOne_require_text_rule .standard (p := isScheme) hs₀ (fun _ => rfl) h.scheme
  have hpublic := checkOne_shape .standard hs₁ rfl h.isPublic (by simp [allow])
  refine forM_append_eq_run (forM_append_eq_run ?_ (HealthCheck.forM_constraints hcheck
    h.healthCheck)) (Subnets.forM_constraints hsubnets h.subnets)
  rw [forM_eq_run (.cons hscheme (.cons hpublic .nil))]
  simp

end Records

/-! ### The whole table -/

section Optional

open ConstraintTable

variable {α : Type} {shows : α → Json → Prop} {o : Option α} {table : ConstraintTable} {doc : Json}
  {path : String}

/-- An optional record itself has no rule. -/
lemma checkOne_allow_object (hskip : table.skips (allow path .object) doc = false)
    (hobj : ∀ a v, shows a v → v.isObject = true)
    (h : (doc.reach (pathKeys path)).ShowsOption shows o) :
    table.checkOne .standard doc (allow path .object) = Check.run [] := by
  refine checkOne_shape .standard hskip rfl ?_ (by simp [allow])
  cases o with
  | none => exact .inl h
  | some a => exact .inr (hobj a _ h)

/-- What is declared below an optional record is checked only if the record is there. -/
lemma forM_optional {l : List Constraint} {checks : α → List Check}
    (habove : ∀ k ∈ l, path ∈ table.optionalAbove k)
    (h : (doc.reach (pathKeys path)).ShowsOption shows o)
    (hsome : ∀ a, shows a (doc.reach (pathKeys path)) →
      l.forM (table.checkOne .standard doc) = Check.run (checks a)) :
    l.forM (table.checkOne .standard doc) = Check.run (o.elim [] checks) := by
  cases o with
  | none =>
    have hnull : doc.reach (pathKeys path) = .null := h
    refine forM_of_skips fun k hk => skips_iff.2 ⟨path, habove k hk, ?_⟩
    rw [hnull]
    rfl
  | some a => exact hsome a h

end Optional

namespace Cluster

open ConstraintTable

variable {doc : Json}

lemma forM_policy {p : InstanceProfile}
    (h : p.Shown (doc.reach (pathKeys "autoscalingGroup.iamInstanceProfile"))) :
    (InstanceProfile.constraints ++ Policy.constraints).forM
        (constraints.checkOne .standard doc) = Check.run p.fieldChecks := by
  obtain ⟨-, hprofile, hpolicy, -⟩ := optionalAbove_constraints
  have hshow : (doc.reach (pathKeys "autoscalingGroup.iamInstanceProfile.policy")).ShowsOption
      Policy.Shown p.policy := h.policy
  have hthere := isAbsent_of_isObject h.object
  have hskip : ∀ k ∈ InstanceProfile.constraints, constraints.skips k doc = false := fun k hk =>
    not_skips (by simpa [hprofile k hk] using hthere)
  simp only [InstanceProfile.constraints, List.forall_mem_cons] at hskip
  obtain ⟨hs₀, hs₁, -⟩ := hskip
  have hroles := checkOne_shape .standard hs₀ rfl h.roles.admits (by simp [allow])
  have hobject := checkOne_allow_object hs₁ (fun _ _ hq => hq.object) hshow
  refine forM_append_eq_run (forM_eq_run (.cons hroles (.cons hobject .nil)))
    (forM_optional (fun k hk => ?_) hshow fun q hq => ?_)
  · simp [hpolicy k hk]
  · refine Policy.forM_constraints (fun k hk => not_skips ?_) hq
    simpa [hpolicy k hk] using ⟨hthere, isAbsent_of_isObject hq.object⟩

lemma forM_profile {g : MachineGroup} (h : g.Shown (doc.reach (pathKeys "autoscalingGroup"))) :
    ([allow "autoscalingGroup.iamInstanceProfile" .object] ++
        (InstanceProfile.constraints ++ Policy.constraints)).forM
        (constraints.checkOne .standard doc) =
      Check.run (g.profile.elim [] InstanceProfile.fieldChecks) := by
  obtain ⟨htop, hprofile, hpolicy, -⟩ := optionalAbove_constraints
  have hshow : (doc.reach (pathKeys "autoscalingGroup.iamInstanceProfile")).ShowsOption
      InstanceProfile.Shown g.profile := h.profile
  have hskip : constraints.skips (allow "autoscalingGroup.iamInstanceProfile" .object) doc =
      false := not_skips (by simp [htop (allow "autoscalingGroup.iamInstanceProfile" .object)])
  have hobject := checkOne_allow_object hskip (fun _ _ hp => hp.object) hshow
  refine forM_append_eq_run (a := []) (forM_eq_run (.cons hobject .nil))
    (forM_optional ?_ hshow fun p hp => forM_policy hp)
  rw [List.forall_mem_append]
  exact ⟨fun k hk => by simp [hprofile k hk], fun k hk => by simp [hpolicy k hk]⟩

lemma forM_balancer {c : Cluster} (h : c.Shown doc) :
    ([allow "loadBalancer" .object] ++ LoadBalancer.constraints).forM
        (constraints.checkOne .standard doc) =
      Check.run (c.balancer.elim [] LoadBalancer.fieldChecks) := by
  obtain ⟨htop, -, -, hbalancer⟩ := optionalAbove_constraints
  have hshow : (doc.reach (pathKeys "loadBalancer")).ShowsOption LoadBalancer.Shown c.balancer :=
    h.balancer
  have hskip : constraints.skips (allow "loadBalancer" .object) doc = false :=
    not_skips (by simp [htop (allow "loadBalancer" .object)])
  have hobject := checkOne_allow_object hskip (fun _ _ hb => hb.object) hshow
  refine forM_append_eq_run (a := []) (forM_eq_run (.cons hobject .nil))
    (forM_optional (fun k hk => ?_) hshow fun b hb => ?_)
  · simp [hbalancer k hk]
  · refine LoadBalancer.forM_constraints (fun k hk => not_skips ?_) hb
    simpa [hbalancer k hk] using isAbsent_of_isObject hb.object

/-- On a document that shows a cluster, the table comes down to the checks of the cluster. -/
theorem validate_eq_run {c : Cluster} (h : c.Shown doc) :
    constraints.validate doc .standard = Check.run c.fieldChecks := by
  have hskip : ∀ k ∈ [(require "name" .text).withRule "alphanum",
      (require "region" .text).withRule "region",
      (require "vpcId" .text).withRule "vpc"] ++ MachineGroup.constraints,
      constraints.skips k doc = false := by
    intro k hk
    refine not_skips ?_
    simp [optionalAbove_constraints.1 k (List.mem_append_left _ hk)]
  rw [List.forall_mem_append] at hskip
  obtain ⟨htop, hgroup⟩ := hskip
  simp only [List.forall_mem_cons] at htop
  obtain ⟨hs₀, hs₁, hs₂, -⟩ := htop
  have hname :=
    checkOne_require_text_rule .standard (p := isAlphanum) hs₀ (fun _ => rfl) h.name
  have hregion :=
    checkOne_require_text_rule .standard (p := isRegion) hs₁ (fun _ => rfl) h.region
  have hvpc := checkOne_require_text_rule .standard (p := isVpc) hs₂ (fun _ => rfl) h.vpcId
  have hrows := forM_append_eq_run (forM_append_eq_run (forM_append_eq_run
    (forM_eq_run (.cons hname (.cons hregion (.cons hvpc .nil))))
    (MachineGroup.forM_constraints hgroup h.group)) (forM_profile h.group)) (forM_balancer h)
  rw [← constraints_eq] at hrows
  rw [ConstraintTable.validate, hrows]
  simp [fieldChecks, MachineGroup.fieldChecks]

end Cluster

end StackForm
