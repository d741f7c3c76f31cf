import StackForm.Proofs.Cluster.Field
import StackForm.Proofs.Cluster.Properties
import StackForm.Proofs.Cluster.Saved
import StackForm.Proofs.Json.Reader.Ordered

/-!
# What a template shows of a configuration

The template of a cluster that was loaded and prepared holds the values of the configuration: they
stand in it as they stand in the document, in the property that is meant for them. The proof has two
halves that meet at the cluster. Its fields come from the document, because a valid cluster has no
empty fields and so none that were left as they are at first. And its template shows the fields.
-/

namespace StackForm

open Json

/-! ### Values of a document -/

namespace Json

/-- The value is there, and the document holds it under the keys. -/
def Supplies (d : Json) (keys : List String) (value : Option Json) : Prop :=
  ∃ v, d.at? keys = some v ∧ value = some v

/-- The subnets that a document chooses under the keys: its identifiers if it gives some, or else
those that the service finds for its tag in its network. -/
inductive Chooses {σ : Type} (d : Json) (service : LookupService σ) (keys : List String) :
    σ → List String → σ → Prop where
  | given {st : σ} {ids : List String} : ids ≠ [] → d.at? (keys ++ ["ids"]) = some (.strings ids) →
      Chooses d service keys st ids st
  | found {st st' : σ} {ids : List String} {tag vpcId : String} :
      (∀ ids, d.at? (keys ++ ["ids"]) = some (.strings ids) → ids = []) →
      d.at? (keys ++ ["tag"]) = some (.str tag) → d.at? ["vpcId"] = some (.str vpcId) →
      (service.find tag vpcId).run st = (.ok ids, st') → Chooses d service keys st ids st'

end Json

/-! ### Values of a template -/

open Cluster in
/-- The template shows what the document says, with the subnets that the service finds between the
two states. -/
structure Template.Reflects {σ : Type} (t : Template) (d : Json) (service : LookupService σ)
    (st st' : σ) : Prop where
  image : d.Supplies [groupKey, "image"] (t.property? "LaunchConfiguration" "ImageId")
  instanceType :
    d.Supplies [groupKey, "instanceType"] (t.property? "LaunchConfiguration" "InstanceType")
  subnets : ∃ ids st₁, d.Chooses service [groupKey, "subnets"] st ids st₁ ∧
    t.property? "AutoScalingGroup" "VPCZoneIdentifier" = some (.strings ids) ∧
    if (d.given? [balancerKey]).isSome then
      ∃ ids', d.Chooses service [balancerKey, "subnets"] st₁ ids' st' ∧
        t.property? "LoadBalancer" "Subnets" = some (.strings ids')
    else st₁ = st'
  balancer_iff : "LoadBalancer" ∈ t.resources.keys ↔ (d.given? [balancerKey]).isSome = true
  scheme : (d.given? [balancerKey]).isSome = true →
    d.Supplies [balancerKey, "scheme"] (t.property? "LoadBalancer" "Scheme")
  healthCheck : (d.given? [balancerKey]).isSome = true → ∃ check,
    t.property? "LoadBalancer" "HealthCheck" = some check ∧
    d.Supplies [balancerKey, "healthCheck", "healthyThreshold"] (check.get? "HealthyThreshold") ∧
    d.Supplies [balancerKey, "healthCheck", "unhealthyThreshold"]
      (check.get? "UnhealthyThreshold") ∧
    d.Supplies [balancerKey, "healthCheck", "interval"] (check.get? "Interval") ∧
    d.Supplies [balancerKey, "healthCheck", "timeout"] (check.get? "Timeout") ∧
    ∃ target, d.at? [balancerKey, "healthCheck", "target"] = some (.str target) ∧
      check.get? "Target" = some (.str ("HTTP:80/" ++ target))
  policy_iff : "InstancePolicy" ∈ t.resources.keys ↔
    (d.given? [groupKey, profileKey, "policy"]).isSome = true
  policy : (d.given? [groupKey, profileKey, "policy"]).isSome = true → ∃ document statement,
    t.property? "InstancePolicy" "PolicyDocument" = some document ∧
    document.get? "Statement" = some (.arr [statement]) ∧
    d.Supplies [groupKey, profileKey, "policy", "effect"] (statement.get? "Effect") ∧
    d.Supplies [groupKey, profileKey, "policy", "action"] (statement.get? "Action")
  roles : (d.given? [groupKey, profileKey]).isSome = true →
    (∃ roles, roles ≠ [] ∧ d.at? [groupKey, profileKey, "roles"] = some (.strings roles) ∧
      t.property? "InstanceProfile" "Roles" = some (.strings roles)) ∨
    (∀ roles, d.at? [groupKey, profileKey, "roles"] = some (.strings roles) → roles = []) ∧
      t.property? "InstanceProfile" "Roles" = some (.arr [reference "InstanceRole"])
  names : ∀ entry ∈ t.resources.entries, ∀ tags, entry.2.get? "Tags" = some (.arr tags) →
    ∀ tag ∈ tags, tag.get? "Key" = some (.str "Name") → d.Supplies ["name"] (tag.get? "Value")
  named : ∀ name ∈ ["VPC", "AutoScalingGroup", "LoadBalancer"], name ∈ t.resources.keys →
    ∃ tags, t.property? name "Tags" = some (.arr tags) ∧
      ∃ tag ∈ tags, tag.get? "Key" = some (.str "Name")

/-! ### The fields come from the document -/

namespace Json

variable {d : Json} {keys : List String}

/-- The document holds the list under the keys; an empty list need not stand there. -/
structure Lists (d : Json) (keys : List String) (texts : List String) : Prop where
  some_of_ne : texts ≠ [] → d.at? keys = some (.strings texts)
  eq_nil : texts = [] → ∀ texts', d.at? keys = some (.strings texts') → texts' = []

lemma at?_of_reach_ne (h : d.reach keys ≠ .null) : d.at? keys = some (d.reach keys) := by
  rw [← getD_at?] at h ⊢
  cases hv : d.at? keys with
  | none =>
    rw [hv] at h
    exact absurd rfl h
  | some v => rfl

/-- A text that is not empty was not there before. -/
lemma at?_of_textOr {s : String} (hshape : Shape.text.Admits (d.reach keys))
    (hs : (d.reach keys).textOr "" = s) (hne : s ≠ "") : d.at? keys = some (.str s) := by
  subst hs
  rcases hshape with hnull | hstring
  · rw [hnull] at hne
    exact absurd rfl hne
  · have hat : d.reach keys ≠ .null → d.at? keys = some (d.reach keys) := at?_of_reach_ne
    generalize d.reach keys = v at *
    cases v with
    | str s => exact hat nofun
    | _ => cases hstring

lemma lists_textsOr {texts : List String} (hshape : Shape.texts.Admits (d.reach keys))
    (hs : (d.reach keys).textsOr [] = texts) : d.Lists keys texts := by
  subst hs
  constructor
  · intro hne
    rcases hshape with hnull | hlist
    · rw [hnull] at hne
      exact absurd rfl hne
    · have hat : d.reach keys ≠ .null → d.at? keys = some (d.reach keys) := at?_of_reach_ne
      generalize d.reach keys = v at *
      cases v with
      | arr items => rw [hat nofun, strings_textsOr hlist]
      | _ => cases hlist
  · intro hnil texts' h
    rw [← getD_at?, h, Option.getD_some, textsOr_strings] at hnil
    exact hnil

lemma isSome_given? (d : Json) (keys : List String) (hshape : Shape.object.Admits (d.reach keys)) :
    (d.given? keys).isSome = (d.reach keys).isObject := by
  rw [given?_eq]
  rcases hshape with hnull | hobject
  · rw [hnull]
    rfl
  · generalize d.reach keys = v at *
    cases v with
    | obj members => rfl
    | _ => cases hobject

variable {α : Type} {update : α → Json → α} {zero a : α} {v : Json}

lemma isSome_recordOr : (v.recordOr update zero none).isSome = v.isObject := by
  rw [recordOr]
  cases v.isObject <;> rfl

/-- A record that was not there before is read from the document alone. -/
lemma update_of_recordOr (h : v.recordOr update zero none = some a) : update zero v = a := by
  rw [recordOr] at h
  split at h
  · exact Option.some.inj h
  · cases h

end Json

/-- An identifier begins with the name of its kind. -/
lemma Rule.IsResourceId.ne_empty {resource s : String} (h : Rule.IsResourceId resource s) :
    s ≠ "" := by
  rintro rfl
  obtain ⟨digits, hdigits, -⟩ := h
  have hlist := congrArg String.toList hdigits
  simp at hlist

namespace Cluster

/-- The document describes the choice of subnets under the keys. -/
structure DescribesSubnets (d : Json) (keys : List String) (s : Subnets) : Prop where
  ids : d.Lists (keys ++ ["ids"]) s.ids
  tag : s.tag ≠ "" → d.at? (keys ++ ["tag"]) = some (.str s.tag)

structure DescribesCheck (d : Json) (keys : List String) (h : HealthCheck) : Prop where
  target : d.at? (keys ++ ["target"]) = some (.str h.target)
  healthyThreshold : d.at? (keys ++ ["healthyThreshold"]) = some (.str h.healthyThreshold)
  unhealthyThreshold : d.at? (keys ++ ["unhealthyThreshold"]) = some (.str h.unhealthyThreshold)
  interval : d.at? (keys ++ ["interval"]) = some (.str h.interval)
  timeout : d.at? (keys ++ ["timeout"]) = some (.str h.timeout)

/-- The document holds the fields that the template of the cluster shows. -/
structure Describes (d : Json) (c : Cluster) : Prop where
  name : d.at? ["name"] = some (.str c.name)
  vpcId : d.at? ["vpcId"] = some (.str c.vpcId)
  image : d.at? [groupKey, "image"] = some (.str c.group.image)
  instanceType : d.at? [groupKey, "instanceType"] = some (.str c.group.instanceType)
  subnets : DescribesSubnets d [groupKey, "subnets"] c.group.subnets
  profile : (d.given? [groupKey, profileKey]).isSome = c.group.profile.isSome
  roles : ∀ p ∈ c.group.profile, d.Lists [groupKey, profileKey, "roles"] p.roles
  policy : (d.given? [groupKey, profileKey, "policy"]).isSome = c.group.policy?.isSome
  effect : ∀ q ∈ c.group.policy?,
    d.at? [groupKey, profileKey, "policy", "effect"] = some (.str q.effect)
  action : ∀ q ∈ c.group.policy?,
    d.at? [groupKey, profileKey, "policy", "action"] = some (.strings q.action)
  balancer : (d.given? [balancerKey]).isSome = c.balancer.isSome
  scheme : ∀ b ∈ c.balancer, d.at? [balancerKey, "scheme"] = some (.str b.scheme)
  healthCheck : ∀ b ∈ c.balancer, DescribesCheck d [balancerKey, "healthCheck"] b.healthCheck
  balancerSubnets : ∀ b ∈ c.balancer, DescribesSubnets d [balancerKey, "subnets"] b.subnets

variable {d : Json}

lemma describesCheck {keys : List String} {h : HealthCheck} (hs : HealthCheck.Shaped (d.reach keys))
    (hh : HealthCheck.zero.update (d.reach keys) = h) (hv : h.Valid) : DescribesCheck d keys h := by
  subst hh
  have hfield : ∀ {key : String} {s : String}, Shape.text.Admits ((d.reach keys).part key) →
      ((d.reach keys).part key).textOr "" = s → s ≠ "" → d.at? (keys ++ [key]) = some (.str s) := by
    intro key s hshape
    rw [← reach_concat] at hshape ⊢
    exact at?_of_textOr hshape
  exact ⟨hfield hs.target rfl hv.target.1, hfield hs.healthyThreshold rfl hv.healthyThreshold.1,
    hfield hs.unhealthyThreshold rfl hv.unhealthyThreshold.1, hfield hs.interval rfl hv.interval.1,
    hfield hs.timeout rfl hv.timeout.1⟩

lemma policy?_update (d : Json) : (initial.update d).group.policy? =
    (d.reach [groupKey, profileKey, "policy"]).recordOr Policy.update .zero none := by
  show (((d.part groupKey).part profileKey).recordOr InstanceProfile.update .zero none).bind
    (·.policy) = (((d.part groupKey).part profileKey).part "policy").recordOr _ _ _
  cases hobj : ((d.part groupKey).part profileKey).isObject with
  | true =>
    rw [recordOr, if_pos hobj]
    rfl
  | false =>
    rw [part_of_not_isObject hobj, recordOr, if_neg (by simp [hobj])]
    rfl

/-- A document describes the cluster that it is read as, if that is valid: no field is left empty
then that must not be. -/
lemma describes_update (hs : Shaped d) (hv : (initial.update d).Valid) :
    Describes d (initial.update d) where
  name := at?_of_textOr hs.name rfl hv.name.1
  vpcId := at?_of_textOr hs.vpcId rfl hv.vpcId.ne_empty
  image := at?_of_textOr hs.group.image rfl hv.image
  instanceType := at?_of_textOr hs.group.instanceType rfl hv.instanceType
  subnets := ⟨lists_textsOr hs.group.subnets.ids rfl, at?_of_textOr hs.group.subnets.tag rfl⟩
  profile := (d.isSome_given? [groupKey, profileKey] hs.group.profile.object).trans isSome_recordOr.symm
  roles := by
    intro p hp
    obtain rfl := update_of_recordOr hp
    exact lists_textsOr hs.group.profile.roles rfl
  policy := by
    rw [policy?_update]
    exact (d.isSome_given? [groupKey, profileKey, "policy"] hs.group.profile.policy.object).trans
      isSome_recordOr.symm
  effect := by
    intro q hq
    have hne : q.effect ≠ "" := by
      rcases (hv.policy q hq).effect with h | h <;> simp [h]
    rw [policy?_update] at hq
    obtain rfl := update_of_recordOr hq
    exact at?_of_textOr hs.group.profile.policy.effect rfl hne
  action := by
    intro q hq
    have hne := (hv.policy q hq).nonempty
    rw [policy?_update] at hq
    obtain rfl := update_of_recordOr hq
    have hlists : d.Lists [groupKey, profileKey, "policy", "action"] _ :=
      lists_textsOr hs.group.profile.policy.action rfl
    exact hlists.some_of_ne hne
  balancer := (d.isSome_given? [balancerKey] hs.balancer.object).trans isSome_recordOr.symm
  scheme := by
    intro b hb
    have hne : b.scheme ≠ "" := by
      rcases (hv.balancer b hb).scheme with h | h <;> simp [h]
    obtain rfl := update_of_recordOr hb
    exact at?_of_textOr hs.balancer.scheme rfl hne
  healthCheck := by
    intro b hb
    have hvalid := (hv.balancer b hb).healthCheck
    obtain rfl := update_of_recordOr hb
    exact describesCheck hs.balancer.healthCheck rfl hvalid
  balancerSubnets := by
    intro b hb
    obtain rfl := update_of_recordOr hb
    exact ⟨lists_textsOr hs.balancer.subnets.ids rfl, at?_of_textOr hs.balancer.subnets.tag rfl⟩

/-! ### The template shows the fields -/

variable {σ : Type} {service : LookupService σ} {st st' : σ} {c : Cluster}
  {groupSubnets balancerSubnets : List String}

/-- What is obtained for a choice of subnets is what the document chooses. -/
lemma chooses_of_obtained {keys ids : List String} {s : Subnets} (hs : DescribesSubnets d keys s)
    (hvpc : d.at? ["vpcId"] = some (.str c.vpcId)) (hv : s.Valid)
    (h : s.Obtained service c.vpcId st ids st') : d.Chooses service keys st ids st' := by
  cases h with
  | given hne => exact .given hne (hs.ids.some_of_ne hne)
  | found hnil hfind _ =>
    have htag : s.tag ≠ "" := by
      rcases hv.selects with ⟨htag, _⟩ | ⟨hne, _⟩
      · exact htag
      · exact absurd hnil hne
    exact .found (hs.ids.eq_nil hnil) (hs.tag htag) hvpc hfind

lemma reflects_templateWith (hd : Describes d c) (hv : c.Valid) {st₁ : σ} {ids ids' : List String}
    (hgroup : c.group.subnets.Obtained service c.vpcId st ids st₁)
    (hbalancer : match c.balancer with
      | none => st₁ = st'
      | some b => b.subnets.Obtained service c.vpcId st₁ ids' st') :
    (c.templateWith ids ids').Reflects d service st st' where
  image := ⟨_, hd.image, (property?_launchConfiguration _).trans c.image_launchConfiguration⟩
  instanceType :=
    ⟨_, hd.instanceType, (property?_launchConfiguration _).trans c.instanceType_launchConfiguration⟩
  subnets := by
    refine ⟨ids, st₁, chooses_of_obtained hd.subnets hd.vpcId hv.subnets hgroup,
      (property?_group _).trans (c.zones_groupResource ids), ?_⟩
    rw [hd.balancer]
    cases hb : c.balancer with
    | none =>
      rw [hb] at hbalancer
      exact hbalancer
    | some b =>
      rw [hb] at hbalancer
      exact ⟨ids', chooses_of_obtained (hd.balancerSubnets b hb) hd.vpcId (hv.balancer b hb).subnets
        hbalancer, (property?_balancer hb _).trans (c.subnets_balancerResource b ids')⟩
  balancer_iff := by
    rw [mem_keys_templateWith, declares_loadBalancer_iff, hd.balancer]
  scheme := by
    intro hgiven
    rw [hd.balancer] at hgiven
    obtain ⟨b, hb⟩ := Option.isSome_iff_exists.1 hgiven
    exact ⟨_, hd.scheme b hb, (property?_balancer hb _).trans (c.scheme_balancerResource b ids')⟩
  healthCheck := by
    intro hgiven
    rw [hd.balancer] at hgiven
    obtain ⟨b, hb⟩ := Option.isSome_iff_exists.1 hgiven
    have hcheck := hd.healthCheck b hb
    exact ⟨_, (property?_balancer hb _).trans (c.healthCheck_balancerResource b ids'),
      ⟨_, hcheck.healthyThreshold, rfl⟩, ⟨_, hcheck.unhealthyThreshold, rfl⟩,
      ⟨_, hcheck.interval, rfl⟩, ⟨_, hcheck.timeout, rfl⟩, _, hcheck.target, rfl⟩
  policy_iff := by
    rw [mem_keys_templateWith, declares_instancePolicy_iff, hd.policy, Option.isSome_iff_exists]
    simp only [MachineGroup.policy?, Option.bind_eq_some_iff]
    exact exists_comm.trans (by simp)
  policy := by
    intro hgiven
    rw [hd.policy] at hgiven
    obtain ⟨q, hq⟩ := Option.isSome_iff_exists.1 hgiven
    obtain ⟨p, hp, hpq⟩ := Option.bind_eq_some_iff.1 hq
    exact ⟨_, _, (property?_instancePolicy hp hpq _).trans (c.document_instancePolicy p q), rfl,
      ⟨_, hd.effect q hq, rfl⟩, ⟨_, hd.action q hq, rfl⟩⟩
  roles := by
    intro hgiven
    rw [hd.profile] at hgiven
    obtain ⟨p, hp⟩ := Option.isSome_iff_exists.1 hgiven
    have hlists := hd.roles p hp
    rw [property?_instanceProfile hp, roles_instanceProfile, profileRoles]
    by_cases hroles : p.roles = []
    · refine .inr ⟨hlists.eq_nil hroles, ?_⟩
      rw [if_pos (List.isEmpty_iff.2 hroles)]
    · refine .inl ⟨p.roles, hroles, hlists.some_of_ne hroles, ?_⟩
      rw [if_neg (by simp [hroles])]
  names := by
    intro entry hentry tags htags tag htag _
    have htagged := taggedBy_of_mem_resources entry (KeyMap.mem_of_mem_ofList hentry)
    exact ⟨_, hd.name, htagged tags htags tag htag⟩
  named := by
    intro name hname hdeclared
    simp only [List.mem_cons, List.not_mem_nil, or_false] at hname
    rcases hname with rfl | rfl | rfl
    · exact ⟨_, (property?_vpc _).trans c.tags_vpc, _, List.mem_singleton_self _, rfl⟩
    · exact ⟨_, (property?_group _).trans (c.tags_groupResource ids), _,
        List.mem_singleton_self _, rfl⟩
    · rw [mem_keys_templateWith, declares_loadBalancer_iff] at hdeclared
      obtain ⟨b, hb⟩ := Option.isSome_iff_exists.1 hdeclared
      exact ⟨_, (property?_balancer hb _).trans (c.tags_balancerResource b ids'), _,
        List.mem_singleton_self _, rfl⟩

/-! ### Loading -/

lemma construct_builtin {kind : String} {stack : Stack}
    (h : StackKinds.builtin.construct kind = .ok stack) : stack = .cluster initial := by
  rw [StackKinds.construct, StackKinds.builtin, StackKinds.register, KeyMap.get?_insert] at h
  split at h
  · next hsome =>
    split at hsome
    · cases h
      exact (Option.some.inj hsome).symm
    · cases hsome
  · cases h

/-- A stack that was loaded is a valid cluster, decoded from the document. -/
lemma exists_cluster_of_load {bytes : List UInt8} {format : Format} {stack : Stack}
    (hparse : format.parse bytes = .ok d) (hload : StackKinds.builtin.load bytes format = .ok stack) :
    ∃ c, stack = .cluster c ∧ initial.decode d = .ok c ∧ c.Valid := by
  obtain ⟨decoded, hdecoded, hload⟩ := bind_eq_ok_iff.1 hload
  obtain ⟨_, hvalidate, hload⟩ := bind_eq_ok_iff.1 hload
  cases hload
  obtain ⟨doc, hdoc, hdecoded⟩ := bind_eq_ok_iff.1 hdecoded
  cases hdoc.symm.trans hparse
  obtain ⟨kind, _, hdecoded⟩ := bind_eq_ok_iff.1 hdecoded
  obtain ⟨start, hstart, hdecode⟩ := bind_eq_ok_iff.1 hdecoded
  obtain rfl := construct_builtin hstart
  cases hc : initial.decode d with
  | error e =>
    rw [Stack.decode, hc] at hdecode
    cases hdecode
  | ok c =>
    rw [Stack.decode, hc] at hdecode
    cases hdecode
    exact ⟨c, rfl, rfl, validate_eq_ok_iff.1 hvalidate⟩

/-- A document under the current spellings describes the valid cluster that is decoded from it. -/
lemma describes_of_decode (ho : d.Ordered) (hlegacy : d.at? [groupKey, legacyProfileKey] = none)
    (hdecode : initial.decode d = .ok c) (hv : c.Valid) : Describes d c := by
  have hnone : (d.part groupKey).get? legacyProfileKey = none := by
    rw [part]
    rw [at?_cons] at hlegacy
    cases hgroup : d.get? groupKey with
    | none => rfl
    | some group =>
      rw [hgroup] at hlegacy
      simpa using hlegacy
  obtain ⟨-, hschema, -, hupdate⟩ := (decode_eq_ok_iff ho).1 hdecode
  rw [renamed_of_legacy_eq_none ho hnone] at hschema hupdate
  subst hupdate
  exact describes_update (schemaCheck_iff_shaped.1 hschema).2 hv

end Cluster

namespace Stack

open Cluster

variable {σ : Type}

/-- A configuration that can be loaded, and whose subnets are found, gives a template that shows what
the configuration says. -/
theorem reflects_of_load {service : LookupService σ} {st st' : σ} {bytes : List UInt8} {d : Json}
    {stack : Stack} {ctx : RenderContext} (hparse : Format.parse .json bytes = .ok d)
    (hlegacy : d.at? [groupKey, legacyProfileKey] = none)
    (hload : StackKinds.builtin.load bytes .json = .ok stack)
    (hprepare : (stack.prepare service .empty).run.run st = (.ok ctx, st')) :
    ∃ t, stack.template ctx = .ok t ∧ stack.render ctx = .ok t.text ∧
      t.Reflects d service st st' := by
  have ho : d.Ordered := ordered_of_parse (Format.parse_json_eq_ok_iff.1 hparse)
  obtain ⟨c, rfl, hdecode, hv⟩ := exists_cluster_of_load hparse hload
  have hd := describes_of_decode ho hlegacy hdecode hv
  obtain ⟨ids, ids', st₁, ht, hgroup, hbalancer⟩ := exists_templateWith_of_prepare hprepare
  exact ⟨_, ht, render_of_template ht, reflects_templateWith hd hv hgroup hbalancer⟩

/-- A configuration with a profile that names no roles, and with a public balancer. The group's
subnets are found by a tag. -/
theorem reflects_of_load_public :
    ∃ (bytes : List UInt8) (d : Json) (stack : Stack) (ctx : RenderContext) (t : Template)
      (st st' : CannedLookup),
      Format.parse .json bytes = .ok d ∧ d.at? [groupKey, legacyProfileKey] = none ∧
      StackKinds.builtin.load bytes .json = .ok stack ∧
      (stack.prepare CannedLookup.service .empty).run.run st = (.ok ctx, st') ∧
      stack.template ctx = .ok t ∧ t.Reflects d CannedLookup.service st st' ∧
      t.property? "InstanceProfile" "Roles" = some (.arr [reference "InstanceRole"]) ∧
      (t.property? "LoadBalancer" "HealthCheck").bind (·.get? "Target") =
        some (.str "HTTP:80/ping") := by
  let c : Cluster := ⟨"web", "eu-west-1", "vpc-1a",
    ⟨"ami-2b", "m3.large", .byTag "db", some ⟨[], some ⟨"Allow", ["s3:Get*"]⟩⟩⟩,
    some ⟨"internal", true, ⟨"ping", "3", "5", "30", "4"⟩, .byIds ["subnet-2b", "subnet-2b"]⟩⟩
  let d : Json := (Stack.cluster c).saved
  let st := CannedLookup.empty.withIds "db" ["subnet-1a"]
  have hparse : Format.parse .json ((Stack.cluster c).savedBytes .compact) = .ok d :=
    c.parse_savedBytes .compact
  have hchecks : ∀ k ∈ c.checks, k.holds = true := by
    decide +kernel
  have hload := c.load_savedBytes (valid_iff_allHold.2 hchecks) .compact
  have hlegacy : d.at? [groupKey, legacyProfileKey] = none := rfl
  have hprepare : ((Stack.cluster c).prepare CannedLookup.service .empty).run.run st =
      (.ok (contextWith .empty ["subnet-1a"] ["subnet-2b", "subnet-2b"]),
        { st with calls := [("db", "vpc-1a")] }) := rfl
  obtain ⟨t, ht, -, hreflects⟩ := reflects_of_load hparse hlegacy hload hprepare
  refine ⟨_, d, _, _, t, st, _, hparse, hlegacy, hload, hprepare, ht, hreflects, ?_, ?_⟩
  · rcases hreflects.roles rfl with ⟨roles, hne, hroles, -⟩ | ⟨-, hreference⟩
    · have hnil : [] = roles := strings_injective (Option.some.inj hroles)
      exact absurd hnil.symm hne
    · exact hreference
  · obtain ⟨check, hcheck, -, -, -, -, target, htarget, hshown⟩ := hreflects.healthCheck rfl
    cases htarget
    rw [hcheck]
    exact hshown

end Stack

end StackForm
