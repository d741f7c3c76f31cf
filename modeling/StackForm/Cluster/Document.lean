import StackForm.Cluster.Basic
import StackForm.Json.Form

/-!
# Clusters as documents

The documents of a cluster and its parts. An optional part that is not there is left out; the
profile of a group is also read under an older spelling of its name.
-/

namespace StackForm

/-! ### Names of members -/

namespace Cluster

/-- The member that holds the profile of a group. -/
def profileKey : String := "iamInstanceProfile"

/-- An older spelling of `profileKey`. -/
def legacyProfileKey : String := "iamInstanceprofile"

/-- The member that holds the group. -/
def groupKey : String := "autoscalingGroup"

/-- The member that holds the load balancer. -/
def balancerKey : String := "loadBalancer"

end Cluster

/-! ### Documents -/

open Json

namespace Subnets

def toDocument (s : Subnets) : Json :=
  .obj [("ids", .strings s.ids), ("tag", .str s.tag), ("tagName", .str s.tagName)]

def ofMembers (ms : List (String × Json)) : Except Mismatch Subnets := do
  let ids ← memberOr ms "ids" (readList readText) []
  let tag ← memberOr ms "tag" readText ""
  let tagName ← memberOr ms "tagName" readText ""
  return ⟨tag, tagName, ids⟩

def ofFields (fs : List Json) : Except Mismatch Subnets := do
  let tag ← fieldOr fs 0 readText ""
  let tagName ← fieldOr fs 1 readText ""
  let ids ← fieldOr fs 2 (readList readText) []
  checkFieldCount fs 3
  return ⟨tag, tagName, ids⟩

def ofDocument : Json → Except Mismatch Subnets :=
  readRecord "Subnets" ofMembers ofFields

instance : JsonForm Subnets := ⟨toDocument, ofDocument⟩

end Subnets

namespace Policy

def toDocument (p : Policy) : Json :=
  .obj [("action", .strings p.action), ("effect", .str p.effect)]

def ofMembers (ms : List (String × Json)) : Except Mismatch Policy := do
  let action ← memberOr ms "action" (readList readText) []
  let effect ← memberOr ms "effect" readText ""
  return ⟨effect, action⟩

def ofFields (fs : List Json) : Except Mismatch Policy := do
  let effect ← fieldOr fs 0 readText ""
  let action ← fieldOr fs 1 (readList readText) []
  checkFieldCount fs 2
  return ⟨effect, action⟩

def ofDocument : Json → Except Mismatch Policy :=
  readRecord "Policy" ofMembers ofFields

instance : JsonForm Policy := ⟨toDocument, ofDocument⟩

end Policy

namespace InstanceProfile

def toDocument (p : InstanceProfile) : Json :=
  .obj (optionalMember "policy" (p.policy.map Policy.toDocument) ++
    [("roles", .strings p.roles)])

def ofMembers (ms : List (String × Json)) : Except Mismatch InstanceProfile := do
  let policy ← memberOr ms "policy" (readOption Policy.ofDocument) none
  let roles ← memberOr ms "roles" (readList readText) []
  return ⟨roles, policy⟩

def ofFields (fs : List Json) : Except Mismatch InstanceProfile := do
  let roles ← fieldOr fs 0 (readList readText) []
  let policy ← fieldOr fs 1 (readOption Policy.ofDocument) none
  checkFieldCount fs 2
  return ⟨roles, policy⟩

def ofDocument : Json → Except Mismatch InstanceProfile :=
  readRecord "IamInstanceProfile" ofMembers ofFields

instance : JsonForm InstanceProfile := ⟨toDocument, ofDocument⟩

end InstanceProfile

namespace MachineGroup

def toDocument (g : MachineGroup) : Json :=
  .obj (optionalMember Cluster.profileKey (g.profile.map InstanceProfile.toDocument) ++
    [("image", .str g.image), ("instanceType", .str g.instanceType),
     ("subnets", g.subnets.toDocument)])

/-- The profile under either spelling, which may not both be used. -/
def profileOfMembers (ms : List (String × Json)) : Except Mismatch (Option InstanceProfile) := do
  let read := readOption InstanceProfile.ofDocument
  let current ← memberOr ms Cluster.profileKey read none
  match ms.lookup Cluster.legacyProfileKey with
  | none => return current
  | some legacy =>
    if Keyed.contains Cluster.profileKey ms then throw (.duplicateField Cluster.profileKey)
    else read legacy

def ofMembers (ms : List (String × Json)) : Except Mismatch MachineGroup := do
  let profile ← profileOfMembers ms
  let image ← memberOr ms "image" readText ""
  let instanceType ← memberOr ms "instanceType" readText ""
  let subnets ← memberOr ms "subnets" Subnets.ofDocument .zero
  return ⟨image, instanceType, subnets, profile⟩

def ofFields (fs : List Json) : Except Mismatch MachineGroup := do
  let image ← fieldOr fs 0 readText ""
  let instanceType ← fieldOr fs 1 readText ""
  let subnets ← fieldOr fs 2 Subnets.ofDocument .zero
  let profile ← fieldOr fs 3 (readOption InstanceProfile.ofDocument) none
  checkFieldCount fs 4
  return ⟨image, instanceType, subnets, profile⟩

def ofDocument : Json → Except Mismatch MachineGroup :=
  readRecord "AutoscalingGroup" ofMembers ofFields

instance : JsonForm MachineGroup := ⟨toDocument, ofDocument⟩

end MachineGroup

namespace HealthCheck

def toDocument (h : HealthCheck) : Json :=
  .obj [("healthyThreshold", .str h.healthyThreshold), ("interval", .str h.interval),
    ("target", .str h.target), ("timeout", .str h.timeout),
    ("unhealthyThreshold", .str h.unhealthyThreshold)]

def ofMembers (ms : List (String × Json)) : Except Mismatch HealthCheck := do
  let healthyThreshold ← memberOr ms "healthyThreshold" readText ""
  let interval ← memberOr ms "interval" readText ""
  let target ← memberOr ms "target" readText ""
  let timeout ← memberOr ms "timeout" readText ""
  let unhealthyThreshold ← memberOr ms "unhealthyThreshold" readText ""
  return ⟨target, healthyThreshold, unhealthyThreshold, interval, timeout⟩

def ofFields (fs : List Json) : Except Mismatch HealthCheck := do
  let target ← fieldOr fs 0 readText ""
  let healthyThreshold ← fieldOr fs 1 readText ""
  let unhealthyThreshold ← fieldOr fs 2 readText ""
  let interval ← fieldOr fs 3 readText ""
  let timeout ← fieldOr fs 4 readText ""
  checkFieldCount fs 5
  return ⟨target, healthyThreshold, unhealthyThreshold, interval, timeout⟩

def ofDocument : Json → Except Mismatch HealthCheck :=
  readRecord "HealthCheck" ofMembers ofFields

instance : JsonForm HealthCheck := ⟨toDocument, ofDocument⟩

end HealthCheck

namespace LoadBalancer

def toDocument (b : LoadBalancer) : Json :=
  .obj [("healthCheck", b.healthCheck.toDocument), ("public", .bool b.isPublic),
    ("scheme", .str b.scheme), ("subnets", b.subnets.toDocument)]

def ofMembers (ms : List (String × Json)) : Except Mismatch LoadBalancer := do
  let healthCheck ← memberOr ms "healthCheck" HealthCheck.ofDocument .zero
  let isPublic ← memberOr ms "public" readFlag false
  let scheme ← memberOr ms "scheme" readText ""
  let subnets ← memberOr ms "subnets" Subnets.ofDocument .zero
  return ⟨scheme, isPublic, healthCheck, subnets⟩

def ofFields (fs : List Json) : Except Mismatch LoadBalancer := do
  let scheme ← fieldOr fs 0 readText ""
  let isPublic ← fieldOr fs 1 readFlag false
  let healthCheck ← fieldOr fs 2 HealthCheck.ofDocument .zero
  let subnets ← fieldOr fs 3 Subnets.ofDocument .zero
  checkFieldCount fs 4
  return ⟨scheme, isPublic, healthCheck, subnets⟩

def ofDocument : Json → Except Mismatch LoadBalancer :=
  readRecord "LoadBalancer" ofMembers ofFields

instance : JsonForm LoadBalancer := ⟨toDocument, ofDocument⟩

end LoadBalancer

namespace Cluster

def toDocument (c : Cluster) : Json :=
  .obj ([(groupKey, c.group.toDocument)] ++
    optionalMember balancerKey (c.balancer.map LoadBalancer.toDocument) ++
    [("name", .str c.name), ("region", .str c.region), ("vpcId", .str c.vpcId)])

def ofMembers (ms : List (String × Json)) : Except Mismatch Cluster := do
  let group ← memberOr ms groupKey MachineGroup.ofDocument .zero
  let balancer ← memberOr ms balancerKey (readOption LoadBalancer.ofDocument) none
  let name ← memberOr ms "name" readText ""
  let region ← memberOr ms "region" readText ""
  let vpcId ← memberOr ms "vpcId" readText ""
  return ⟨name, region, vpcId, group, balancer⟩

def ofFields (fs : List Json) : Except Mismatch Cluster := do
  let name ← fieldOr fs 0 readText ""
  let region ← fieldOr fs 1 readText ""
  let vpcId ← fieldOr fs 2 readText ""
  let group ← fieldOr fs 3 MachineGroup.ofDocument .zero
  let balancer ← fieldOr fs 4 (readOption LoadBalancer.ofDocument) none
  checkFieldCount fs 5
  return ⟨name, region, vpcId, group, balancer⟩

def ofDocument : Json → Except Mismatch Cluster :=
  readRecord "Cluster" ofMembers ofFields

instance : JsonForm Cluster := ⟨toDocument, ofDocument⟩

end Cluster

end StackForm
