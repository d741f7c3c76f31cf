import StackForm.Cluster.Document
import StackForm.Constraint
import StackForm.Stack.Error

/-!
# Reading configurations of clusters

The constraints on the fields of a cluster, and the decoding of a document onto a cluster: an older
spelling is replaced, the shapes are checked, and the document is laid over what is there.
-/

namespace StackForm

/-- Read a document onto a value, which keeps what the document does not mention. -/
def decodeOnto {α : Type} [JsonForm α] (target : α) (doc : Json) : Except StackError α :=
  match layOver target doc with
  | .ok value => .ok value
  | .error mismatch => .error (.schemaMismatch "<root>" mismatch.message)

/-! ### Constraints -/

open Constraint

/-- The constraints on a choice of subnets at a path. -/
def Subnets.constraints (path : String) : ConstraintTable := [
  require path .object,
  (allow (path ++ ".tag") .text).withRule "ascii",
  (allow (path ++ ".tagName") .text).withRule "ascii",
  (allow (path ++ ".ids") .texts).withRule "subnet"]

/-- The constraints on the fields of a cluster, in the order in which they are checked. -/
def Cluster.constraints : ConstraintTable := [
    (require "name" .text).withRule "alphanum",
    (require "region" .text).withRule "region",
    (require "vpcId" .text).withRule "vpc",
    require "autoscalingGroup" .object,
    require "autoscalingGroup.image" .text,
    require "autoscalingGroup.instanceType" .text] ++
  Subnets.constraints "autoscalingGroup.subnets" ++ [
    allow "autoscalingGroup.iamInstanceProfile" .object,
    allow "autoscalingGroup.iamInstanceProfile.roles" .texts,
    allow "autoscalingGroup.iamInstanceProfile.policy" .object,
    (require "autoscalingGroup.iamInstanceProfile.policy.effect" .text).withRule "effect",
    (require "autoscalingGroup.iamInstanceProfile.policy.action" .texts).withRule "action",
    allow "loadBalancer" .object,
    (require "loadBalancer.scheme" .text).withRule "scheme",
    allow "loadBalancer.public" .flag,
    require "loadBalancer.healthCheck" .object,
    (require "loadBalancer.healthCheck.target" .text).withRule "alphanum",
    (require "loadBalancer.healthCheck.healthyThreshold" .text).withRule "numeric",
    (require "loadBalancer.healthCheck.unhealthyThreshold" .text).withRule "numeric",
    (require "loadBalancer.healthCheck.interval" .text).withRule "numeric",
    (require "loadBalancer.healthCheck.timeout" .text).withRule "numeric"] ++
  Subnets.constraints "loadBalancer.subnets"

namespace Cluster

/-! ### Older spellings -/

/-- The members of a group with the profile under its current name. -/
def currentGroup (group : List (String × Json)) : Except StackError (List (String × Json)) :=
  match group.lookup legacyProfileKey with
  | none => .ok group
  | some profile =>
    if Keyed.contains profileKey group then
      .error (.malformed (.bothSpellings groupKey profileKey legacyProfileKey))
    else .ok (Keyed.insert profileKey profile (Keyed.erase legacyProfileKey group))

/-- The document with the profile of its group under its current name. -/
def currentSpelling (doc : Json) : Except StackError Json :=
  match doc with
  | .obj members =>
    match members.lookup groupKey with
    | some (.obj group) => do
      let group ← currentGroup group
      return .obj (Keyed.insert groupKey (.obj group) members)
    | _ => .ok doc
  | _ => .ok doc

/-! ### Decoding -/

/-- Read a document onto a cluster. -/
def decode (c : Cluster) (doc : Json) : Except StackError Cluster := do
  let doc ← currentSpelling doc
  match constraints.schemaCheck doc with
  | .ok () => decodeOnto c doc
  | .error e => throw (.ofRule e)

end Cluster

end StackForm
