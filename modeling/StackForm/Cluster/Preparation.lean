import StackForm.Cluster.Document
import StackForm.Lookup.Service
import StackForm.Render.Context

/-!
# Preparing to render a cluster

The subnets that a cluster uses are put into the render context: the given identifiers as they are,
or those that a lookup finds for the tag. The group comes first, and the first failure ends the
preparation.
-/

namespace StackForm

namespace Cluster

/-- Under this key a context holds the subnets of the group. -/
def groupSubnetsKey : String := "autoscalingGroup.subnetIds"

/-- Under this key a context holds the subnets of the load balancer. -/
def balancerSubnetsKey : String := "loadBalancer.subnetIds"

/-- What an answer to a lookup means: identifiers, or a failure if there are none. -/
def foundSubnets (tag scope : String) : Except LookupError (List String) →
    Except StackError (List String)
  | .error e => .error (.lookupFailure tag scope (some e))
  | .ok [] => .error (.lookupFailure tag scope none)
  | .ok ids => .ok ids

variable {σ : Type}

/-- The identifiers that a choice of subnets stands for. -/
def resolveSubnets (c : Cluster) (service : LookupService σ) (subnets : Subnets) :
    ExceptT StackError (StateM σ) (List String) :=
  if subnets.ids.isEmpty then
    ExceptT.mk ((service.find subnets.tag c.vpcId).map (foundSubnets subnets.tag c.vpcId))
  else pure subnets.ids

/-- The context with the subnets of the cluster in it. -/
def prepare (c : Cluster) (service : LookupService σ) (ctx : RenderContext) :
    ExceptT StackError (StateM σ) RenderContext := do
  let ids ← c.resolveSubnets service c.group.subnets
  let ctx := ctx.withValue groupSubnetsKey (.strings ids)
  match c.balancer with
  | none => return ctx
  | some balancer =>
    let ids ← c.resolveSubnets service balancer.subnets
    return ctx.withValue balancerSubnetsKey (.strings ids)

end Cluster

end StackForm
