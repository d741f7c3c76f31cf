import StackForm.Cluster.Decode

/-!
# Valid clusters

The constraints on the single fields come first. Then every choice of subnets that is there must be
made by exactly one of tag and identifiers.
-/

namespace StackForm

/-- Exactly one of tag and identifiers must choose the subnets at a path. -/
def Subnets.checkSelection (s : Subnets) (path : String) : Except StackError Unit :=
  match s.tag.isEmpty, s.ids.isEmpty with
  | false, true => .ok ()
  | true, false => .ok ()
  | true, true =>
    .error (.validation path "subnet-selection" "subnet tag or ids required")
  | false, false =>
    .error (.validation path "subnet-selection" "subnet tag and ids are mutually exclusive")

namespace Cluster

/-- Check the fields by the given rules, and then the choices of subnets, the balancer's first. -/
def validateWith (c : Cluster) (rules : RuleSet) : Except StackError Unit := do
  match constraints.validate c.toDocument rules with
  | .ok () => pure ()
  | .error e => throw (.ofRule e)
  match c.balancer with
  | some balancer => balancer.subnets.checkSelection "loadBalancer.subnets"
  | none => pure ()
  c.group.subnets.checkSelection "autoscalingGroup.subnets"

/-- Check the cluster by the standard rules. -/
def validate (c : Cluster) : Except StackError Unit :=
  c.validateWith .standard

end Cluster

end StackForm
