import StackForm.Cluster.Preparation
import StackForm.Render.Template

/-!
# The template of a cluster

What a cluster declares: a network, a launch configuration and the group always, and what belongs to
a profile or a load balancer when there is one. The subnets come from the render context.
-/

namespace StackForm

namespace Cluster

/-- The addresses of the network. -/
def vpcCidrBlock : String := "10.0.0.0/16"

/-- The version of the policy language. -/
def policyVersion : String := "2012-10-17"

/-- The port that the balancer listens at, and the machines too. -/
def listenerPort : String := "80"

/-- The tag with the name of the cluster. -/
def nameTags (c : Cluster) : Json :=
  .arr [.obj [("Key", .str "Name"), ("Value", .str c.name)]]

/-- A policy document with one statement. -/
def policyDocument (statement : Json) : Json :=
  .obj [("Statement", .arr [statement]), ("Version", .str policyVersion)]

/-! ### Network and profile -/

def vpc (c : Cluster) : Resource :=
  .withProperties "AWS::EC2::VPC" [
    ("CidrBlock", .str vpcCidrBlock),
    ("EnableDnsSupport", .bool true),
    ("EnableDnsHostnames", .bool true),
    ("Tags", c.nameTags)]

/-- The role that is made when a profile names none. -/
def instanceRole : Resource :=
  .withProperties "AWS::IAM::Role" [
    ("Path", .str "/"),
    ("AssumeRolePolicyDocument", policyDocument (.obj [
      ("Action", .strings ["sts:AssumeRole"]),
      ("Effect", .str "Allow"),
      ("Principal", .obj [("Service", .strings ["ec2.amazonaws.com"])])]))]

/-- The roles of a profile, or the one that is made for it. -/
def profileRoles (p : InstanceProfile) : Json :=
  if p.roles.isEmpty then .arr [reference "InstanceRole"] else .strings p.roles

def instancePolicy (c : Cluster) (p : InstanceProfile) (policy : Policy) : Resource :=
  .withProperties "AWS::IAM::Policy" [
    ("PolicyName", .str (c.name ++ "-instance-policy")),
    ("PolicyDocument", policyDocument (.obj [
      ("Action", .strings policy.action),
      ("Effect", .str policy.effect),
      ("Resource", .str "*")])),
    ("Roles", profileRoles p)]

def instanceProfile (p : InstanceProfile) : Resource :=
  .withProperties "AWS::IAM::InstanceProfile" [
    ("Path", .str "/"),
    ("Roles", profileRoles p)]

/-- What belongs to a profile. -/
def profileResources (c : Cluster) (p : InstanceProfile) : List (String × Resource) :=
  (if p.roles.isEmpty then [("InstanceRole", instanceRole)] else []) ++
  (match p.policy with
    | some policy => [("InstancePolicy", c.instancePolicy p policy)]
    | none => []) ++
  [("InstanceProfile", instanceProfile p)]

/-! ### Group -/

def launchConfiguration (c : Cluster) : Resource :=
  .withProperties "AWS::AutoScaling::LaunchConfiguration" ([
      ("ImageId", .str c.group.image),
      ("InstanceType", .str c.group.instanceType)] ++
    (if c.group.profile.isSome then [("IamInstanceProfile", reference "InstanceProfile")] else []))

def groupResource (c : Cluster) (subnets : List String) : Resource :=
  .withProperties "AWS::AutoScaling::AutoScalingGroup" ([
      ("LaunchConfigurationName", reference "LaunchConfiguration"),
      ("MinSize", .str "1"),
      ("MaxSize", .str "1"),
      ("VPCZoneIdentifier", .strings subnets),
      ("Tags", .arr [.obj [
        ("Key", .str "Name"),
        ("PropagateAtLaunch", .bool true),
        ("Value", .str c.name)]])] ++
    (if c.balancer.isSome then [("LoadBalancerNames", .arr [reference "LoadBalancer"])] else []))

/-! ### Load balancer -/

/-- Who may reach a public balancer. -/
def securityGroup (c : Cluster) : Resource :=
  .withProperties "AWS::EC2::SecurityGroup" [
    ("GroupDescription", .str ("Public access to " ++ c.name ++ " load balancer")),
    ("VpcId", .str c.vpcId),
    ("SecurityGroupIngress", .arr [.obj [
      ("CidrIp", .str "0.0.0.0/0"),
      ("FromPort", .str listenerPort),
      ("IpProtocol", .str "tcp"),
      ("ToPort", .str listenerPort)]])]

def healthCheckDocument (h : HealthCheck) : Json :=
  .obj [
    ("HealthyThreshold", .str h.healthyThreshold),
    ("Interval", .str h.interval),
    ("Target", .str ("HTTP:" ++ listenerPort ++ "/" ++ h.target)),
    ("Timeout", .str h.timeout),
    ("UnhealthyThreshold", .str h.unhealthyThreshold)]

def balancerResource (c : Cluster) (b : LoadBalancer) (subnets : List String) : Resource :=
  .withProperties "AWS::ElasticLoadBalancing::LoadBalancer" ([
      ("Scheme", .str b.scheme),
      ("Subnets", .strings subnets),
      ("Listeners", .arr [.obj [
        ("InstancePort", .str listenerPort),
        ("LoadBalancerPort", .str listenerPort),
        ("Protocol", .str "HTTP")]]),
      ("HealthCheck", healthCheckDocument b.healthCheck),
      ("Tags", c.nameTags)] ++
    (if b.isPublic then
      [("SecurityGroups", .arr [reference "LoadBalancerSecurityGroup"])] else []))

/-- What belongs to a load balancer. -/
def balancerResources (c : Cluster) (b : LoadBalancer) (subnets : List String) :
    List (String × Resource) :=
  (if b.isPublic then [("LoadBalancerSecurityGroup", c.securityGroup)] else []) ++
  [("LoadBalancer", c.balancerResource b subnets)]

/-! ### Template -/

/-- Every resource of the cluster under its logical name. The second list of subnets is used if
there is a load balancer. -/
def resources (c : Cluster) (groupSubnets balancerSubnets : List String) :
    List (String × Resource) :=
  [("VPC", c.vpc)] ++
  (match c.group.profile with
    | some p => c.profileResources p
    | none => []) ++
  [("LaunchConfiguration", c.launchConfiguration)] ++
  (match c.balancer with
    | some b => c.balancerResources b balancerSubnets
    | none => []) ++
  [("AutoScalingGroup", c.groupResource groupSubnets)]

/-- The outputs of the cluster. -/
def outputs (c : Cluster) : List (String × Output) :=
  (if c.balancer.isSome then
    [("LoadBalancerDNSName",
      ⟨some "DNS name of the load balancer", attributeOf "LoadBalancer" "DNSName"⟩)]
   else []) ++
  [("AutoScalingGroupName",
    ⟨some "Name of the autoscaling group", reference "AutoScalingGroup"⟩)]

/-- The subnets that a context holds under a key. -/
def subnetsIn (ctx : RenderContext) (key : String) : Except StackError (List String) :=
  ctx.require (Json.readList Json.readText) key

/-- The template of the cluster, with the subnets that the context holds. -/
def template (c : Cluster) (ctx : RenderContext) : Except StackError Template := do
  let groupSubnets ← subnetsIn ctx groupSubnetsKey
  let balancerSubnets ←
    if c.balancer.isSome then subnetsIn ctx balancerSubnetsKey else pure []
  let start := Template.empty.withDescription ("bossformation cluster " ++ c.name)
  let t ← start.addResources (c.resources groupSubnets balancerSubnets)
  return t.addOutputs c.outputs

/-- The text of the template. -/
def render (c : Cluster) (ctx : RenderContext) : Except StackError String :=
  (c.template ctx).map Template.text

end Cluster

end StackForm
