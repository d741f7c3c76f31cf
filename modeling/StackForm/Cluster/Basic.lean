/-!
# Clusters

A cluster is a group of like machines that scales, with the subnets it spreads over, an optional
profile that grants its machines rights, and an optional load balancer in front of it.
-/

namespace StackForm

/-- Which subnets to use: the given ones, or those that carry a tag. -/
structure Subnets where
  tag : String
  tagName : String
  ids : List String
  deriving DecidableEq

/-- One statement of rights. -/
structure Policy where
  effect : String
  action : List String
  deriving DecidableEq

/-- The rights of the machines of a group. -/
structure InstanceProfile where
  roles : List String
  policy : Option Policy
  deriving DecidableEq

structure MachineGroup where
  image : String
  instanceType : String
  subnets : Subnets
  profile : Option InstanceProfile
  deriving DecidableEq

structure HealthCheck where
  target : String
  healthyThreshold : String
  unhealthyThreshold : String
  interval : String
  timeout : String
  deriving DecidableEq

structure LoadBalancer where
  scheme : String
  isPublic : Bool
  healthCheck : HealthCheck
  subnets : Subnets
  deriving DecidableEq

structure Cluster where
  name : String
  region : String
  vpcId : String
  group : MachineGroup
  balancer : Option LoadBalancer
  deriving DecidableEq

/-! ### Zero values -/

namespace Subnets

def zero : Subnets := ⟨"", "", []⟩

/-- The given subnets. -/
def byIds (ids : List String) : Subnets := { zero with ids := ids }

/-- The name of the tag that subnets are chosen by, unless a configuration says otherwise. -/
def defaultTagName : String := "Name"

/-- The subnets that carry a tag. -/
def byTag (tag : String) : Subnets := ⟨tag, defaultTagName, []⟩

end Subnets

def Policy.zero : Policy := ⟨"", []⟩

def InstanceProfile.zero : InstanceProfile := ⟨[], none⟩

def MachineGroup.zero : MachineGroup := ⟨"", "", .zero, none⟩

def HealthCheck.zero : HealthCheck := ⟨"", "", "", "", ""⟩

def LoadBalancer.zero : LoadBalancer := ⟨"", false, .zero, .zero⟩

namespace Cluster

def zero : Cluster := ⟨"", "", "", .zero, none⟩

/-- The cluster that a configuration starts from: its group chooses subnets by the default tag
name. -/
def initial : Cluster :=
  { zero with
    group := { MachineGroup.zero with
      subnets := { Subnets.zero with tagName := Subnets.defaultTagName } } }

end Cluster

end StackForm
