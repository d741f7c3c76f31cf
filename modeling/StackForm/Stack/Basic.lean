import StackForm.Cluster.Resources
import StackForm.Cluster.Validation

/-!
# Stacks

A stack is decoded from a configuration, validated, prepared by looking up what it needs, and
rendered. Clusters are stacks, and other variants may be added: any type will do that has these
steps. Unless other variants are named, there are none.
-/

namespace StackForm

/-- A type of stacks, with the steps that each of them goes through. -/
class StackVariant (ε : Type) where
  /-- The kind by which configurations ask for the stack. -/
  kind : ε → String
  /-- The region that the stack is deployed to, when it names one. -/
  region? : ε → Option String
  /-- Read a document onto the stack, which keeps what the document does not mention. -/
  decode : ε → Json → Except StackError ε
  /-- Check the stack by its own rules. -/
  validate : ε → Except StackError Unit
  /-- Put what the stack needs for rendering into the context. -/
  prepare {σ : Type} : ε → LookupService σ → RenderContext →
    ExceptT StackError (StateM σ) RenderContext
  /-- The text of the template. -/
  render : ε → RenderContext → Except StackError String

/-- No other variants. -/
@[default_instance]
instance : StackVariant Empty where
  kind := nofun
  region? := nofun
  decode := nofun
  validate := nofun
  prepare := nofun
  render := nofun

/-- A cluster, or a stack of another variant. -/
inductive Stack (ε : Type := Empty) where
  | cluster (c : Cluster)
  | foreign (s : ε)
  deriving DecidableEq

namespace Stack

section Variants

variable {ε : Type} [StackVariant ε]

/-- The kind by which configurations ask for the stack. -/
def kind : Stack ε → String
  | .cluster _ => "Cluster"
  | .foreign s => StackVariant.kind s

/-- The region that the stack is deployed to, when it names one. -/
def region? : Stack ε → Option String
  | .cluster c => if c.region.isEmpty then none else some c.region
  | .foreign s => StackVariant.region? s

/-- Read a document onto the stack, which keeps what the document does not mention. -/
def decode : Stack ε → Json → Except StackError (Stack ε)
  | .cluster c, doc => (c.decode doc).map .cluster
  | .foreign s, doc => (StackVariant.decode s doc).map .foreign

/-- Check the stack by the standard rules, or by the rules of its variant. -/
def validate : Stack ε → Except StackError Unit
  | .cluster c => c.validate
  | .foreign s => StackVariant.validate s

/-- Put what the stack needs for rendering into the context. -/
def prepare {σ : Type} (s : Stack ε) (service : LookupService σ) (ctx : RenderContext) :
    ExceptT StackError (StateM σ) RenderContext :=
  match s with
  | .cluster c => c.prepare service ctx
  | .foreign s => StackVariant.prepare s service ctx

/-- The text of the template. -/
def render : Stack ε → RenderContext → Except StackError String
  | .cluster c, ctx => c.render ctx
  | .foreign s, ctx => StackVariant.render s ctx

end Variants

/-! ### Clusters alone -/

/-- Without other variants a stack is a cluster. -/
theorem exists_cluster (s : Stack) : ∃ c, s = .cluster c := by
  cases s with
  | cluster c => exact ⟨c, rfl⟩
  | foreign s => cases s

/-- The stack as a document. -/
def toDocument : Stack → Json
  | .cluster c => c.toDocument

/-- Check the stack by the given rules. -/
def validateWith : Stack → RuleSet → Except StackError Unit
  | .cluster c, rules => c.validateWith rules

/-- The template of the stack. -/
def template : Stack → RenderContext → Except StackError Template
  | .cluster c, ctx => c.template ctx

end Stack

end StackForm
