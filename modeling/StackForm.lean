import StackForm.KeyMap
import StackForm.Text.Utf8
import StackForm.Text.Basic
import StackForm.Text.Quoted
import StackForm.Json.Number
import StackForm.Json.Path
import StackForm.Json.Overlay
import StackForm.Json.Writer
import StackForm.Json.Reader.Document
import StackForm.Yaml.Token
import StackForm.Yaml.Token.Scalar
import StackForm.Yaml.Token.Stream
import StackForm.Yaml.Document
import StackForm.Constraint
import StackForm.Lookup.Service
import StackForm.Render.Context
import StackForm.Render.Template
import StackForm.Cluster.Validation
import StackForm.Cluster.Resources
import StackForm.Stack.Load
import StackForm.Host.Scripted
import StackForm.CommandLine.Run
import StackForm.Main
import StackForm.Proofs.Cluster.Acceptance
import StackForm.Proofs.Cluster.Field
import StackForm.Proofs.Cluster.Preparation
import StackForm.Proofs.Cluster.Saved
import StackForm.Proofs.Lookup.Enquiry
import StackForm.Proofs.Lookup.Query
import StackForm.Proofs.Lookup.Answer
import StackForm.Proofs.Cluster.Enquiries
import StackForm.Proofs.CommandLine.Words
import StackForm.Proofs.Stack.Failure
import StackForm.Proofs.Stack.Location
import StackForm.Proofs.CommandLine.Agreement
import StackForm.Proofs.Cluster.Properties
import StackForm.Proofs.Cluster.Reflection
import StackForm.Proofs.Render.Text
import StackForm.Proofs.Render.History
import StackForm.Proofs.Cluster.Rendering
import StackForm.Proofs.Requirement
import StackForm.Proofs.Nesting
import StackForm.Proofs.Cluster.Layers
import StackForm.Proofs.Cluster.Settle
import StackForm.Proofs.Cluster.Undeclared
import StackForm.Proofs.Cluster.Synonym
import StackForm.Proofs.Cluster.Dependence
import StackForm.Proofs.Cluster.Stability
import StackForm.Proofs.Omission
import StackForm.Proofs.Json.Frame
import StackForm.Proofs.Cluster.Shapes
import StackForm.Proofs.Stack.Dispatch
import StackForm.Proofs.Stack.Format
