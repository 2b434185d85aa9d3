import Automation.Binding
import Automation.CommandLine.Arguments
import Automation.CommandLine.Form
import Automation.CommandLine.Program
import Automation.Condition
import Automation.Config.Basic
import Automation.Config.Load
import Automation.Context
import Automation.Definition.Basic
import Automation.Definition.Check
import Automation.Definition.File
import Automation.Definition.Layout
import Automation.Definition.Stored
import Automation.Double.Arithmetic
import Automation.Double.Basic
import Automation.Double.Decimal
import Automation.Double.Rounding
import Automation.Double.Shortest
import Automation.Execution.Loop
import Automation.Execution.Once
import Automation.Execution.Outputs
import Automation.Execution.Step
import Automation.Fields
import Automation.Json.Basic
import Automation.Json.Reader
import Automation.Json.Display
import Automation.Json.Text
import Automation.Main
import Automation.Moment.Basic
import Automation.Moment.Reader
import Automation.Path
import Automation.Quota
import Automation.Resolve
import Automation.RowId
import Automation.Run.Event
import Automation.Run.Result
import Automation.Run.Status
import Automation.Runner
import Automation.Script.Fault
import Automation.Script.Machine
import Automation.Script.Method
import Automation.Script.Operation
import Automation.Script.Parser
import Automation.Script.Program
import Automation.Script.Run
import Automation.Script.Simplify
import Automation.Script.Token
import Automation.Script.Value
import Automation.Services
import Automation.Step.Catalogue
import Automation.Step.Comparison
import Automation.Step.Fault
import Automation.Step.Kind
import Automation.Step.Row
import Automation.Step.Schema
import Automation.Step.Task
import Automation.Store
import Automation.Template
import Automation.Tenant
import Automation.Text.Base64
import Automation.Text.Blank
import Automation.Text.Casing
import Automation.Text.Quoted
import Automation.Text.Numeral
import Automation.Text.Order
import Automation.Text.Search
import Automation.Text.Utf8
import Automation.Tree.Basic
import Automation.Tree.Decode
import Automation.Tree.Plain
import Automation.Tree.Pretty
import Automation.Webhook
import Automation.Yaml.Cursor
import Automation.Yaml.Reader
import Automation.Yaml.Scalar
import Automation.Yaml.Token
import Automation.Proofs.Result
import Automation.Proofs.Execution.Iteration
import Automation.Proofs.Fields
import Automation.Proofs.Execution.Loop
import Automation.Proofs.Execution.Frame
import Automation.Proofs.Execution.Outputs
import Automation.Proofs.Run.Admission
import Automation.Proofs.Run.Steps
import Automation.Proofs.Run.Outcome
import Automation.Proofs.Condition.Tree
import Automation.Proofs.Condition.Scan
import Automation.Proofs.Condition.Literal
import Automation.Proofs.Condition.Operand
import Automation.Proofs.Condition.Grammar
import Automation.Proofs.Condition.Printed
import Automation.Proofs.Condition.Meaning
import Automation.Proofs.Execution.Isolation
import Automation.Proofs.Run.Isolation
import Automation.Proofs.Text.Search
import Automation.Proofs.Template.Pieces
import Automation.Proofs.Template.Evaluated
import Automation.Proofs.Run.References
import Automation.Proofs.Condition.Split
import Automation.Proofs.Condition.Form
import Automation.Proofs.Condition.Accepted
import Automation.Proofs.Json.Numeral
import Automation.Proofs.Json.RoundTrip
import Automation.Proofs.Condition.Opaque
import Automation.Proofs.Context.History
import Automation.Proofs.Context.Lookup
import Automation.Proofs.Context.View
import Automation.Proofs.Template.Passed
import Automation.Proofs.Run.Warnings
import Automation.Proofs.Run.Faults
import Automation.Proofs.Fields.Order
import Automation.Proofs.Tree.Record
import Automation.Proofs.Tree.Normal
import Automation.Proofs.Definition.Layout
import Automation.Proofs.Store
import Automation.Proofs.Definition.Stored
import Automation.Proofs.Step.Task
import Automation.Proofs.Execution.Inputs
import Automation.Proofs.Step.Shape
import Automation.Proofs.Execution.Optional
import Automation.Proofs.Row.History
import Automation.Proofs.Row.Id
import Automation.Proofs.Row.Table
import Automation.Proofs.Execution.Requests
import Automation.Proofs.Run.Usage
import Automation.Proofs.Run.Prefix
import Automation.Proofs.Run.Writes
import Automation.Proofs.Condition.Normal
import Automation.Proofs.Condition.Resolved
import Automation.Proofs.Execution.Failure
import Automation.Proofs.Text.Utf8
import Automation.Proofs.Text.Base64
import Automation.Proofs.Template.Script
import Automation.Proofs.Row.Interleaving
import Automation.Proofs.Run.Overlap
import Automation.Proofs.Store.History
import Automation.Proofs.Definition.RoundTrip
import Automation.Proofs.Moment.Text
import Automation.Proofs.Run.Layout
import Automation.Proofs.Json.Sorted
import Automation.Proofs.Execution.Sorted
import Automation.Proofs.Run.Logged
import Automation.Proofs.Template.Spliced
import Automation.Proofs.Context.Written
import Automation.Proofs.Run.Agreement
import Automation.Proofs.Condition.Quoted
import Automation.Proofs.Text.Order
import Automation.Proofs.Store.Prefix
import Automation.Proofs.Step.Comparison
import Automation.Proofs.Condition.Included
import Automation.Proofs.Tree.Once
import Automation.Proofs.Config.Override
import Automation.Proofs.Template.Failures
import Automation.Proofs.Execution.Required
import Automation.Proofs.Execution.Coherence
import Automation.Proofs.Text.Pieces
import Automation.Proofs.Execution.Items
import Automation.Proofs.Row.WriteBack
import Automation.Proofs.Template.Places
import Automation.Proofs.Condition.Route
import Automation.Proofs.Condition.Divided
import Automation.Proofs.Json.Equal
