import ShadeGraph.Command.Arguments
import ShadeGraph.Command.Files
import ShadeGraph.Command.Help
import ShadeGraph.Command.Manifest
import ShadeGraph.Command.Path
import ShadeGraph.Command.Run
import ShadeGraph.Command.Settings
import ShadeGraph.Compile.Assembly
import ShadeGraph.Compile.Diagnostic
import ShadeGraph.Compile.Emission
import ShadeGraph.Compile.Preview
import ShadeGraph.Compile.Shader
import ShadeGraph.Document.Entry
import ShadeGraph.Document.Load
import ShadeGraph.Document.Save
import ShadeGraph.Editor
import ShadeGraph.Graph.Agreement
import ShadeGraph.Graph.Connect
import ShadeGraph.Graph.Design
import ShadeGraph.Graph.Edge
import ShadeGraph.Graph.Edit
import ShadeGraph.Graph.Error
import ShadeGraph.Graph.Order
import ShadeGraph.Graph.Reach
import ShadeGraph.Graph.StageGraph
import ShadeGraph.InPlace
import ShadeGraph.Main
import ShadeGraph.Node.Code
import ShadeGraph.Node.Constant
import ShadeGraph.Node.Expression
import ShadeGraph.Node.Formula
import ShadeGraph.Node.Function
import ShadeGraph.Node.InPlace
import ShadeGraph.Node.Logic
import ShadeGraph.Node.Model
import ShadeGraph.Node.Operator
import ShadeGraph.Node.Registry
import ShadeGraph.Node.Sampling
import ShadeGraph.Node.Standard
import ShadeGraph.Node.Sum
import ShadeGraph.Node.Terminal
import ShadeGraph.Node.Texture
import ShadeGraph.Node.Uniform
import ShadeGraph.Number.Decimal
import ShadeGraph.Number.Reading
import ShadeGraph.Number.Rounding
import ShadeGraph.Number.Single
import ShadeGraph.Param.Basic
import ShadeGraph.Param.Slot
import ShadeGraph.Param.Text
import ShadeGraph.Port
import ShadeGraph.Proofs.Accuracy
import ShadeGraph.Proofs.Assignments
import ShadeGraph.Proofs.Atomicity
import ShadeGraph.Proofs.BagOrder
import ShadeGraph.Proofs.Blame
import ShadeGraph.Proofs.BlockNames
import ShadeGraph.Proofs.Brackets
import ShadeGraph.Proofs.Builtins
import ShadeGraph.Proofs.CalmCode
import ShadeGraph.Proofs.Canonical
import ShadeGraph.Proofs.Capture
import ShadeGraph.Proofs.Closure
import ShadeGraph.Proofs.Commands
import ShadeGraph.Proofs.Contributions
import ShadeGraph.Proofs.Countdown
import ShadeGraph.Proofs.DeadNodes
import ShadeGraph.Proofs.Decimal
import ShadeGraph.Proofs.Declarations
import ShadeGraph.Proofs.Description
import ShadeGraph.Proofs.Diagnosis
import ShadeGraph.Proofs.Documents
import ShadeGraph.Proofs.Edits
import ShadeGraph.Proofs.Emission
import ShadeGraph.Proofs.Entries
import ShadeGraph.Proofs.ErrorLines
import ShadeGraph.Proofs.Except
import ShadeGraph.Proofs.Fields
import ShadeGraph.Proofs.History
import ShadeGraph.Proofs.Integrity
import ShadeGraph.Proofs.Isolation
import ShadeGraph.Proofs.LeastOrder
import ShadeGraph.Proofs.Likeness
import ShadeGraph.Proofs.Listing
import ShadeGraph.Proofs.Literals
import ShadeGraph.Proofs.Mentions
import ShadeGraph.Proofs.NameSearch
import ShadeGraph.Proofs.Names
import ShadeGraph.Proofs.Naming
import ShadeGraph.Proofs.NewNumbers
import ShadeGraph.Proofs.Order
import ShadeGraph.Proofs.OutputPaths
import ShadeGraph.Proofs.Overrides
import ShadeGraph.Proofs.ParamEdits
import ShadeGraph.Proofs.ParamText
import ShadeGraph.Proofs.Paths
import ShadeGraph.Proofs.Placement
import ShadeGraph.Proofs.PortLists
import ShadeGraph.Proofs.PreviewText
import ShadeGraph.Proofs.Previews
import ShadeGraph.Proofs.Reach
import ShadeGraph.Proofs.Reachable
import ShadeGraph.Proofs.Regular
import ShadeGraph.Proofs.Reload
import ShadeGraph.Proofs.Reopening
import ShadeGraph.Proofs.Restore
import ShadeGraph.Proofs.RoundTrip
import ShadeGraph.Proofs.Samplers
import ShadeGraph.Proofs.Settings
import ShadeGraph.Proofs.ShaderBrackets
import ShadeGraph.Proofs.Slices
import ShadeGraph.Proofs.Slots
import ShadeGraph.Proofs.Soundness
import ShadeGraph.Proofs.Staleness
import ShadeGraph.Proofs.Standard
import ShadeGraph.Proofs.StatementBrackets
import ShadeGraph.Proofs.Table
import ShadeGraph.Proofs.Terminals
import ShadeGraph.Proofs.Text
import ShadeGraph.Proofs.Uniforms
import ShadeGraph.Proofs.Validation
import ShadeGraph.Proofs.Values
import ShadeGraph.Proofs.Wiring
import ShadeGraph.Proofs.Words
import ShadeGraph.Ron.Extension
import ShadeGraph.Ron.Number
import ShadeGraph.Ron.Quoted
import ShadeGraph.Ron.Reader
import ShadeGraph.Ron.Skip
import ShadeGraph.Ron.Text
import ShadeGraph.Ron.Word
import ShadeGraph.Session
import ShadeGraph.Shader.Builtin
import ShadeGraph.Shader.Mode
import ShadeGraph.Shader.Stage
import ShadeGraph.Table
import ShadeGraph.Text.Basic
import ShadeGraph.Text.Blank
import ShadeGraph.Text.CodeSet
import ShadeGraph.Text.Numeral
import ShadeGraph.Text.Quoted
import ShadeGraph.Text.Visible
import ShadeGraph.Text.Word
import ShadeGraph.Uniform.Binding
import ShadeGraph.Uniform.Name
import ShadeGraph.Value.Basic
import ShadeGraph.Value.Literal
