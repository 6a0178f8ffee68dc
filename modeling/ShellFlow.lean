import ShellFlow.Action
import ShellFlow.Binary64
import ShellFlow.CarryChannel
import ShellFlow.CommandLine
import ShellFlow.CommandLine.Arguments
import ShellFlow.CommandLine.Discovery
import ShellFlow.CommandLine.Overview
import ShellFlow.CommandLine.Request
import ShellFlow.CommandLine.Session
import ShellFlow.Decimal.Layout
import ShellFlow.Decimal.Reader
import ShellFlow.Decimal.Shortest
import ShellFlow.EnvTransfer
import ShellFlow.Environment
import ShellFlow.Failure
import ShellFlow.Failure.Fields
import ShellFlow.FileTree
import ShellFlow.Identifier
import ShellFlow.InputType.Basic
import ShellFlow.InputType.Make
import ShellFlow.Invocation
import ShellFlow.Job
import ShellFlow.JobTemplate
import ShellFlow.Json.Basic
import ShellFlow.Json.OfValue
import ShellFlow.Json.Verbatim
import ShellFlow.Label
import ShellFlow.Listing
import ShellFlow.Main
import ShellFlow.Matrix
import ShellFlow.Object.Basic
import ShellFlow.Object.Checks
import ShellFlow.Object.Extension
import ShellFlow.Object.Field
import ShellFlow.Object.Jobs
import ShellFlow.Object.Output
import ShellFlow.Object.Transfer
import ShellFlow.OrderedMap
import ShellFlow.Path
import ShellFlow.Pipeline
import ShellFlow.Proofs.Action.Compilation
import ShellFlow.Proofs.Action.Setup
import ShellFlow.Proofs.Job.Collisions
import ShellFlow.Proofs.Occurrence
import ShellFlow.Proofs.Shell.Assignment
import ShellFlow.Proofs.Shell.Reader
import ShellFlow.Proofs.Shell.Spelling
import ShellFlow.Proofs.Success
import ShellFlow.Proofs.Validation.Passes
import ShellFlow.Proofs.Variables
import ShellFlow.ReadyMade
import ShellFlow.Record
import ShellFlow.Reference
import ShellFlow.Report
import ShellFlow.Sample
import ShellFlow.Settings
import ShellFlow.Shell.Quote
import ShellFlow.Shell.Word
import ShellFlow.Step
import ShellFlow.Text.Blank
import ShellFlow.Text.Case
import ShellFlow.Text.ControlSequence
import ShellFlow.Text.Digit
import ShellFlow.Text.Excerpt
import ShellFlow.Text.Letter
import ShellFlow.Text.Lines
import ShellFlow.Text.Printable
import ShellFlow.Text.Quoted
import ShellFlow.Text.Ranges
import ShellFlow.Traced
import ShellFlow.Validation
import ShellFlow.Value.Basic
import ShellFlow.Value.Display
import ShellFlow.Value.Equality
import ShellFlow.Value.Instance
import ShellFlow.Value.Items
import ShellFlow.Value.Mapping
import ShellFlow.Value.Order
import ShellFlow.Workflow
import ShellFlow.WorkflowFile
import ShellFlow.Proofs.Validation.Issues
import ShellFlow.Proofs.Validation.Outcome
import ShellFlow.Proofs.Action.Exports
import ShellFlow.Proofs.Job.SharedVariables
import ShellFlow.Proofs.Validation.Producers
import ShellFlow.Proofs.FirstOccurrence
import ShellFlow.Proofs.Transfer.Jobs
import ShellFlow.Proofs.Transfer.Handover
import ShellFlow.Proofs.Validation.Relocation
import ShellFlow.Proofs.Transfer.Commutation
import ShellFlow.Proofs.Workflow.Artifacts
import ShellFlow.Proofs.Pipeline.Nesting
import ShellFlow.Proofs.InputType.Defaults
import ShellFlow.Proofs.Validation.GivenInputs
import ShellFlow.Proofs.Transfer.ImportedVariables
import ShellFlow.Proofs.InputType.Acceptance
import ShellFlow.Proofs.Shell.Slots
import ShellFlow.Proofs.Shell.FilledLists
import ShellFlow.Proofs.Shell.Pieces
import ShellFlow.Proofs.Validation.CheckedExpansions
import ShellFlow.Proofs.Leaves
import ShellFlow.Proofs.Shell.Words
import ShellFlow.Proofs.Shell.Refusal
import ShellFlow.Proofs.Text.Indentation
import ShellFlow.Proofs.Shell.Checks
import ShellFlow.Proofs.InputType.CheckLines
import ShellFlow.Proofs.InputType.CheckRuns
import ShellFlow.Proofs.InputType.NestedEnumerations
import ShellFlow.Proofs.InputType.SplicedTexts
import ShellFlow.Proofs.AcceptedNames
import ShellFlow.Proofs.Text.Lines
import ShellFlow.Proofs.Action.Header
import ShellFlow.Proofs.Shell.Expansions
import ShellFlow.Proofs.Shell.Roles
import ShellFlow.Proofs.Shell.Templates
import ShellFlow.Proofs.Transfer.Scripts
import ShellFlow.Proofs.Insertions
import ShellFlow.Proofs.Keywords
import ShellFlow.Proofs.Workflow.StepNames
import ShellFlow.Proofs.Matrix.Combinations
import ShellFlow.Proofs.Matrix.Expansion
import ShellFlow.Proofs.Matrix.Clashes
import ShellFlow.Proofs.InputValues
import ShellFlow.Proofs.Job.Calls
import ShellFlow.Proofs.Transfer.Repetition
import ShellFlow.Proofs.Transfer.SearchOrder
import ShellFlow.Proofs.SortedNames
import ShellFlow.Proofs.Workflow.SharedArtifacts
import ShellFlow.Proofs.Json.PlainData
import ShellFlow.Proofs.Json.ReferenceTags
import ShellFlow.Proofs.Json.Characters
import ShellFlow.Proofs.Text.ControlSequences
import ShellFlow.Proofs.Workflow.Selection
import ShellFlow.Proofs.Workflow.Listing
import ShellFlow.Proofs.Workflow.Assembly
import ShellFlow.Proofs.CommandLine.Compilation
import ShellFlow.Proofs.Workflow.Listing
