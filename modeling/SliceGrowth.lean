import SliceGrowth.Analysis.CheckId
import SliceGrowth.Analysis.Operations
import SliceGrowth.Analysis.Slices
import SliceGrowth.Analysis.Target
import SliceGrowth.Analysis.Targets
import SliceGrowth.Analysis.Unsupported
import SliceGrowth.Analysis.Updates
import SliceGrowth.Build.Constraint
import SliceGrowth.Build.Context
import SliceGrowth.Build.FileName
import SliceGrowth.Checker
import SliceGrowth.Command.Command
import SliceGrowth.Command.Invocation
import SliceGrowth.Command.Log
import SliceGrowth.Failure
import SliceGrowth.FileTree
import SliceGrowth.Go.Grammar
import SliceGrowth.Go.Phrase
import SliceGrowth.Go.Source
import SliceGrowth.Go.Token
import SliceGrowth.Main
import SliceGrowth.Package.Package
import SliceGrowth.Package.Pattern
import SliceGrowth.Package.Problem
import SliceGrowth.Position
import SliceGrowth.Proofs.Analysis.Assigned
import SliceGrowth.Proofs.Analysis.Declared
import SliceGrowth.Proofs.Analysis.Findings
import SliceGrowth.Proofs.Analysis.Pruning
import SliceGrowth.Proofs.Build.Grammar
import SliceGrowth.Proofs.FileTree
import SliceGrowth.Proofs.OperationNames
import SliceGrowth.Proofs.Package.Files
import SliceGrowth.Proofs.Package.Loading
import SliceGrowth.Proofs.Package.Walk
import SliceGrowth.Proofs.Policy
import SliceGrowth.Proofs.Run.Agreement
import SliceGrowth.Proofs.Run.Cut
import SliceGrowth.Proofs.Run.Laws
import SliceGrowth.Proofs.SlashPath
import SliceGrowth.Proofs.Text.Compact
import SliceGrowth.Run
import SliceGrowth.Settings
import SliceGrowth.SlashPath
import SliceGrowth.Syntax.Acceptance
import SliceGrowth.Syntax.Header
import SliceGrowth.Syntax.Node
import SliceGrowth.Syntax.SourceFile
import SliceGrowth.Text.Blank
import SliceGrowth.Text.CodeRanges
import SliceGrowth.Text.DecimalDigit
import SliceGrowth.Text.Ending
import SliceGrowth.Text.IdentifierChar
import SliceGrowth.Text.Lines
import SliceGrowth.Text.Lowercase
import SliceGrowth.Text.Printable
import SliceGrowth.Text.Quoted
import SliceGrowth.Text.Utf8
import SliceGrowth.Toml.Document
import SliceGrowth.Toml.Scalar
import SliceGrowth.Toml.Value
import SliceGrowth.Proofs.Package.Forms
import SliceGrowth.Proofs.FileLocality
import SliceGrowth.Proofs.Analysis.Visibility
import SliceGrowth.Proofs.Analysis.MissingReceiver
import SliceGrowth.Proofs.Command.Logging
import SliceGrowth.Proofs.Command.Told
import SliceGrowth.Proofs.Build.FileName
import SliceGrowth.Proofs.Package.Unselected
import SliceGrowth.Proofs.Settings
import SliceGrowth.Proofs.SourceOrder
import SliceGrowth.Proofs.Build.Faults
import SliceGrowth.Proofs.Build.Printing
import SliceGrowth.Proofs.Build.Contexts
import SliceGrowth.Proofs.Build.Refusals
import SliceGrowth.Proofs.Package.Formed
import SliceGrowth.Proofs.Package.Naming
import SliceGrowth.Proofs.Package.MoreTags
import SliceGrowth.Proofs.Package.WalkRoot
import SliceGrowth.Proofs.Analysis.Reconciled
import SliceGrowth.Proofs.Analysis.MethodOrder
import SliceGrowth.Proofs.Analysis.ReceiverLookup
import SliceGrowth.Proofs.Analysis.Comments
import SliceGrowth.Proofs.Analysis.BodyShape
import SliceGrowth.Proofs.Analysis.Classification
import SliceGrowth.Proofs.Syntax.FirstError
import SliceGrowth.Proofs.Syntax.Header
import SliceGrowth.Proofs.Command.Names
import SliceGrowth.Proofs.Analysis.ResultLine
import SliceGrowth.Proofs.Build.Progress
