import WorkspaceLint.Analysis.Pool
import WorkspaceLint.Analysis.Result
import WorkspaceLint.Analysis.Run
import WorkspaceLint.Checker.Basic
import WorkspaceLint.Checker.Script
import WorkspaceLint.Codec.Basic
import WorkspaceLint.Codec.CodePage
import WorkspaceLint.Codec.Standard
import WorkspaceLint.Codec.Unicode
import WorkspaceLint.CommandLine.Arguments
import WorkspaceLint.CommandLine.Program
import WorkspaceLint.CommandLine.Run
import WorkspaceLint.Digest.Sha1
import WorkspaceLint.Fault.Basic
import WorkspaceLint.Fault.Calling
import WorkspaceLint.Fault.Lineage
import WorkspaceLint.Fault.Text
import WorkspaceLint.FileTree.Basic
import WorkspaceLint.FileTree.Glob
import WorkspaceLint.FileTree.Host
import WorkspaceLint.FileTree.Resolve
import WorkspaceLint.Finding
import WorkspaceLint.Json.Basic
import WorkspaceLint.Json.Reader
import WorkspaceLint.Json.Writer
import WorkspaceLint.Log.Console
import WorkspaceLint.Log.Message
import WorkspaceLint.Log.StyledText
import WorkspaceLint.Main
import WorkspaceLint.Number.Binary64
import WorkspaceLint.Path.Basic
import WorkspaceLint.Path.Pattern
import WorkspaceLint.Platform
import WorkspaceLint.Plugin.Execution
import WorkspaceLint.Plugin.Given.Basic
import WorkspaceLint.Plugin.Given.Lookup
import WorkspaceLint.Plugin.Given.Program
import WorkspaceLint.Plugin.Given.StandardAToB
import WorkspaceLint.Plugin.Given.StandardCToD
import WorkspaceLint.Plugin.Given.StandardEToI
import WorkspaceLint.Plugin.Given.StandardJToO
import WorkspaceLint.Plugin.Given.StandardPToS
import WorkspaceLint.Plugin.Given.StandardTToZ
import WorkspaceLint.Plugin.LoadFailure
import WorkspaceLint.Plugin.Loading
import WorkspaceLint.Plugin.Name
import WorkspaceLint.Plugin.Object
import WorkspaceLint.Plugin.Registry
import WorkspaceLint.Plugin.Statement
import WorkspaceLint.Proofs.Agreement
import WorkspaceLint.Proofs.Analysis.Accounting
import WorkspaceLint.Proofs.Analysis.Chronicle
import WorkspaceLint.Proofs.Analysis.CompletedRuns
import WorkspaceLint.Proofs.Analysis.Completion
import WorkspaceLint.Proofs.Analysis.Orders
import WorkspaceLint.Proofs.Analysis.Sorting
import WorkspaceLint.Proofs.Analysis.Strictness
import WorkspaceLint.Proofs.Analysis.Verdicts
import WorkspaceLint.Proofs.Checker.Script
import WorkspaceLint.Proofs.CommandLine.MissingPlugin
import WorkspaceLint.Proofs.CommandLine.Policies
import WorkspaceLint.Proofs.CommandLine.Repeatability
import WorkspaceLint.Proofs.CommandLine.Stages
import WorkspaceLint.Proofs.CommandLine.UntoldExports
import WorkspaceLint.Proofs.Fault.Lineage
import WorkspaceLint.Proofs.FileTree.Contents
import WorkspaceLint.Proofs.FileTree.Enumeration
import WorkspaceLint.Proofs.FileTree.Glob
import WorkspaceLint.Proofs.FileTree.Resolve
import WorkspaceLint.Proofs.FileTree.WellFormed
import WorkspaceLint.Proofs.Finding
import WorkspaceLint.Proofs.Json.RoundTrip
import WorkspaceLint.Proofs.Outcome
import WorkspaceLint.Proofs.Path.Order
import WorkspaceLint.Proofs.Path.Text
import WorkspaceLint.Proofs.Plugin.Absence
import WorkspaceLint.Proofs.Plugin.Bookkeeping
import WorkspaceLint.Proofs.Plugin.Classes
import WorkspaceLint.Proofs.Plugin.Classification
import WorkspaceLint.Proofs.Plugin.Constructors
import WorkspaceLint.Proofs.Plugin.Definition
import WorkspaceLint.Proofs.Plugin.Dependencies
import WorkspaceLint.Proofs.Plugin.Discovery
import WorkspaceLint.Proofs.Plugin.EntryPoints
import WorkspaceLint.Proofs.Plugin.ExportFaults
import WorkspaceLint.Proofs.Plugin.Exports
import WorkspaceLint.Proofs.Plugin.Extension
import WorkspaceLint.Proofs.Plugin.Frame
import WorkspaceLint.Proofs.Plugin.Import
import WorkspaceLint.Proofs.Plugin.Ledger
import WorkspaceLint.Proofs.Plugin.Making
import WorkspaceLint.Proofs.Plugin.Naming
import WorkspaceLint.Proofs.Plugin.Providing
import WorkspaceLint.Proofs.Plugin.Reachable
import WorkspaceLint.Proofs.Plugin.Registration
import WorkspaceLint.Proofs.Plugin.Rollback
import WorkspaceLint.Proofs.Plugin.Surroundings
import WorkspaceLint.Proofs.Report.Blocks
import WorkspaceLint.Proofs.Report.Entries
import WorkspaceLint.Proofs.Report.Formats
import WorkspaceLint.Proofs.Report.LineBreaks
import WorkspaceLint.Proofs.Report.Relative
import WorkspaceLint.Proofs.Settings
import WorkspaceLint.Proofs.Settings.Layers
import WorkspaceLint.Proofs.Snapshot.Tree
import WorkspaceLint.Proofs.SourceText
import WorkspaceLint.Proofs.Workspace.Accounts
import WorkspaceLint.Proofs.Workspace.Damage
import WorkspaceLint.Proofs.Workspace.Declaration
import WorkspaceLint.Proofs.Workspace.Escapes
import WorkspaceLint.Proofs.Workspace.Exclusion
import WorkspaceLint.Proofs.Workspace.Loading
import WorkspaceLint.Proofs.Workspace.MemberOrder
import WorkspaceLint.Proofs.Workspace.Members
import WorkspaceLint.Proofs.Workspace.Naming
import WorkspaceLint.Proofs.Workspace.Obstacles
import WorkspaceLint.Proofs.Workspace.Ownership
import WorkspaceLint.Proofs.Workspace.Reordering
import WorkspaceLint.Proofs.Workspace.Selection
import WorkspaceLint.Proofs.Workspace.Spelling
import WorkspaceLint.Proofs.Workspace.UnitLines
import WorkspaceLint.Proofs.Workspace.VirtualRoot
import WorkspaceLint.Proofs.Workspace.Walk
import WorkspaceLint.Report.Basic
import WorkspaceLint.Settings
import WorkspaceLint.Snapshot.Environment
import WorkspaceLint.Snapshot.Plugins
import WorkspaceLint.Snapshot.Script
import WorkspaceLint.Snapshot.Tree
import WorkspaceLint.Snapshot.Value
import WorkspaceLint.SourceFile
import WorkspaceLint.SourceText
import WorkspaceLint.Text.Blank
import WorkspaceLint.Text.CellWidth
import WorkspaceLint.Text.Lines
import WorkspaceLint.Text.Printable
import WorkspaceLint.Text.Quoted
import WorkspaceLint.Text.Ranges
import WorkspaceLint.Text.Utf8
import WorkspaceLint.Text.WordCharacter
import WorkspaceLint.Toml.Document
import WorkspaceLint.Toml.Expression
import WorkspaceLint.Toml.Scalar
import WorkspaceLint.Toml.Text
import WorkspaceLint.Validation
import WorkspaceLint.Value
import WorkspaceLint.Workspace.Basic
import WorkspaceLint.Workspace.Diagnostic
import WorkspaceLint.Workspace.Discovery
import WorkspaceLint.Workspace.Members
import WorkspaceLint.Workspace.Opening
