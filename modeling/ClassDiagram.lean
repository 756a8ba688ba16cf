import ClassDiagram.Main
import ClassDiagram.Proofs.Build.Account
import ClassDiagram.Proofs.Build.Binding
import ClassDiagram.Proofs.Build.Independent
import ClassDiagram.Proofs.Build.Layout
import ClassDiagram.Proofs.Build.Members
import ClassDiagram.Proofs.Build.Merge
import ClassDiagram.Proofs.Build.Shape
import ClassDiagram.Proofs.Build.Skips
import ClassDiagram.Proofs.CommandLine.Apart
import ClassDiagram.Proofs.CommandLine.Delivery
import ClassDiagram.Proofs.CommandLine.Ending
import ClassDiagram.Proofs.CommandLine.Relogged
import ClassDiagram.Proofs.CommandLine.Steps
import ClassDiagram.Proofs.CommandLine.Untouched
import ClassDiagram.Proofs.Diagram.Comments
import ClassDiagram.Proofs.Diagram.Determined
import ClassDiagram.Proofs.Diagram.EdgeLines
import ClassDiagram.Proofs.Diagram.Edges
import ClassDiagram.Proofs.Diagram.Entries
import ClassDiagram.Proofs.Diagram.Enums
import ClassDiagram.Proofs.Diagram.Markers
import ClassDiagram.Proofs.Diagram.Registry
import ClassDiagram.Proofs.Files.Apart
import ClassDiagram.Proofs.Files.Listing
import ClassDiagram.Proofs.Files.Paths
import ClassDiagram.Proofs.Files.Put
import ClassDiagram.Proofs.Files.Relined
import ClassDiagram.Proofs.Files.Walk
import ClassDiagram.Proofs.Ignore.Glob
import ClassDiagram.Proofs.Ignore.Joined
import ClassDiagram.Proofs.Ignore.Pattern
import ClassDiagram.Proofs.Ignore.SlashFree
import ClassDiagram.Proofs.Ignore.Verdict
import ClassDiagram.Proofs.Ignore.WholePath
import ClassDiagram.Proofs.Pipeline.Apart
import ClassDiagram.Proofs.Pipeline.Excludes
import ClassDiagram.Proofs.Pipeline.Failures
import ClassDiagram.Proofs.Pipeline.LineEnds
import ClassDiagram.Proofs.Pipeline.Locality
import ClassDiagram.Proofs.Pipeline.OwnSettings
import ClassDiagram.Proofs.Pipeline.Split
import ClassDiagram.Proofs.Pipeline.Stages
import ClassDiagram.Proofs.Rust.Core
import ClassDiagram.Proofs.Rust.Core.Methods
import ClassDiagram.Proofs.Rust.Core.RoundTrip
import ClassDiagram.Proofs.Rust.Core.Types
import ClassDiagram.Proofs.Rust.Entities
import ClassDiagram.Proofs.Rust.Lexeme
import ClassDiagram.Proofs.Rust.Names
import ClassDiagram.Proofs.Rust.Places
import ClassDiagram.Proofs.Rust.Reads
import ClassDiagram.Proofs.Rust.Shown
import ClassDiagram.Proofs.Rust.Targets
import ClassDiagram.Proofs.Rust.Types
import ClassDiagram.Proofs.Settings.Rejection
import ClassDiagram.Proofs.Signature.Runs
import ClassDiagram.Proofs.Signature.Tokens
import ClassDiagram.Proofs.Source.Anywhere
import ClassDiagram.Proofs.Source.Excludes
import ClassDiagram.Proofs.Source.IgnoreFile
import ClassDiagram.Proofs.Source.Literal
import ClassDiagram.Proofs.Source.LoneRule
import ClassDiagram.Proofs.Source.Root
import ClassDiagram.Proofs.Source.Scan
import ClassDiagram.Proofs.Source.SlashFree
import ClassDiagram.Proofs.Text.LineEnd
import ClassDiagram.Proofs.Text.Lines
import ClassDiagram.Proofs.Text.Utf8
import ClassDiagram.Proofs.Workspace.Agreement
import ClassDiagram.Proofs.Workspace.Alike
import ClassDiagram.Proofs.Workspace.LastConfiguration
import ClassDiagram.Proofs.Yaml.Nodes
import ClassDiagram.Proofs.Yaml.Tokens
import ClassDiagram.Proofs.Yaml.Values
