import RunManifest.Command
import RunManifest.CommandLine.Flags
import RunManifest.CommandLine.Words
import RunManifest.Files.Operations
import RunManifest.Files.Path
import RunManifest.Files.Tree
import RunManifest.Host
import RunManifest.Json
import RunManifest.Manifest
import RunManifest.Output
import RunManifest.Program.Arguments
import RunManifest.Program.Run
import RunManifest.Proofs.Command.RoundTrip
import RunManifest.Proofs.CommandLine.Flags
import RunManifest.Proofs.CommandLine.Quoting
import RunManifest.Proofs.Files.Changes
import RunManifest.Proofs.Files.Following
import RunManifest.Proofs.Files.Paths
import RunManifest.Proofs.Manifest.PortLinkage
import RunManifest.Proofs.Name
import RunManifest.Proofs.Outcomes
import RunManifest.Proofs.Output.Containment
import RunManifest.Proofs.Output.Course
import RunManifest.Proofs.Output.FailingWrite
import RunManifest.Proofs.Port
import RunManifest.Proofs.Text
import RunManifest.Settings
import RunManifest.Settings.File
import RunManifest.Source
import RunManifest.Text
import RunManifest.Text.Utf8
import RunManifest.ValidationError
import RunManifest.Yaml.Cursor
import RunManifest.Yaml.Document
import RunManifest.Yaml.Property
import RunManifest.Yaml.Reading
import RunManifest.Yaml.ScalarReader
import RunManifest.Yaml.Style
import RunManifest.Yaml.Token
import RunManifest.Yaml.Writer
import RunManifest.Main
import RunManifest.Proofs.Command.Environment
import RunManifest.Proofs.Files.Existing
import RunManifest.Proofs.Output.Leftovers
import RunManifest.Proofs.Output.Completed
import RunManifest.Proofs.Program.Generating
import RunManifest.Proofs.Program.OneName
import RunManifest.Proofs.Program.Repetition
import RunManifest.Proofs.CommandLine.Groups
import RunManifest.Proofs.Program.DryRun
import RunManifest.Proofs.Program.Inspection
import RunManifest.Proofs.Command.Interleaving
import RunManifest.Proofs.Yaml.Escape
import RunManifest.Proofs.Yaml.Layout
import RunManifest.Proofs.Yaml.Lines
import RunManifest.Proofs.Manifest.Rendering
import RunManifest.Proofs.Manifest.Documents
import RunManifest.Proofs.Output.Extent
import RunManifest.Proofs.Program.Extent
import RunManifest.Proofs.CommandLine.Writing
import RunManifest.Proofs.CommandLine.Clusters
import RunManifest.Proofs.Command.Spellings
import RunManifest.Proofs.Files.Steps
import RunManifest.Proofs.Files.Parents
import RunManifest.Proofs.Files.Lasting
import RunManifest.Proofs.Files.Ways
import RunManifest.Proofs.Files.Entries
import RunManifest.Proofs.Output.Attempt
import RunManifest.Proofs.Output.Resuming
import RunManifest.Proofs.Output.Interchange
import RunManifest.Proofs.Output.EitherOrder
import RunManifest.Proofs.Repetitions
import RunManifest.Proofs.EnvVar
import RunManifest.Proofs.CommandLine.Cuts
import RunManifest.Proofs.Command.LineEndings
import RunManifest.Proofs.Command.FirstFault
import RunManifest.Proofs.Files.Tilde
import RunManifest.Proofs.Command.Calls
import RunManifest.Proofs.Output.Overwriting
import RunManifest.Proofs.Settings.Search
import RunManifest.Proofs.Settings.Winner
import RunManifest.Proofs.Settings.OutputRoot
