import PageComposer.Command
import PageComposer.CommandLine
import PageComposer.Composer
import PageComposer.Confinement
import PageComposer.Expansion
import PageComposer.Fault
import PageComposer.FileTree
import PageComposer.Files
import PageComposer.Interpolation
import PageComposer.Journal
import PageComposer.Listing
import PageComposer.Loading
import PageComposer.Main
import PageComposer.Name
import PageComposer.Number.Binary64
import PageComposer.Number.Layout
import PageComposer.Number.Numeral
import PageComposer.Number.Shortest
import PageComposer.OrderedMap
import PageComposer.Path
import PageComposer.Proofs.Command.Watching
import PageComposer.Proofs.Confinement
import PageComposer.Proofs.Expansion.Clean
import PageComposer.Proofs.Expansion.Dependence
import PageComposer.Proofs.Expansion.Forwarding
import PageComposer.Proofs.Expansion.Limit
import PageComposer.Proofs.Expansion.Lockstep
import PageComposer.Proofs.Expansion.MissingReport
import PageComposer.Proofs.Expansion.Nesting
import PageComposer.Proofs.Expansion.OnePass
import PageComposer.Proofs.Expansion.Outcome
import PageComposer.Proofs.Expansion.ReferenceGraph
import PageComposer.Proofs.Expansion.Reported
import PageComposer.Proofs.Expansion.Settled
import PageComposer.Proofs.FileTree.Sound
import PageComposer.Proofs.FileTree.Walk
import PageComposer.Proofs.Interpolation
import PageComposer.Proofs.Loading
import PageComposer.Proofs.Loading.Complete
import PageComposer.Proofs.Loading.Naming
import PageComposer.Proofs.Loading.Search
import PageComposer.Proofs.Number.Grid
import PageComposer.Proofs.Number.Nearest
import PageComposer.Proofs.Number.Numeral
import PageComposer.Proofs.Number.Pointed
import PageComposer.Proofs.Number.Rounding
import PageComposer.Proofs.Number.Shortest
import PageComposer.Proofs.Path
import PageComposer.Proofs.Piece
import PageComposer.Proofs.Piece.Interpolation
import PageComposer.Proofs.Piece.Replacement
import PageComposer.Proofs.Reference
import PageComposer.Proofs.Registry
import PageComposer.Proofs.Settings.Loaded
import PageComposer.Proofs.Settings.Saved
import PageComposer.Proofs.Settings.Written
import PageComposer.Proofs.Site.Again
import PageComposer.Proofs.Site.Build
import PageComposer.Proofs.Site.ExitCode
import PageComposer.Proofs.Site.Failure
import PageComposer.Proofs.Site.Graft
import PageComposer.Proofs.Site.Output
import PageComposer.Proofs.Site.Plan
import PageComposer.Proofs.Site.Publish
import PageComposer.Proofs.Site.Replay
import PageComposer.Proofs.Site.Transfer
import PageComposer.Proofs.Tag.Call
import PageComposer.Proofs.Tag.Grammar
import PageComposer.Proofs.Tag.Occurrence
import PageComposer.Proofs.Tag.Writing
import PageComposer.Proofs.Tracing
import PageComposer.Proofs.Value.Notation
import PageComposer.Proofs.Value.OnPage
import PageComposer.Proofs.Value.Reading
import PageComposer.Proofs.Watch.Batches
import PageComposer.Proofs.Watch.Convergence
import PageComposer.Proofs.Watch.Edits
import PageComposer.Proofs.Watch.Pending
import PageComposer.Proofs.Watch.Round
import PageComposer.Proofs.Watch.Snapshot
import PageComposer.Proofs.Watch.Unseen
import PageComposer.Proofs.Workspace.Directories
import PageComposer.Proofs.Workspace.Run
import PageComposer.Proofs.Workspace.Storing
import PageComposer.Proofs.Yaml.Content
import PageComposer.Proofs.Yaml.Cursor
import PageComposer.Proofs.Yaml.Cut
import PageComposer.Proofs.Yaml.Form
import PageComposer.Proofs.Yaml.Lines
import PageComposer.Proofs.Yaml.Nodes
import PageComposer.Proofs.Yaml.Number
import PageComposer.Proofs.Yaml.Plain
import PageComposer.Proofs.Yaml.Quoted
import PageComposer.Proofs.Yaml.Scanning
import PageComposer.Proofs.Yaml.Source
import PageComposer.Proofs.Yaml.Values
import PageComposer.Proofs.Yaml.Writing
import PageComposer.Property
import PageComposer.Reference
import PageComposer.Registry
import PageComposer.Scaffold
import PageComposer.Settings
import PageComposer.Settings.Printer
import PageComposer.Settings.Schema
import PageComposer.Settings.Store
import PageComposer.Site
import PageComposer.Table
import PageComposer.Tag
import PageComposer.Text
import PageComposer.Text.Blank
import PageComposer.Text.ControlSequence
import PageComposer.Text.Digit
import PageComposer.Text.Emoji
import PageComposer.Text.Lowercase
import PageComposer.Text.Markup
import PageComposer.Text.Printable
import PageComposer.Text.Quoted
import PageComposer.Text.Utf8
import PageComposer.Text.Width
import PageComposer.Text.Wrap
import PageComposer.Value
import PageComposer.Watch
import PageComposer.Workspace
import PageComposer.Yaml.Cursor
import PageComposer.Yaml.Document
import PageComposer.Yaml.Graph
import PageComposer.Yaml.Graph.Builder
import PageComposer.Yaml.Graph.Reader
import PageComposer.Yaml.Kind
import PageComposer.Yaml.Moment
import PageComposer.Yaml.Scalar
import PageComposer.Yaml.Scalar.Printer
import PageComposer.Yaml.Source
import PageComposer.Yaml.Token
import PageComposer.Yaml.Token.Block
import PageComposer.Yaml.Token.Lexer
import PageComposer.Yaml.Token.Plain
import PageComposer.Yaml.Token.Property
import PageComposer.Yaml.Token.Quoted
