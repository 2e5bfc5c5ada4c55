import EventFlow.Command.Arguments
import EventFlow.Command.Run
import EventFlow.Config.Basic
import EventFlow.Config.Load
import EventFlow.Decimal.Binary64
import EventFlow.Decimal.Shortest
import EventFlow.Decimal.Text
import EventFlow.Diagnostic
import EventFlow.Digest.Sha256
import EventFlow.Document.Basic
import EventFlow.Document.Json.Reader
import EventFlow.Document.Json.Writer
import EventFlow.Document.Record
import EventFlow.Log.Filter
import EventFlow.Log.Line
import EventFlow.Log.Record
import EventFlow.Log.Settings
import EventFlow.Log.Time
import EventFlow.Machine.Builder
import EventFlow.Machine.Definition
import EventFlow.Machine.Diagram
import EventFlow.Machine.Naming
import EventFlow.Machine.Path
import EventFlow.Machine.State
import EventFlow.Main
import EventFlow.Manifest.Basic
import EventFlow.Manifest.Build
import EventFlow.Manifest.Document
import EventFlow.Manifest.Read
import EventFlow.Manifest.Registry
import EventFlow.Manifest.Text
import EventFlow.Manifest.TypeNotation
import EventFlow.Pipeline.Composition
import EventFlow.Pipeline.Node
import EventFlow.Pipeline.TypeName
import EventFlow.Pipeline.Typed
import EventFlow.Pipeline.Walk
import EventFlow.Text.Blank
import EventFlow.Text.Pieces
import EventFlow.Text.Property
import EventFlow.Text.Quoted
import EventFlow.Toml.Number
import EventFlow.Toml.Parse
import EventFlow.Toml.Reader
import EventFlow.Toml.Table
import EventFlow.Toml.Text
import EventFlow.Workspace.FileStore
import EventFlow.Workspace.FileTree
import EventFlow.Workspace.Path
import EventFlow.Yaml.Char
import EventFlow.Yaml.Glyph
import EventFlow.Yaml.Node
import EventFlow.Yaml.Node.Parse
import EventFlow.Yaml.Reader
import EventFlow.Yaml.Scalar
import EventFlow.Yaml.Token
import EventFlow.Yaml.Token.Property
import EventFlow.Yaml.Token.Scalar
import EventFlow.Yaml.Token.Scan
import EventFlow.Yaml.Writer
import EventFlow.Proofs.Refusal
import EventFlow.Proofs.Machine.Steps
import EventFlow.Proofs.Machine.Layout
import EventFlow.Proofs.Machine.Violation
import EventFlow.Proofs.Machine.Compile
import EventFlow.Proofs.Machine.Structure
import EventFlow.Proofs.Machine.Uniqueness
import EventFlow.Proofs.Machine.Threading
import EventFlow.Proofs.Machine.Decoration
import EventFlow.Proofs.Pipeline.Lowering
import EventFlow.Proofs.Manifest.WellFormed
import EventFlow.Proofs.Manifest.Typing
import EventFlow.Proofs.Manifest.TypeNotation
import EventFlow.Proofs.Manifest.Agreement
import EventFlow.Proofs.Pipeline.Calls
import EventFlow.Proofs.Machine.SharedNames
import EventFlow.Proofs.Manifest.DistinctNames
import EventFlow.Proofs.Document.Table
import EventFlow.Proofs.Machine.Scopes
import EventFlow.Proofs.Machine.States
import EventFlow.Proofs.Machine.Rendering
import EventFlow.Proofs.Machine.Closure
import EventFlow.Proofs.Machine.Diagram
import EventFlow.Proofs.Machine.Recovery
import EventFlow.Proofs.Machine.Transitions
import EventFlow.Proofs.Manifest.Delivery
import EventFlow.Proofs.Pipeline.Linearization
import EventFlow.Proofs.Machine.Neutrality
import EventFlow.Proofs.Manifest.References
import EventFlow.Proofs.Workspace.FileTree
import EventFlow.Proofs.Config.Layers
import EventFlow.Proofs.Command.Inquiry
import EventFlow.Proofs.Command.Artifact
import EventFlow.Proofs.Machine.DiagramTree
import EventFlow.Proofs.Pipeline.Traversal
import EventFlow.Proofs.Manifest.Desugaring
import EventFlow.Proofs.Manifest.Nesting
import EventFlow.Proofs.Manifest.Bounds
import EventFlow.Proofs.Manifest.CanonicalTypes
import EventFlow.Proofs.Machine.Alignment
import EventFlow.Proofs.Workspace.Path
import EventFlow.Proofs.Log.FilePath
import EventFlow.Proofs.Manifest.Mirror
import EventFlow.Proofs.Manifest.RoundTrip
import EventFlow.Proofs.Machine.PathScopes
import EventFlow.Proofs.Pipeline.ShortNames
import EventFlow.Proofs.Config.Layers
