import ServiceBindings.Artifact.Collector
import ServiceBindings.Artifact.Error
import ServiceBindings.Artifact.Export
import ServiceBindings.Artifact.Path
import ServiceBindings.Artifact.Tree
import ServiceBindings.CallShape
import ServiceBindings.Command.Arguments
import ServiceBindings.Command.Execution
import ServiceBindings.Command.Failure
import ServiceBindings.Command.Help
import ServiceBindings.Descriptor.Basic
import ServiceBindings.Descriptor.Ingestion
import ServiceBindings.Descriptor.Wire
import ServiceBindings.Dictionary
import ServiceBindings.Disk.Basic
import ServiceBindings.Disk.Fault
import ServiceBindings.Disk.Node
import ServiceBindings.Disk.Operation
import ServiceBindings.Disk.Program
import ServiceBindings.Disk.Resolution
import ServiceBindings.Disk.Tree
import ServiceBindings.Error
import ServiceBindings.ExitCode
import ServiceBindings.GeneratedCode
import ServiceBindings.GeneratedCode.Json
import ServiceBindings.Generation
import ServiceBindings.Identifier
import ServiceBindings.Inspection
import ServiceBindings.Java.Artifact
import ServiceBindings.Java.CallSite
import ServiceBindings.Java.Name
import ServiceBindings.Java.Signature
import ServiceBindings.Json.Double
import ServiceBindings.Json.Numeral
import ServiceBindings.Json.Printer
import ServiceBindings.Json.Reading
import ServiceBindings.Json.Value
import ServiceBindings.Json.WrittenNumber
import ServiceBindings.Listing.Basic
import ServiceBindings.Listing.Color
import ServiceBindings.Main
import ServiceBindings.NamespaceTable
import ServiceBindings.Options
import ServiceBindings.Options.Json
import ServiceBindings.OutputFormat
import ServiceBindings.Path
import ServiceBindings.Plugin
import ServiceBindings.Proofs.Artifact.Ancestors
import ServiceBindings.Proofs.Artifact.Collector
import ServiceBindings.Proofs.Artifact.Containment
import ServiceBindings.Proofs.Artifact.Directories
import ServiceBindings.Proofs.Artifact.Export
import ServiceBindings.Proofs.Artifact.ForeignFiles
import ServiceBindings.Proofs.Artifact.FreshDirectory
import ServiceBindings.Proofs.Artifact.HomeDirectory
import ServiceBindings.Proofs.Artifact.Joined
import ServiceBindings.Proofs.Artifact.Offers
import ServiceBindings.Proofs.Artifact.PathGrammar
import ServiceBindings.Proofs.Artifact.Place
import ServiceBindings.Proofs.Artifact.Repetition
import ServiceBindings.Proofs.Artifact.Replacement
import ServiceBindings.Proofs.Artifact.Writing
import ServiceBindings.Proofs.Descriptor
import ServiceBindings.Proofs.Descriptor.Ingestion
import ServiceBindings.Proofs.Dictionary
import ServiceBindings.Proofs.Disk.Actions
import ServiceBindings.Proofs.Disk.Clearance
import ServiceBindings.Proofs.Disk.Confinement
import ServiceBindings.Proofs.Disk.Directories
import ServiceBindings.Proofs.Disk.Growth
import ServiceBindings.Proofs.Disk.Interruption
import ServiceBindings.Proofs.Disk.Joining
import ServiceBindings.Proofs.Disk.Misreading
import ServiceBindings.Proofs.Disk.Operation
import ServiceBindings.Proofs.Disk.Resolution
import ServiceBindings.Proofs.Disk.Walk
import ServiceBindings.Proofs.Generation.ArtifactPaths
import ServiceBindings.Proofs.Generation.Checks
import ServiceBindings.Proofs.Generation.Collisions
import ServiceBindings.Proofs.Generation.Composition
import ServiceBindings.Proofs.Generation.Linkage
import ServiceBindings.Proofs.Generation.OrderIndependence
import ServiceBindings.Proofs.Generation.Origin
import ServiceBindings.Proofs.Generation.Outcome
import ServiceBindings.Proofs.Generation.Paths
import ServiceBindings.Proofs.Generation.Rendered
import ServiceBindings.Proofs.Generation.Roots
import ServiceBindings.Proofs.Generation.Unreferenced
import ServiceBindings.Proofs.Identifier
import ServiceBindings.Proofs.Identifier.SnakeCase
import ServiceBindings.Proofs.Identifier.UpperCamel
import ServiceBindings.Proofs.Inspection
import ServiceBindings.Proofs.Java.Agreement
import ServiceBindings.Proofs.Java.Bodies
import ServiceBindings.Proofs.Java.Header
import ServiceBindings.Proofs.Java.Lines
import ServiceBindings.Proofs.Java.Name
import ServiceBindings.Proofs.Java.SourceText
import ServiceBindings.Proofs.Java.Variable
import ServiceBindings.Proofs.Json.Number
import ServiceBindings.Proofs.Json.Part
import ServiceBindings.Proofs.Json.Rearrangement
import ServiceBindings.Proofs.Json.Record
import ServiceBindings.Proofs.Listing
import ServiceBindings.Proofs.Listing.Color
import ServiceBindings.Proofs.Listing.Unambiguous
import ServiceBindings.Proofs.NamespaceTable
import ServiceBindings.Proofs.NamespaceTable.Declaration
import ServiceBindings.Proofs.NamespaceTable.LeadingDots
import ServiceBindings.Proofs.NamespaceTable.Qualification
import ServiceBindings.Proofs.NamespaceTable.Resolution
import ServiceBindings.Proofs.Options
import ServiceBindings.Proofs.Options.LastFragment
import ServiceBindings.Proofs.Path
import ServiceBindings.Proofs.Path.Regrouping
import ServiceBindings.Proofs.Path.Stem
import ServiceBindings.Proofs.Plugin
import ServiceBindings.Proofs.Plugin.Answer
import ServiceBindings.Proofs.Python.Binding
import ServiceBindings.Proofs.Python.Name
import ServiceBindings.Proofs.Python.SourceText
import ServiceBindings.Proofs.Scan
import ServiceBindings.Proofs.Scan.Collection
import ServiceBindings.Proofs.Scan.Destination
import ServiceBindings.Proofs.Scan.Failure
import ServiceBindings.Proofs.Schema.FirstDefect
import ServiceBindings.Proofs.Schema.Nesting
import ServiceBindings.Proofs.Schema.OuterClass
import ServiceBindings.Proofs.Schema.Stored
import ServiceBindings.Proofs.Schema.Validation
import ServiceBindings.Proofs.Template.Rendering
import ServiceBindings.Proofs.Template.Standard
import ServiceBindings.Proofs.Text.Letter
import ServiceBindings.Proofs.Text.Lines
import ServiceBindings.Proofs.Text.Segments
import ServiceBindings.Proofs.Text.Trim
import ServiceBindings.Proofs.Text.Utf8
import ServiceBindings.Proofs.Traversal
import ServiceBindings.Python
import ServiceBindings.Scan
import ServiceBindings.Schema.Basic
import ServiceBindings.Schema.Json
import ServiceBindings.Schema.Validation
import ServiceBindings.Template.Basic
import ServiceBindings.Template.Call
import ServiceBindings.Template.Evaluation
import ServiceBindings.Template.Helper
import ServiceBindings.Template.Layout
import ServiceBindings.Template.Library
import ServiceBindings.Template.Literal
import ServiceBindings.Template.Nesting
import ServiceBindings.Template.Reference
import ServiceBindings.Template.Rendering
import ServiceBindings.Template.Tag
import ServiceBindings.Template.Token
import ServiceBindings.Template.Value
import ServiceBindings.Template.Word
import ServiceBindings.Text.Blank
import ServiceBindings.Text.Letter
import ServiceBindings.Text.Quoted
import ServiceBindings.Text.Reader
import ServiceBindings.Text.Segments
import ServiceBindings.Text.Utf8
import ServiceBindings.Text.Visible
import ServiceBindings.Wire.Decoding
import ServiceBindings.Wire.Encoding
import ServiceBindings.Wire.Error
import ServiceBindings.Wire.Message
import ServiceBindings.Wire.Reading
