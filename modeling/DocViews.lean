import DocViews.Main
import DocViews.Proofs.Body.LineEnds
import DocViews.Proofs.Body.Trimming
import DocViews.Proofs.Catalogue.Discovery
import DocViews.Proofs.Catalogue.Outputs
import DocViews.Proofs.Catalogue.Paths
import DocViews.Proofs.Catalogue.Reading
import DocViews.Proofs.Catalogue.Scan
import DocViews.Proofs.Conversion.Account
import DocViews.Proofs.Conversion.Again
import DocViews.Proofs.Conversion.Failure
import DocViews.Proofs.Conversion.Frame
import DocViews.Proofs.Conversion.Idempotence
import DocViews.Proofs.Conversion.LineEnds
import DocViews.Proofs.Conversion.MetadataOnly
import DocViews.Proofs.Conversion.NameSpace
import DocViews.Proofs.Conversion.Order
import DocViews.Proofs.Conversion.Plan
import DocViews.Proofs.Conversion.Replan
import DocViews.Proofs.Conversion.Task
import DocViews.Proofs.Conversion.ViewPath
import DocViews.Proofs.Conversion.Writing
import DocViews.Proofs.Decimal.Rounding
import DocViews.Proofs.Decimal.Shortest
import DocViews.Proofs.Disk.Again
import DocViews.Proofs.Disk.Asking
import DocViews.Proofs.Disk.Filling
import DocViews.Proofs.Disk.Folders
import DocViews.Proofs.Disk.Laying
import DocViews.Proofs.Disk.Tidy
import DocViews.Proofs.Document.Apart
import DocViews.Proofs.Document.Clash
import DocViews.Proofs.Document.FirstClash
import DocViews.Proofs.Document.Folders
import DocViews.Proofs.Document.NameSpace
import DocViews.Proofs.Document.Output
import DocViews.Proofs.Document.Renumbering
import DocViews.Proofs.FileSystem.Changes
import DocViews.Proofs.FileSystem.Disks
import DocViews.Proofs.FileSystem.Face
import DocViews.Proofs.FileSystem.Follow
import DocViews.Proofs.FileSystem.Growth
import DocViews.Proofs.FileSystem.Lexical
import DocViews.Proofs.FileSystem.Listing
import DocViews.Proofs.FileSystem.Missing
import DocViews.Proofs.FileSystem.Opening
import DocViews.Proofs.FileSystem.Places
import DocViews.Proofs.FileSystem.Tidy
import DocViews.Proofs.FileSystem.Walk
import DocViews.Proofs.Frontmatter.BlankLines
import DocViews.Proofs.Frontmatter.Fences
import DocViews.Proofs.Frontmatter.LineEnds
import DocViews.Proofs.Frontmatter.Locality
import DocViews.Proofs.Frontmatter.Partition
import DocViews.Proofs.Frontmatter.Shape
import DocViews.Proofs.InputPattern.Root
import DocViews.Proofs.Literal.Fence
import DocViews.Proofs.Literal.Layout
import DocViews.Proofs.Literal.Reader
import DocViews.Proofs.Literal.RoundTrip
import DocViews.Proofs.Naming.CodeName
import DocViews.Proofs.Naming.DottedPath
import DocViews.Proofs.Naming.Identifier
import DocViews.Proofs.Naming.Ordinal
import DocViews.Proofs.Naming.Stripping
import DocViews.Proofs.Path.Components
import DocViews.Proofs.Path.Order
import DocViews.Proofs.Path.Steps
import DocViews.Proofs.Project.Search
import DocViews.Proofs.Report.Listing
import DocViews.Proofs.Report.Tally
import DocViews.Proofs.RootNamespace.Captures
import DocViews.Proofs.RootNamespace.Declaration
import DocViews.Proofs.Settings.Names
import DocViews.Proofs.Settings.Overlay
import DocViews.Proofs.Settings.Reading
import DocViews.Proofs.Settings.Schema
import DocViews.Proofs.Text.CharKind
import DocViews.Proofs.Text.CharTable
import DocViews.Proofs.Text.Keyed
import DocViews.Proofs.Text.LineEnds
import DocViews.Proofs.Text.Lines
import DocViews.Proofs.Text.Numbers
import DocViews.Proofs.Text.Pattern
import DocViews.Proofs.Text.Split
import DocViews.Proofs.Text.Trim
import DocViews.Proofs.Text.Unified
import DocViews.Proofs.Toml.Merge
import DocViews.Proofs.Toml.Number
import DocViews.Proofs.Toml.Tidy
import DocViews.Proofs.ViewSource.Attribute
import DocViews.Proofs.ViewSource.Method
import DocViews.Proofs.ViewSource.Reader
import DocViews.Proofs.ViewSource.RoundTrip
