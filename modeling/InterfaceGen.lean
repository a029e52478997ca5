import InterfaceGen.CommandLine
import InterfaceGen.Console
import InterfaceGen.Diagnostic
import InterfaceGen.Document.Basic
import InterfaceGen.Document.Check
import InterfaceGen.Document.Reader
import InterfaceGen.Document.Writer
import InterfaceGen.Files.Glob
import InterfaceGen.Files.Path
import InterfaceGen.Files.System
import InterfaceGen.Files.Walk
import InterfaceGen.Generation.BuiltIn.Rust
import InterfaceGen.Generation.BuiltIn.TypeScript
import InterfaceGen.Generation.Context
import InterfaceGen.Generation.Entity
import InterfaceGen.Generation.Filters
import InterfaceGen.Generation.Rendering
import InterfaceGen.Generation.Spelling
import InterfaceGen.Generation.TemplateFile
import InterfaceGen.Generation.TemplateSet
import InterfaceGen.Graph
import InterfaceGen.Introspection
import InterfaceGen.Json.Double
import InterfaceGen.Json.Fault
import InterfaceGen.Json.Number
import InterfaceGen.Json.Printer
import InterfaceGen.Json.Reader
import InterfaceGen.Json.Source
import InterfaceGen.Json.Value
import InterfaceGen.Loading
import InterfaceGen.Main
import InterfaceGen.Model.Basic
import InterfaceGen.Model.Build
import InterfaceGen.Model.Draft
import InterfaceGen.Model.Export
import InterfaceGen.Model.Merge
import InterfaceGen.Model.Scope
import InterfaceGen.Model.Writer
import InterfaceGen.Overlay
import InterfaceGen.Program
import InterfaceGen.Proofs.Arrangement
import InterfaceGen.Proofs.Binding
import InterfaceGen.Proofs.Build
import InterfaceGen.Proofs.BuiltIn
import InterfaceGen.Proofs.Circular
import InterfaceGen.Proofs.Collect
import InterfaceGen.Proofs.Content
import InterfaceGen.Proofs.Context
import InterfaceGen.Proofs.Course
import InterfaceGen.Proofs.Creatable
import InterfaceGen.Proofs.Destinations
import InterfaceGen.Proofs.Diagnosis
import InterfaceGen.Proofs.Discovery
import InterfaceGen.Proofs.Document
import InterfaceGen.Proofs.Draft
import InterfaceGen.Proofs.Entities
import InterfaceGen.Proofs.Exported
import InterfaceGen.Proofs.Extension
import InterfaceGen.Proofs.Files.Along
import InterfaceGen.Proofs.Files.Components
import InterfaceGen.Proofs.Files.Confined
import InterfaceGen.Proofs.Files.Delivery
import InterfaceGen.Proofs.Files.Drafts
import InterfaceGen.Proofs.Files.Fates
import InterfaceGen.Proofs.Files.Following
import InterfaceGen.Proofs.Files.Keeping
import InterfaceGen.Proofs.Files.Making
import InterfaceGen.Proofs.Files.Place
import InterfaceGen.Proofs.Files.Removal
import InterfaceGen.Proofs.Files.Sparing
import InterfaceGen.Proofs.Files.Tree
import InterfaceGen.Proofs.Files.Walking
import InterfaceGen.Proofs.Filing
import InterfaceGen.Proofs.Grammar
import InterfaceGen.Proofs.Graph.Additions
import InterfaceGen.Proofs.Graph.Alike
import InterfaceGen.Proofs.Graph.Closure
import InterfaceGen.Proofs.Graph.Cycles
import InterfaceGen.Proofs.Graph.Links
import InterfaceGen.Proofs.Graph.Numbers
import InterfaceGen.Proofs.Graph.Order
import InterfaceGen.Proofs.Graph.Reach
import InterfaceGen.Proofs.Imports
import InterfaceGen.Proofs.Inheritance
import InterfaceGen.Proofs.Jobs
import InterfaceGen.Proofs.Json.Distinct
import InterfaceGen.Proofs.Json.Printed
import InterfaceGen.Proofs.Kept
import InterfaceGen.Proofs.Layers
import InterfaceGen.Proofs.Lists
import InterfaceGen.Proofs.Lookup
import InterfaceGen.Proofs.Malformed
import InterfaceGen.Proofs.Merge
import InterfaceGen.Proofs.Model
import InterfaceGen.Proofs.ModelOutput
import InterfaceGen.Proofs.Naming
import InterfaceGen.Proofs.Origins
import InterfaceGen.Proofs.Outcomes
import InterfaceGen.Proofs.Overlay
import InterfaceGen.Proofs.OwnNames
import InterfaceGen.Proofs.Path
import InterfaceGen.Proofs.Positions
import InterfaceGen.Proofs.Precedence
import InterfaceGen.Proofs.Provenance
import InterfaceGen.Proofs.Qualified
import InterfaceGen.Proofs.Reading
import InterfaceGen.Proofs.Rebuild
import InterfaceGen.Proofs.Reexport
import InterfaceGen.Proofs.References
import InterfaceGen.Proofs.Reparsed
import InterfaceGen.Proofs.Resolution
import InterfaceGen.Proofs.Revision
import InterfaceGen.Proofs.Sameness
import InterfaceGen.Proofs.Scope
import InterfaceGen.Proofs.Similar
import InterfaceGen.Proofs.Spelling
import InterfaceGen.Proofs.Stages
import InterfaceGen.Proofs.Table
import InterfaceGen.Proofs.Template.Opening
import InterfaceGen.Proofs.Template.Safe
import InterfaceGen.Proofs.Template.Shape
import InterfaceGen.Proofs.TypeNames
import InterfaceGen.Proofs.Validity
import InterfaceGen.Proofs.ValueSpace
import InterfaceGen.Proofs.WellFormed
import InterfaceGen.Proofs.Words
import InterfaceGen.Proofs.Written
import InterfaceGen.Run
import InterfaceGen.Settings
import InterfaceGen.Startup
import InterfaceGen.Table
import InterfaceGen.Template.Engine
import InterfaceGen.Template.Expression
import InterfaceGen.Template.Render
import InterfaceGen.Template.Scope
import InterfaceGen.Template.Syntax
import InterfaceGen.Template.Tag
import InterfaceGen.Template.Tree
import InterfaceGen.Text.Alphanumeric
import InterfaceGen.Text.LetterCase
import InterfaceGen.Text.Printable
import InterfaceGen.Text.Split
import InterfaceGen.Text.Words
import InterfaceGen.Types.Basic
import InterfaceGen.Types.Data
import InterfaceGen.Types.Expr
import InterfaceGen.Writing
