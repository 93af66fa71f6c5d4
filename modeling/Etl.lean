import Etl.Catalog
import Etl.Catalog.Category
import Etl.Catalog.FieldSpec
import Etl.Catalog.NodeType
import Etl.Catalog.Standard
import Etl.Catalog.Yaml
import Etl.CommandLine.Failure
import Etl.CommandLine.Listing
import Etl.CommandLine.Request
import Etl.CommandLine.Run
import Etl.CommandLine.Switch
import Etl.Compiler
import Etl.Config
import Etl.Decimal.Double
import Etl.Decimal.Layout
import Etl.Decimal.Shortest
import Etl.Document.Basic
import Etl.Document.Edit
import Etl.Document.Session
import Etl.Document.Store
import Etl.Edge
import Etl.Engine
import Etl.Error
import Etl.Files.Device
import Etl.Files.Fault
import Etl.Files.Host
import Etl.Files.Memory
import Etl.Files.Path
import Etl.Files.Tree
import Etl.Json.Fault
import Etl.Json.Mismatch
import Etl.Json.Number
import Etl.Json.Numeral
import Etl.Json.Quoted
import Etl.Json.Raw
import Etl.Json.Reader
import Etl.Json.Shape
import Etl.Json.Value
import Etl.Logging
import Etl.Main
import Etl.Pipeline.Basic
import Etl.Pipeline.Change
import Etl.Pipeline.Descriptor
import Etl.Pipeline.Edit
import Etl.Pipeline.Node
import Etl.Pipeline.Order
import Etl.Pipeline.Reach
import Etl.Proofs.Document.Cache
import Etl.Proofs.Document.Cycles
import Etl.Proofs.Document.InPlace
import Etl.Proofs.Document.Session
import Etl.Proofs.Document.Versions
import Etl.Proofs.Generation
import Etl.Proofs.Json.Numeral
import Etl.Proofs.Json.Quoted
import Etl.Proofs.Json.Record
import Etl.Proofs.Json.Text
import Etl.Proofs.Pipeline.Change
import Etl.Proofs.Pipeline.Cycle
import Etl.Proofs.Pipeline.Descriptor
import Etl.Proofs.Pipeline.History
import Etl.Proofs.Pipeline.Order
import Etl.Proofs.Pipeline.Reach
import Etl.Proofs.Pipeline.Reachable
import Etl.Proofs.Pipeline.RoundTrip
import Etl.Proofs.Pipeline.WellFormed
import Etl.Proofs.Results
import Etl.Proofs.Settings
import Etl.Proofs.SortedMap
import Etl.Proofs.Sql.Definedness
import Etl.Proofs.Sql.Plan
import Etl.Proofs.Sql.Relation
import Etl.Proofs.Sql.Shadowing
import Etl.Proofs.Validation.Deployable
import Etl.Proofs.Work
import Etl.Settings.Basic
import Etl.Settings.Choice
import Etl.Settings.Fault
import Etl.Settings.Project
import Etl.SortedMap
import Etl.Sql.Name
import Etl.Sql.Query
import Etl.Sql.Relation
import Etl.Sql.Script
import Etl.Sql.Write
import Etl.Text.Blank
import Etl.Text.CaseTable
import Etl.Text.EscapeTable
import Etl.Text.Escaped
import Etl.Text.Lowercase
import Etl.Text.Name
import Etl.Text.Replace
import Etl.Validation.Checks
import Etl.Validation.Diagnostic
import Etl.Validation.Limits
import Etl.Validation.Policy
import Etl.Validation.Report
import Etl.Validation.Rule
import Etl.Validation.Severity
import Etl.Validation.Validator
import Etl.Work
import Etl.Yaml.Cursor
import Etl.Yaml.Node
import Etl.Yaml.Plain
import Etl.Yaml.Reader
import Etl.Yaml.Scalar
import Etl.Yaml.Token
import Etl.Proofs.Validation.Findings
import Etl.Proofs.Validation.Policy
import Etl.Proofs.Validation.Connectivity
import Etl.Proofs.Pipeline.Conformance
import Etl.Proofs.Document.Conformance
import Etl.Proofs.Sql.FreeText
import Etl.Catalog.Batch
import Etl.Proofs.Catalog.Sound
import Etl.Proofs.Pipeline.Assembly
import Etl.Proofs.Catalog.Registration
import Etl.Proofs.Files.Tree
import Etl.Proofs.CommandLine.Outcome
import Etl.Proofs.CommandLine.Format
import Etl.Document.Workspace
import Etl.Proofs.Pipeline.Ordering
import Etl.Proofs.Validation.Acyclicity
import Etl.Proofs.Sql.Item
import Etl.Proofs.Sql.Layout
import Etl.Proofs.Document.Workspace
import Etl.Proofs.Document.Independence
import Etl.Proofs.Text
import Etl.Proofs.Settings.Complete
import Etl.Proofs.Settings.Reading
import Etl.Proofs.Settings.Blank
import Etl.Proofs.Sql.Clause
import Etl.Proofs.Document.Resubmission
import Etl.Proofs.Sql.Conflict
import Etl.Proofs.Text.Pass
import Etl.Proofs.Sql.Placeholder
import Etl.Proofs.Sql.Terminator
import Etl.Proofs.Sql.Quotation
import Etl.Proofs.Sql.Piece
import Etl.Proofs.Sql.Naming
import Etl.Proofs.Validation.Arrangement
import Etl.Proofs.Validation.Downstream
import Etl.Proofs.Validation.Connection
import Etl.Proofs.Validation.Reconfiguration
import Etl.Proofs.Exchange
import Etl.Proofs.Pipeline.Search
import Etl.Proofs.Pipeline.Counting
