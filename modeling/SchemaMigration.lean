import SchemaMigration.Catalog.Basic
import SchemaMigration.Catalog.Keyed
import SchemaMigration.Catalog.Names
import SchemaMigration.Catalog.Reader
import SchemaMigration.Catalog.Refusal
import SchemaMigration.Catalog.Rehearsal
import SchemaMigration.Connection.Error
import SchemaMigration.Connection.Pool
import SchemaMigration.Connection.Settings
import SchemaMigration.Connection.Wire
import SchemaMigration.Decimal.Binary
import SchemaMigration.Decimal.Shortest
import SchemaMigration.Json
import SchemaMigration.Logging
import SchemaMigration.Migration.Config
import SchemaMigration.Migration.ConfigFile
import SchemaMigration.Migration.Deferred
import SchemaMigration.Migration.Error
import SchemaMigration.Migration.Inspection
import SchemaMigration.Migration.Migrator
import SchemaMigration.Migration.Operation
import SchemaMigration.Migration.Order
import SchemaMigration.Migration.Report
import SchemaMigration.Migration.Session
import SchemaMigration.Proofs.Catalog.Acceptance
import SchemaMigration.Proofs.Catalog.Growth
import SchemaMigration.Proofs.Catalog.Indexes
import SchemaMigration.Proofs.Catalog.Keyed
import SchemaMigration.Proofs.Catalog.Reader
import SchemaMigration.Proofs.Catalog.Schemas
import SchemaMigration.Proofs.Connection.Settings
import SchemaMigration.Proofs.Connection.TimeSpans
import SchemaMigration.Proofs.Connection.Values
import SchemaMigration.Proofs.Except
import SchemaMigration.Proofs.Migration.Additivity
import SchemaMigration.Proofs.Migration.ClientSide
import SchemaMigration.Proofs.Migration.ColumnAndIndexNames
import SchemaMigration.Proofs.Migration.Conforming
import SchemaMigration.Proofs.Migration.ConstraintNames
import SchemaMigration.Proofs.Migration.Convergence
import SchemaMigration.Proofs.Migration.CreatedOnce
import SchemaMigration.Proofs.Migration.Creation
import SchemaMigration.Proofs.Migration.DryRun
import SchemaMigration.Proofs.Migration.ExistenceChecks
import SchemaMigration.Proofs.Migration.FirstChange
import SchemaMigration.Proofs.Migration.Idempotence
import SchemaMigration.Proofs.Migration.JoinDiscovery
import SchemaMigration.Proofs.Migration.JoinTables
import SchemaMigration.Proofs.Migration.Lockstep
import SchemaMigration.Proofs.Migration.OnCatalog
import SchemaMigration.Proofs.Migration.OperationFailures
import SchemaMigration.Proofs.Migration.Quiet
import SchemaMigration.Proofs.Migration.Recorded
import SchemaMigration.Proofs.Migration.Replay
import SchemaMigration.Proofs.Migration.Reported
import SchemaMigration.Proofs.Migration.Returning
import SchemaMigration.Proofs.Migration.RoundTrip
import SchemaMigration.Proofs.Migration.Rounds
import SchemaMigration.Proofs.Migration.SeparateIndexes
import SchemaMigration.Proofs.Migration.SideBySide
import SchemaMigration.Proofs.Migration.Steps
import SchemaMigration.Proofs.Migration.Tasks
import SchemaMigration.Proofs.Migration.Turns
import SchemaMigration.Proofs.Migration.UnusableReferences
import SchemaMigration.Proofs.Migration.Visits
import SchemaMigration.Proofs.Order.Acyclic
import SchemaMigration.Proofs.Order.Closure
import SchemaMigration.Proofs.Order.Discovery
import SchemaMigration.Proofs.Order.Listing
import SchemaMigration.Proofs.Order.Placement
import SchemaMigration.Proofs.Order.Result
import SchemaMigration.Proofs.Order.Ties
import SchemaMigration.Proofs.Order.Topological
import SchemaMigration.Proofs.Order.Walk
import SchemaMigration.Proofs.Schema.Interchange
import SchemaMigration.Proofs.Schema.JoinTable
import SchemaMigration.Proofs.Schema.Validation
import SchemaMigration.Proofs.Sql.BoundValues
import SchemaMigration.Proofs.Sql.CreateTable
import SchemaMigration.Proofs.Sql.Identifiers
import SchemaMigration.Proofs.Sql.IndexEntries
import SchemaMigration.Proofs.Sql.Literals
import SchemaMigration.Proofs.Sql.Placeholders
import SchemaMigration.Proofs.Sql.PrimaryKey
import SchemaMigration.Proofs.Sql.Rendering
import SchemaMigration.Proofs.Text.Integer
import SchemaMigration.Proofs.Text.Percent
import SchemaMigration.Proofs.Text.Quoted
import SchemaMigration.Proofs.Text.Utf8
import SchemaMigration.Proofs.Url.Components
import SchemaMigration.Proofs.Url.Query
import SchemaMigration.Schema.Column
import SchemaMigration.Schema.Error
import SchemaMigration.Schema.Index
import SchemaMigration.Schema.Interchange
import SchemaMigration.Schema.JoinTable
import SchemaMigration.Schema.Model
import SchemaMigration.Schema.Naming
import SchemaMigration.Schema.Registry
import SchemaMigration.Schema.Relationship
import SchemaMigration.Schema.Validation
import SchemaMigration.Sql.Ansi
import SchemaMigration.Sql.CatalogQuery
import SchemaMigration.Sql.Change
import SchemaMigration.Sql.ColumnType
import SchemaMigration.Sql.Dialect
import SchemaMigration.Sql.Mysql
import SchemaMigration.Sql.Rendering
import SchemaMigration.Sql.Statement
import SchemaMigration.Sql.TablePlan
import SchemaMigration.Sql.Value
import SchemaMigration.Text.Blank
import SchemaMigration.Text.Hex
import SchemaMigration.Text.Integer
import SchemaMigration.Text.Percent
import SchemaMigration.Text.Quoted
import SchemaMigration.Text.Search
import SchemaMigration.Text.Utf8
import SchemaMigration.Toml.Settings
import SchemaMigration.Toml.Text
import SchemaMigration.Unicode.CodeRange
import SchemaMigration.Unicode.CombiningClass
import SchemaMigration.Unicode.Decomposition
import SchemaMigration.Unicode.Direction
import SchemaMigration.Unicode.Hangul
import SchemaMigration.Unicode.Joining
import SchemaMigration.Unicode.Mark
import SchemaMigration.Unicode.Normalization
import SchemaMigration.Unicode.Replacement
import SchemaMigration.Url.Basic
import SchemaMigration.Url.Domain.Basic
import SchemaMigration.Url.Domain.Label
import SchemaMigration.Url.Domain.Mapping
import SchemaMigration.Url.Domain.Punycode
import SchemaMigration.Url.Encoding
import SchemaMigration.Url.Error
import SchemaMigration.Url.Host
import SchemaMigration.Url.Ipv4
import SchemaMigration.Url.Ipv6
import SchemaMigration.Url.Path
import SchemaMigration.Url.Query
