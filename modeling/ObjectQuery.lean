import ObjectQuery.Data.SortedMap
import ObjectQuery.Failure
import ObjectQuery.Identity
import ObjectQuery.Json.Basic
import ObjectQuery.Json.Canonical
import ObjectQuery.Json.Reader
import ObjectQuery.Json.Record
import ObjectQuery.Json.Writer
import ObjectQuery.Model.AttributeType
import ObjectQuery.Model.Basic
import ObjectQuery.Model.ClassType
import ObjectQuery.Model.Field
import ObjectQuery.Model.Json
import ObjectQuery.Model.Lookup
import ObjectQuery.Model.Naming
import ObjectQuery.Number.Binary64
import ObjectQuery.Number.Shortest
import ObjectQuery.Paging.Generator
import ObjectQuery.Paging.OffsetCache
import ObjectQuery.Platform
import ObjectQuery.Query.Basic
import ObjectQuery.Query.Expr
import ObjectQuery.Query.Operator
import ObjectQuery.Settings.Basic
import ObjectQuery.Settings.Document
import ObjectQuery.Settings.Environment
import ObjectQuery.Sql.Compilation
import ObjectQuery.Sql.Projection
import ObjectQuery.Sql.Relationship
import ObjectQuery.Sql.Scope
import ObjectQuery.Sql.Statement
import ObjectQuery.Text.Blank
import ObjectQuery.Text.Case
import ObjectQuery.Text.CaseTable
import ObjectQuery.Time.Calendar
import ObjectQuery.Time.Text
import ObjectQuery.Toml.Basic
import ObjectQuery.Toml.Document
import ObjectQuery.Toml.Json
import ObjectQuery.Toml.Token
import ObjectQuery.Trace
import ObjectQuery.Value
import ObjectQuery.Value.Json
import ObjectQuery.Proofs.Paging.OffsetCache
import ObjectQuery.Proofs.Paging.Session
import ObjectQuery.Proofs.Except
import ObjectQuery.Proofs.Model.Accepted
import ObjectQuery.Proofs.Paging.Rows
import ObjectQuery.Proofs.Sql.Sources
import ObjectQuery.Proofs.Paging.Seek
import ObjectQuery.Proofs.Sql.Grammar
import ObjectQuery.Proofs.Sql.Tokens
import ObjectQuery.Proofs.Sql.Meaning
import ObjectQuery.Proofs.Sql.WhereClause
import ObjectQuery.Proofs.Query.Levels
import ObjectQuery.Proofs.Sql.Entering
import ObjectQuery.Proofs.Sql.Tests
import ObjectQuery.Proofs.Sql.Scoping
import ObjectQuery.Proofs.Sql.Evaluation
import ObjectQuery.Proofs.Query.Aliases
import ObjectQuery.Proofs.Sql.FromClause
import ObjectQuery.Proofs.Sql.Links
import ObjectQuery.Proofs.Sql.Selection
import ObjectQuery.Proofs.Model.Fields
import ObjectQuery.Proofs.Model.Inheritance
import ObjectQuery.Proofs.Model.ByName
import ObjectQuery.Proofs.Model.Declarations
import ObjectQuery.Proofs.Query.WellBuilt
import ObjectQuery.Proofs.Sql.Resolution
import ObjectQuery.Proofs.Sql.Failures
import ObjectQuery.Proofs.Sql.FieldTables
import ObjectQuery.Proofs.Model.Cycles
import ObjectQuery.Proofs.Model.Consistency
import ObjectQuery.Proofs.StringLiteral
import ObjectQuery.Proofs.Sql.BothEnds
import ObjectQuery.Proofs.Query.Renaming
import ObjectQuery.Proofs.Sql.TwoRuns
import ObjectQuery.Proofs.Paging.Aggregates
import ObjectQuery.Proofs.Paging.Identities
import ObjectQuery.Proofs.Sql.Dialects
import ObjectQuery.Proofs.Sql.Exports
import ObjectQuery.Proofs.Model.Assignability
import ObjectQuery.Proofs.Sql.SortColumns
import ObjectQuery.Proofs.Json.Tokens
import ObjectQuery.Proofs.Json.Documents
import ObjectQuery.Proofs.Json.Records
import ObjectQuery.Proofs.Model.Descriptions
import ObjectQuery.Proofs.Time.Text
import ObjectQuery.Proofs.Value.Json
import ObjectQuery.Proofs.Sql.SortKeys
import ObjectQuery.Proofs.Query.ItemAliases
import ObjectQuery.Proofs.Sql.DerivedColumns
import ObjectQuery.Proofs.Text.ByteOrder
import ObjectQuery.Proofs.Sql.Bags
import ObjectQuery.Proofs.Sql.Phrases
import ObjectQuery.Proofs.Sql.ExpressionText
import ObjectQuery.Proofs.Paging.Growth
import ObjectQuery.Proofs.Paging.Requests
import ObjectQuery.Proofs.Query.SelectedAliases
import ObjectQuery.Proofs.Model.Overrides
import ObjectQuery.Proofs.Text.Case
import ObjectQuery.Proofs.Model.Naming
import ObjectQuery.Proofs.Sql.LinkColumns
import ObjectQuery.Proofs.Sql.ForeignKeys
import ObjectQuery.Proofs.Sql.IdentityColumns
import ObjectQuery.Proofs.Time.Calendar
import ObjectQuery.Proofs.Sql.TimeLiterals
import ObjectQuery.Proofs.Model.FieldOrder
import ObjectQuery.Proofs.Toml.Values
import ObjectQuery.Proofs.Text.LowerCase
import ObjectQuery.Proofs.Settings.Documents
import ObjectQuery.Proofs.Settings.Layers
