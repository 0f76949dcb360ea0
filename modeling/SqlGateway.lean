import SqlGateway.KeyCase
import SqlGateway.Dsn.Settings
import SqlGateway.Dsn.Url
import SqlGateway.Engine
import SqlGateway.Text.Alphanumeric
import SqlGateway.Text.Pattern
import SqlGateway.Text.Printable
import SqlGateway.Number.Digits
import SqlGateway.Number.Shortest
import SqlGateway.Json.Printer
import SqlGateway.Text.Utf8
import SqlGateway.Text.Quoted
import SqlGateway.Json.Reader
import SqlGateway.Fields.Body
import SqlGateway.Template.Block
import SqlGateway.Template.Statement
import SqlGateway.Row.Cell
import SqlGateway.Http.Failure
import SqlGateway.Yaml.Scalar
import SqlGateway.Yaml.Token
import SqlGateway.Yaml.Tokens
import SqlGateway.Yaml.Node
import SqlGateway.Config.Document
import SqlGateway.Registry
import SqlGateway.Row.Cursor
import SqlGateway.Row.Marshaler
import SqlGateway.Row.Script
import SqlGateway.Row.Peeking
import SqlGateway.Time.Date
import SqlGateway.Time.Moment
import SqlGateway.Log.Stamp
import SqlGateway.Log.Directory
import SqlGateway.Log.Rotation
import SqlGateway.FileFault
import SqlGateway.Config.File
import SqlGateway.Startup.CommandLine
import SqlGateway.Text.Base64
import SqlGateway.Text.Percent
import SqlGateway.Http.RequestId
import SqlGateway.Http.Credentials
import SqlGateway.Http.Route
import SqlGateway.Number.ByteOrder
import SqlGateway.Number.Decimal
import SqlGateway.Store.Error
import SqlGateway.Store.Bound
import SqlGateway.Store.Part
import SqlGateway.Postgres.Interval
import SqlGateway.Postgres.Parameter
import SqlGateway.Postgres.ColumnType
import SqlGateway.Postgres.Numeric
import SqlGateway.Postgres.Value
import SqlGateway.Mysql.Parameter
import SqlGateway.Mysql.ColumnType
import SqlGateway.Mysql.RowBytes
import SqlGateway.Mysql.Value
import SqlGateway.Sqlite.RealText
import SqlGateway.Sqlite.Value
import SqlGateway.Sqlite.Action
import SqlGateway.Sqlite.Affinity
import SqlGateway.Sqlite.Database
import SqlGateway.Sqlite.Evaluation
import SqlGateway.Sqlite.Fault
import SqlGateway.Sqlite.Syntax
import SqlGateway.Sqlite.Token
import SqlGateway.Store.Backend
import SqlGateway.Postgres.Reply
import SqlGateway.Mysql.Reply
import SqlGateway.Store.Stores
import SqlGateway.Gateway.Start
import SqlGateway.Gateway.Call
import SqlGateway.Gateway.Exchange
import SqlGateway.Log.Filter
import SqlGateway.Log.Event
import SqlGateway.Startup.EnvFile
import SqlGateway.Startup.Usage
import SqlGateway.Startup.Report
import SqlGateway.Main
import SqlGateway.Proofs.Template.Evaluation
import SqlGateway.Proofs.Template.Layout
import SqlGateway.Proofs.Config.Accepted
import SqlGateway.Proofs.Registry.Routes
import SqlGateway.Proofs.Row.Lifetime
import SqlGateway.Proofs.Gateway.Authentication
import SqlGateway.Proofs.Registry.Index
import SqlGateway.Proofs.Gateway.Pools
import SqlGateway.Proofs.Log.Rotation
import SqlGateway.Proofs.Template.Seams
import SqlGateway.Proofs.Template.Nesting
import SqlGateway.Proofs.Config.Completion
import SqlGateway.Proofs.Log.Pruning
import SqlGateway.Proofs.Log.Failure
import SqlGateway.Proofs.Json.Members
import SqlGateway.Proofs.Row.Members
import SqlGateway.Proofs.Row.Lookahead
import SqlGateway.Proofs.Row.Casing
import SqlGateway.Proofs.Log.Retention
import SqlGateway.Proofs.Log.Volumes
import SqlGateway.Proofs.Store.Binding
import SqlGateway.Proofs.Postgres.Interval
import SqlGateway.Proofs.Postgres.IntervalReading
import SqlGateway.Proofs.Template.Places
import SqlGateway.Proofs.Json.Grammar
import SqlGateway.Proofs.Json.Tokens
import SqlGateway.Proofs.Json.Reading
import SqlGateway.Proofs.Fields.Body
import SqlGateway.Proofs.Json.Rendering
import SqlGateway.Proofs.Gateway.Identity
import SqlGateway.Proofs.Registry.Building
