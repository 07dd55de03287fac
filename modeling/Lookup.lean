import Lookup.Command.Answer
import Lookup.Command.Builtin
import Lookup.Command.Form
import Lookup.Command.Line
import Lookup.Command.Request
import Lookup.Command.Run
import Lookup.Command.Site
import Lookup.Command.Toolkit
import Lookup.Command.Words
import Lookup.Datum
import Lookup.Error.Advice
import Lookup.Error.Basic
import Lookup.Files.Archive
import Lookup.Files.Errno
import Lookup.Files.Inflate
import Lookup.Files.Path
import Lookup.Files.Tree
import Lookup.Files.Zip
import Lookup.Json
import Lookup.Log
import Lookup.Main
import Lookup.Number.Binary
import Lookup.Number.Decimal
import Lookup.Number.Loose
import Lookup.Number.Shortest
import Lookup.Placeholder
import Lookup.Proofs.Command.Builtin
import Lookup.Proofs.Command.Document
import Lookup.Proofs.Command.Escape
import Lookup.Proofs.Command.Layering
import Lookup.Proofs.Command.Listing
import Lookup.Proofs.Command.Query
import Lookup.Proofs.Command.Report
import Lookup.Proofs.Except
import Lookup.Proofs.Files.Archive
import Lookup.Proofs.Files.Descent
import Lookup.Proofs.Files.Layout
import Lookup.Proofs.Files.Leaves
import Lookup.Proofs.Files.Lexical
import Lookup.Proofs.Files.Limits
import Lookup.Proofs.Files.Listing
import Lookup.Proofs.Files.MemberName
import Lookup.Proofs.Files.Multiplicity
import Lookup.Proofs.Files.Node
import Lookup.Proofs.Files.Path
import Lookup.Proofs.Files.Reach
import Lookup.Proofs.Files.Resolve
import Lookup.Proofs.Files.Traversal
import Lookup.Proofs.Files.Walk
import Lookup.Proofs.Json.Decoder
import Lookup.Proofs.Json.Escaped
import Lookup.Proofs.Json.Grammar
import Lookup.Proofs.Json.Numeral
import Lookup.Proofs.Json.Token
import Lookup.Proofs.Json.Written
import Lookup.Proofs.Number.Decimal
import Lookup.Proofs.Number.Interchange
import Lookup.Proofs.Number.Loose
import Lookup.Proofs.Number.Narrowing
import Lookup.Proofs.Number.Nearest
import Lookup.Proofs.Number.Numeral
import Lookup.Proofs.Number.Rounding
import Lookup.Proofs.Number.Shortest
import Lookup.Proofs.Placeholder
import Lookup.Proofs.Property.Budget
import Lookup.Proofs.Property.Evaluation
import Lookup.Proofs.Property.Guards
import Lookup.Proofs.Property.Joined
import Lookup.Proofs.Property.Locality
import Lookup.Proofs.Property.Loop
import Lookup.Proofs.Property.Origin
import Lookup.Proofs.Property.Store
import Lookup.Proofs.Resource.Agreement
import Lookup.Proofs.Resource.Canonical
import Lookup.Proofs.Resource.Concatenation
import Lookup.Proofs.Resource.Confinement
import Lookup.Proofs.Resource.Distinct
import Lookup.Proofs.Resource.Fault
import Lookup.Proofs.Resource.FirstMatch
import Lookup.Proofs.Resource.Holder
import Lookup.Proofs.Resource.Location
import Lookup.Proofs.Resource.ModuleName
import Lookup.Proofs.Resource.Mount
import Lookup.Proofs.Resource.Name
import Lookup.Proofs.Resource.Package
import Lookup.Proofs.Resource.ReadBack
import Lookup.Proofs.Resource.ResourceName
import Lookup.Proofs.Resource.Rooted
import Lookup.Proofs.Resource.Scan
import Lookup.Proofs.Resource.Walk
import Lookup.Proofs.Settings.Advice
import Lookup.Proofs.Settings.Flatten
import Lookup.Proofs.Settings.Leaf
import Lookup.Proofs.Settings.Load
import Lookup.Proofs.Settings.Search
import Lookup.Proofs.Settings.Unfolding
import Lookup.Proofs.Table
import Lookup.Proofs.Table.Printer
import Lookup.Proofs.Table.ReadBack
import Lookup.Proofs.Text.Case
import Lookup.Proofs.Text.Fields
import Lookup.Proofs.Text.Mention
import Lookup.Proofs.Text.Order
import Lookup.Proofs.Text.Terminal
import Lookup.Proofs.Text.Token
import Lookup.Proofs.Text.Utf8
import Lookup.Proofs.Time.Calendar
import Lookup.Proofs.Time.CalendarText
import Lookup.Proofs.Time.Duration
import Lookup.Proofs.Time.DurationText
import Lookup.Proofs.Time.Instant
import Lookup.Proofs.Time.IsoDuration
import Lookup.Proofs.Time.Offset
import Lookup.Proofs.Time.OffsetFields
import Lookup.Proofs.Uri.Percent
import Lookup.Proofs.Uri.Read
import Lookup.Proofs.Value.Convert
import Lookup.Proofs.Value.Float
import Lookup.Proofs.Value.Integer
import Lookup.Proofs.Value.Key
import Lookup.Proofs.Value.Registry
import Lookup.Property.Resolve
import Lookup.Property.Resolver
import Lookup.Property.Store
import Lookup.Resource.Basic
import Lookup.Resource.Mount
import Lookup.Resource.Read
import Lookup.Resource.Scan
import Lookup.Resource.SearchPath
import Lookup.Settings.Document
import Lookup.Settings.Flatten
import Lookup.Settings.Load
import Lookup.Table
import Lookup.Text.Base64
import Lookup.Text.Basic
import Lookup.Text.Blank
import Lookup.Text.Case
import Lookup.Text.CaseTable
import Lookup.Text.Encoding
import Lookup.Text.Hex
import Lookup.Text.Identifier
import Lookup.Text.Likeness
import Lookup.Text.Lines
import Lookup.Text.Printable
import Lookup.Text.Quoted
import Lookup.Text.Ranges
import Lookup.Text.Terminal
import Lookup.Time.Almanac
import Lookup.Time.Calendar
import Lookup.Time.Duration
import Lookup.Time.Iso
import Lookup.Time.Zone
import Lookup.Time.ZoneDatabase
import Lookup.Uri.Address
import Lookup.Uri.Basic
import Lookup.Uri.Percent
import Lookup.Value.Basic
import Lookup.Value.Convert
import Lookup.Value.Reason
import Lookup.Value.Tag
import Lookup.World
import Lookup.Yaml.Data
import Lookup.Yaml.Lexer
import Lookup.Yaml.Node
import Lookup.Yaml.NodeType
import Lookup.Yaml.Placed
import Lookup.Yaml.ScalarText
import Lookup.Yaml.Stamp
import Lookup.Yaml.Token
