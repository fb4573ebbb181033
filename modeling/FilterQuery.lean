import FilterQuery.Calendar
import FilterQuery.Catalog
import FilterQuery.Command.Arguments
import FilterQuery.Command.Startup
import FilterQuery.Compile
import FilterQuery.Domain.Direction
import FilterQuery.Domain.Joiner
import FilterQuery.Domain.Mapping
import FilterQuery.Domain.Name
import FilterQuery.Engine.Basic
import FilterQuery.Engine.Remote
import FilterQuery.Engine.Wire
import FilterQuery.Error
import FilterQuery.Expression.Basic
import FilterQuery.Expression.Transport
import FilterQuery.Field.Basic
import FilterQuery.Field.Lookup
import FilterQuery.Http.MediaType
import FilterQuery.Http.Route
import FilterQuery.Http.Service
import FilterQuery.Index
import FilterQuery.Json.Basic
import FilterQuery.Json.Printer
import FilterQuery.Json.Record
import FilterQuery.Json.Token
import FilterQuery.Json.Written
import FilterQuery.Listing
import FilterQuery.Literal.Basic
import FilterQuery.Literal.Encoding
import FilterQuery.Main
import FilterQuery.Mapping
import FilterQuery.Number.Decimal
import FilterQuery.Number.Exact
import FilterQuery.Number.Layout
import FilterQuery.Number.Numeral
import FilterQuery.Number.Shortest
import FilterQuery.Operator
import FilterQuery.Proofs.Accounting
import FilterQuery.Proofs.Addressing
import FilterQuery.Proofs.Alias
import FilterQuery.Proofs.Clauses
import FilterQuery.Proofs.Coercion
import FilterQuery.Proofs.Confinement
import FilterQuery.Proofs.Correspondence
import FilterQuery.Proofs.Dates
import FilterQuery.Proofs.Distinctness
import FilterQuery.Proofs.Duality
import FilterQuery.Proofs.Escapes
import FilterQuery.Proofs.ExactValue
import FilterQuery.Proofs.FieldNames
import FilterQuery.Proofs.Finiteness
import FilterQuery.Proofs.FixedIndex
import FilterQuery.Proofs.Law
import FilterQuery.Proofs.Leaves
import FilterQuery.Proofs.Literals
import FilterQuery.Proofs.Lookup
import FilterQuery.Proofs.Meaning
import FilterQuery.Proofs.Membership
import FilterQuery.Proofs.Memo
import FilterQuery.Proofs.Nearest
import FilterQuery.Proofs.Nesting
import FilterQuery.Proofs.Nulls
import FilterQuery.Proofs.Paths
import FilterQuery.Proofs.Preorder
import FilterQuery.Proofs.Printing
import FilterQuery.Proofs.Reading
import FilterQuery.Proofs.Recovery
import FilterQuery.Proofs.Refusals
import FilterQuery.Proofs.RoundTrip
import FilterQuery.Proofs.Session
import FilterQuery.Proofs.Settings
import FilterQuery.Proofs.Sharing
import FilterQuery.Proofs.SingleFlight
import FilterQuery.Proofs.Startup
import FilterQuery.Proofs.Steadiness
import FilterQuery.Proofs.Transparency
import FilterQuery.Proofs.Traversal
import FilterQuery.Proofs.Truncation
import FilterQuery.Proofs.WholeNumbers
import FilterQuery.Proofs.Wildcards
import FilterQuery.Query.Basic
import FilterQuery.Query.Fragment
import FilterQuery.Query.Pattern
import FilterQuery.Registry
import FilterQuery.Schema
import FilterQuery.Settings.Config
import FilterQuery.Settings.Limits
import FilterQuery.Settings.Sections
import FilterQuery.Text.Basic
import FilterQuery.Text.CodeSet
import FilterQuery.Text.Composition
import FilterQuery.Text.Printable
import FilterQuery.Text.Punycode
import FilterQuery.Text.Utf8
import FilterQuery.Url.Basic
import FilterQuery.Url.Host
import FilterQuery.Url.Ipv4
import FilterQuery.Url.Ipv6
import FilterQuery.Url.Path
import FilterQuery.Url.Percent
import FilterQuery.Url.Reader
import FilterQuery.Validator
