import RequestGate.Text.Utf8
import RequestGate.Text.Pieces
import RequestGate.Text.Percent
import RequestGate.Text.Urlencoded
import RequestGate.Binary64.Basic
import RequestGate.Binary64.Decimal
import RequestGate.Numeral
import RequestGate.Fields
import RequestGate.Json.Basic
import RequestGate.Json.Token
import RequestGate.Json.Reader
import RequestGate.Json.Printer
import RequestGate.Json.Pointer
import RequestGate.Unicode.CaseTable
import RequestGate.Text.Case
import RequestGate.Text.Blank
import RequestGate.Yaml.Cursor
import RequestGate.Yaml.Scalar
import RequestGate.Verb
import RequestGate.Json.Record
import RequestGate.Description.Basic
import RequestGate.Description.Reader
import RequestGate.Description.Printer
import RequestGate.Description.Reference
import RequestGate.Rule.Basic
import RequestGate.Rule.Table
import RequestGate.Route.Template
import RequestGate.Route.Index
import RequestGate.Compiled
import RequestGate.Validation.Coercion
import RequestGate.Validation.Failure
import RequestGate.Unicode.Ranges
import RequestGate.Unicode.CategoryTable
import RequestGate.Unicode.ScriptTable
import RequestGate.Unicode.PropertyTable
import RequestGate.Unicode.Property
import RequestGate.Unicode.Folding
import RequestGate.Unicode.Digit
import RequestGate.Pattern.CharSet
import RequestGate.Pattern.Basic
import RequestGate.Pattern.Escape
import RequestGate.Pattern.Bracket
import RequestGate.Pattern.Reader
import RequestGate.Url.Address
import RequestGate.Url.Punycode
import RequestGate.Url.DomainTable
import RequestGate.Url.Domain
import RequestGate.Url.Basic
import RequestGate.Validation.Format
import RequestGate.Validation.Checker
import RequestGate.Gate.Basic
import RequestGate.Yaml.Token
import RequestGate.Yaml.Event
import RequestGate.Text.Debug
import RequestGate.Yaml.Node
import RequestGate.Yaml.Value
import RequestGate.Description.Source
import RequestGate.Gate.Startup
import RequestGate.Validation.Scripted
import RequestGate.Http.Target
import RequestGate.Http.Message
import RequestGate.Http.Bag
import RequestGate.Http.PathPattern
import RequestGate.Http.Router
import RequestGate.Http.Admission
import RequestGate.Http.Server
import RequestGate.Http.Forwarding
import RequestGate.Http.Echo
import RequestGate.Gate.Counters
import RequestGate.Toml.Value
import RequestGate.Toml.Scalar
import RequestGate.Toml.Reader
import RequestGate.Config.Basic
import RequestGate.Config.Reader
import RequestGate.Config.Address
import RequestGate.Config.Validation
import RequestGate.Shutdown
import RequestGate.CommandLine.Arguments
import RequestGate.CommandLine.Help
import RequestGate.CommandLine.Run
import RequestGate.Main
import RequestGate.Proofs.Compilation
import RequestGate.Proofs.Accounting
import RequestGate.Proofs.ServerCounts
import RequestGate.Proofs.DocumentOrder
import RequestGate.Proofs.RoundTrip
import RequestGate.Proofs.Admission
import RequestGate.Proofs.Binding
import RequestGate.Proofs.Bypass
import RequestGate.Proofs.Calls
import RequestGate.Proofs.Precedence
import RequestGate.Proofs.Truncation
import RequestGate.Proofs.Coverage
import RequestGate.Proofs.Binary64Value
import RequestGate.Proofs.Conversion
import RequestGate.Proofs.Matching
import RequestGate.Proofs.TextFormats
import RequestGate.Proofs.PathParameters
import RequestGate.Proofs.Expansion
import RequestGate.Proofs.ExpansionRun
import RequestGate.Proofs.ReferenceFaults
import RequestGate.Proofs.CircularReferences
import RequestGate.Proofs.MissingFields
import RequestGate.Proofs.Irrelevance
import RequestGate.Proofs.Bounds
import RequestGate.Proofs.IntegerCoercion
import RequestGate.Proofs.ArrayItems
import RequestGate.Proofs.RepeatedKeys
import RequestGate.Proofs.GreatestMatch
import RequestGate.Proofs.PathVariants
import RequestGate.Proofs.IntegerSpellings
import RequestGate.Proofs.DateForms
import RequestGate.Proofs.MailAddresses
import RequestGate.Proofs.UppercaseLiterals
import RequestGate.Proofs.PathBuilding
import RequestGate.Proofs.PatternCache
import RequestGate.Proofs.CanonicalReferences
import RequestGate.Proofs.Grouping
import RequestGate.Proofs.MalformedParameters
import RequestGate.Proofs.RuleOptions
import RequestGate.Proofs.RelatedDescriptions
import RequestGate.Proofs.Requiredness
import RequestGate.Proofs.FlatRules
import RequestGate.Proofs.DistinctNames
import RequestGate.Proofs.RouteConflicts
import RequestGate.Proofs.ConfigOverrides
import RequestGate.Proofs.HeaderCase
import RequestGate.Proofs.RequestIds
import RequestGate.Proofs.ShortNumerals
