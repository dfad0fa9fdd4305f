import WebCitation.Citation.Basic
import WebCitation.Citation.Record
import WebCitation.Citation.Simple
import WebCitation.Client.Citoid
import WebCitation.Client.Page
import WebCitation.Client.Status
import WebCitation.Client.Transport
import WebCitation.Client.Wiki
import WebCitation.Date.Calendar
import WebCitation.Date.Day
import WebCitation.Date.Instant
import WebCitation.Date.Locale
import WebCitation.Date.Reader
import WebCitation.Date.TimeOfDay
import WebCitation.Definition.Basic
import WebCitation.Definition.Codec
import WebCitation.Domain.Basic
import WebCitation.Domain.Name
import WebCitation.Domain.Reading
import WebCitation.Error.Config
import WebCitation.Error.Fetch
import WebCitation.Error.Reading
import WebCitation.Error.Storage
import WebCitation.Field.Basic
import WebCitation.Field.Name
import WebCitation.Html.Arena
import WebCitation.Html.Builder
import WebCitation.Html.Doctype
import WebCitation.Html.Encoding
import WebCitation.Html.Foreign
import WebCitation.Html.Formatting
import WebCitation.Html.Node
import WebCitation.Html.Page
import WebCitation.Html.Reference
import WebCitation.Html.ReferenceTable
import WebCitation.Html.Rendered
import WebCitation.Html.Rules.Body
import WebCitation.Html.Rules.Head
import WebCitation.Html.Rules.Special
import WebCitation.Html.Rules.Table
import WebCitation.Html.Token
import WebCitation.Json.Basic
import WebCitation.Json.Parser
import WebCitation.Json.Printer
import WebCitation.Json.Record
import WebCitation.Keyed
import WebCitation.Number.Double
import WebCitation.Number.Reading
import WebCitation.Number.Shortest
import WebCitation.Pattern.Basic
import WebCitation.Pattern.Glob
import WebCitation.Pattern.Path
import WebCitation.Pattern.Set
import WebCitation.Procedure
import WebCitation.Proofs.BlankValues
import WebCitation.Proofs.CatchAll
import WebCitation.Proofs.CheckedValues
import WebCitation.Proofs.Citations
import WebCitation.Proofs.CitedDates
import WebCitation.Proofs.CitoidAuthors
import WebCitation.Proofs.Codec
import WebCitation.Proofs.CollapsedText
import WebCitation.Proofs.CreatorNames
import WebCitation.Proofs.DateForm
import WebCitation.Proofs.DateNumbers
import WebCitation.Proofs.Digits
import WebCitation.Proofs.Dispatch
import WebCitation.Proofs.DotSegments
import WebCitation.Proofs.ExpressionKinds
import WebCitation.Proofs.Failures
import WebCitation.Proofs.FirstMatch
import WebCitation.Proofs.Groups
import WebCitation.Proofs.HostForm
import WebCitation.Proofs.Hostnames
import WebCitation.Proofs.Invariants
import WebCitation.Proofs.IsoDates
import WebCitation.Proofs.IsoDays
import WebCitation.Proofs.Itemwise
import WebCitation.Proofs.JsonText
import WebCitation.Proofs.KeyOrder
import WebCitation.Proofs.LetterCase
import WebCitation.Proofs.Noise
import WebCitation.Proofs.NormalForm
import WebCitation.Proofs.NormalPaths
import WebCitation.Proofs.OneFetch
import WebCitation.Proofs.PageDomains
import WebCitation.Proofs.ParsedDates
import WebCitation.Proofs.Pieces
import WebCitation.Proofs.ProcedureChain
import WebCitation.Proofs.RangeGrammar
import WebCitation.Proofs.RangeSelection
import WebCitation.Proofs.Rebuilds
import WebCitation.Proofs.Records
import WebCitation.Proofs.RenderedText
import WebCitation.Proofs.Result
import WebCitation.Proofs.SingleFlight
import WebCitation.Proofs.SplitJoin
import WebCitation.Proofs.StorageFormat
import WebCitation.Proofs.StorageTitles
import WebCitation.Proofs.StoredRules
import WebCitation.Proofs.TimeTravel
import WebCitation.Proofs.Titles
import WebCitation.Proofs.UnusedSource
import WebCitation.Proofs.WellFormed
import WebCitation.Settings
import WebCitation.Step.Range
import WebCitation.Step.Reading
import WebCitation.Step.Selection
import WebCitation.Step.Transformation
import WebCitation.Storage.Highlight
import WebCitation.Storage.History
import WebCitation.Storage.Loader
import WebCitation.Template.Basic
import WebCitation.Template.Fallback
import WebCitation.Template.Rules
import WebCitation.Text.Alphabetic
import WebCitation.Text.Ascii
import WebCitation.Text.Blank
import WebCitation.Text.Digit
import WebCitation.Text.Latest
import WebCitation.Text.Lowercase
import WebCitation.Text.Plain
import WebCitation.Text.Quoted
import WebCitation.Text.Ranges
import WebCitation.Text.Split
import WebCitation.Text.TableText
import WebCitation.Text.Utf8
import WebCitation.Text.Word
import WebCitation.Url.Basic
import WebCitation.Url.Host
import WebCitation.Url.Idna.Composition
import WebCitation.Url.Idna.CompositionTable
import WebCitation.Url.Idna.Direction
import WebCitation.Url.Idna.DirectionTable
import WebCitation.Url.Idna.Domain
import WebCitation.Url.Idna.Mapping
import WebCitation.Url.Idna.MappingTable
import WebCitation.Url.Ipv4
import WebCitation.Url.Ipv6
import WebCitation.Url.Percent
import WebCitation.Url.Punycode
import WebCitation.Url.Relative
import WebCitation.Webpage.Basic
import WebCitation.Webpage.Cache
import WebCitation.Webpage.Document
import WebCitation.Webpage.FetchedPage
import WebCitation.Webpage.Given
import WebCitation.Webpage.Lookup
import WebCitation.Webpage.Reading
import WebCitation.Webpage.Visit
import WebCitation.XPath.Axis
import WebCitation.XPath.Document
import WebCitation.XPath.Evaluation
import WebCitation.XPath.Expr
import WebCitation.XPath.Function
import WebCitation.XPath.Name
import WebCitation.XPath.Parser
import WebCitation.XPath.Selection
import WebCitation.XPath.Token
import WebCitation.XPath.Value
