import CompletionGateway.CommandLine.Arguments
import CompletionGateway.CommandLine.Help
import CompletionGateway.CommandLine.Log
import CompletionGateway.CommandLine.Run
import CompletionGateway.CommandLine.Setting
import CompletionGateway.Completion.Basic
import CompletionGateway.Compression.Bits
import CompletionGateway.Compression.Checksum
import CompletionGateway.Compression.Code
import CompletionGateway.Compression.Deflate
import CompletionGateway.Compression.Envelope
import CompletionGateway.Diagnostic.Basic
import CompletionGateway.Diagnostic.Note
import CompletionGateway.Diagnostic.Report
import CompletionGateway.Dict
import CompletionGateway.EventStream.Event
import CompletionGateway.EventStream.Frame
import CompletionGateway.EventStream.Payload
import CompletionGateway.EventStream.Relay
import CompletionGateway.EventStream.Subscription
import CompletionGateway.Execution.Registry
import CompletionGateway.Execution.Request
import CompletionGateway.Execution.Response
import CompletionGateway.Execution.Run
import CompletionGateway.Execution.Variables
import CompletionGateway.Gateway.Coding
import CompletionGateway.Gateway.Config
import CompletionGateway.Gateway.CrossOrigin
import CompletionGateway.Gateway.Fields
import CompletionGateway.Gateway.Http
import CompletionGateway.Gateway.MediaType
import CompletionGateway.Gateway.Service
import CompletionGateway.Json.Basic
import CompletionGateway.Json.Draft
import CompletionGateway.Json.Reading
import CompletionGateway.Json.Record
import CompletionGateway.Json.Writing
import CompletionGateway.Main
import CompletionGateway.Number.Binary64
import CompletionGateway.Number.Decimal
import CompletionGateway.Number.Rounding
import CompletionGateway.Number.Shortest
import CompletionGateway.Operation.Basic
import CompletionGateway.Operation.Document
import CompletionGateway.Operation.Reading
import CompletionGateway.Operation.Value
import CompletionGateway.Operation.ValueRule
import CompletionGateway.Proofs.Completion.Layers
import CompletionGateway.Proofs.Completion.Paths
import CompletionGateway.Proofs.Diagnostic.Quotation
import CompletionGateway.Proofs.EventStream.BlankLine
import CompletionGateway.Proofs.EventStream.Chunking
import CompletionGateway.Proofs.EventStream.FrameLines
import CompletionGateway.Proofs.EventStream.Framing
import CompletionGateway.Proofs.EventStream.LineDecoder
import CompletionGateway.Proofs.EventStream.Refinement
import CompletionGateway.Proofs.Execution.Substitution
import CompletionGateway.Proofs.Execution.Trace
import CompletionGateway.Proofs.Json.Compact
import CompletionGateway.Proofs.Json.Literal
import CompletionGateway.Proofs.Json.Numeral
import CompletionGateway.Proofs.Json.StringLiteral
import CompletionGateway.Proofs.Number.Digits
import CompletionGateway.Proofs.Number.Rank
import CompletionGateway.Proofs.Number.Shortest
import CompletionGateway.Proofs.Number.Value
import CompletionGateway.Proofs.Operation.Alike
import CompletionGateway.Proofs.Operation.Answer
import CompletionGateway.Proofs.Operation.Apart
import CompletionGateway.Proofs.Operation.ArgumentReading
import CompletionGateway.Proofs.Operation.BareValue
import CompletionGateway.Proofs.Operation.Blind
import CompletionGateway.Proofs.Operation.Bookkeeping
import CompletionGateway.Proofs.Operation.Brackets
import CompletionGateway.Proofs.Operation.Closure
import CompletionGateway.Proofs.Operation.DocumentSite
import CompletionGateway.Proofs.Operation.Enclosing
import CompletionGateway.Proofs.Operation.EndMark
import CompletionGateway.Proofs.Operation.Ending
import CompletionGateway.Proofs.Operation.Form
import CompletionGateway.Proofs.Operation.Fragment
import CompletionGateway.Proofs.Operation.Grammar
import CompletionGateway.Proofs.Operation.History
import CompletionGateway.Proofs.Operation.JsonConversion
import CompletionGateway.Proofs.Operation.Level
import CompletionGateway.Proofs.Operation.Limit
import CompletionGateway.Proofs.Operation.LiteralFault
import CompletionGateway.Proofs.Operation.LiteralReading
import CompletionGateway.Proofs.Operation.Meets
import CompletionGateway.Proofs.Operation.Nesting
import CompletionGateway.Proofs.Operation.OperationTaking
import CompletionGateway.Proofs.Operation.Outline
import CompletionGateway.Proofs.Operation.Parallel
import CompletionGateway.Proofs.Operation.PieceReading
import CompletionGateway.Proofs.Operation.Places
import CompletionGateway.Proofs.Operation.Recording
import CompletionGateway.Proofs.Operation.Rendering
import CompletionGateway.Proofs.Operation.RoundTrip
import CompletionGateway.Proofs.Operation.Site
import CompletionGateway.Proofs.Operation.Soundness
import CompletionGateway.Proofs.Operation.Spelling
import CompletionGateway.Proofs.Operation.Step
import CompletionGateway.Proofs.Operation.StringArgument
import CompletionGateway.Proofs.Operation.TokensAlone
import CompletionGateway.Proofs.Operation.Trailing
import CompletionGateway.Proofs.Operation.Trivia
import CompletionGateway.Proofs.Operation.ValueAlike
import CompletionGateway.Proofs.Operation.ValueParallel
import CompletionGateway.Proofs.Operation.ValueReading
import CompletionGateway.Proofs.Operation.ValueSite
import CompletionGateway.Proofs.Operation.ValueStart
import CompletionGateway.Proofs.Operation.ValueTaking
import CompletionGateway.Proofs.Text.Decoding
import CompletionGateway.Proofs.Text.Encoding
import CompletionGateway.Proofs.Text.EndedLine
import CompletionGateway.Proofs.Text.LineEnd
import CompletionGateway.Proofs.Text.Offset
import CompletionGateway.Proofs.Token.Alike
import CompletionGateway.Proofs.Token.BareText
import CompletionGateway.Proofs.Token.Buffering
import CompletionGateway.Proofs.Token.Indentation
import CompletionGateway.Proofs.Token.LiteralShape
import CompletionGateway.Proofs.Token.Lookahead
import CompletionGateway.Proofs.Token.NumeralForm
import CompletionGateway.Proofs.Token.Origin
import CompletionGateway.Proofs.Token.Passing
import CompletionGateway.Proofs.Token.Placement
import CompletionGateway.Proofs.Token.Printing
import CompletionGateway.Proofs.Token.Prolongation
import CompletionGateway.Proofs.Token.Respacing
import CompletionGateway.Proofs.Token.Spacing
import CompletionGateway.Proofs.Token.StringForm
import CompletionGateway.Proofs.Token.Tiling
import CompletionGateway.Proofs.Token.Word
import CompletionGateway.Provider.Basic
import CompletionGateway.Provider.Client
import CompletionGateway.Text.Blank
import CompletionGateway.Text.CodeRange
import CompletionGateway.Text.Hex
import CompletionGateway.Text.Line
import CompletionGateway.Text.Position
import CompletionGateway.Text.Printable
import CompletionGateway.Text.Quoted
import CompletionGateway.Text.Slice
import CompletionGateway.Text.Split
import CompletionGateway.Text.Utf8
import CompletionGateway.Token.Basic
import CompletionGateway.Token.Buffer
import CompletionGateway.Token.Lexeme
import CompletionGateway.Token.Lexing
import CompletionGateway.Token.Literal
import CompletionGateway.Token.Passing
import CompletionGateway.Token.Stream
import CompletionGateway.Url.Address
import CompletionGateway.Url.Authority
import CompletionGateway.Url.Basic
import CompletionGateway.Url.Host
import CompletionGateway.Url.Name.Ascii
import CompletionGateway.Url.Name.Composition
import CompletionGateway.Url.Name.Direction
import CompletionGateway.Url.Name.Joiner
import CompletionGateway.Url.Name.Mapping
import CompletionGateway.Url.Name.Mark
import CompletionGateway.Url.Path
import CompletionGateway.Url.Percent
import CompletionGateway.Url.Punycode
import CompletionGateway.Url.Scheme
