import SourceEditor.CommandLine.Run
import SourceEditor.Main
import SourceEditor.Proofs.Buffer.Calls
import SourceEditor.Proofs.Buffer.Annotation
import SourceEditor.Proofs.Buffer.Points
import SourceEditor.Proofs.Buffer.Splice
import SourceEditor.Proofs.Search.Bounds
import SourceEditor.Proofs.Search.Replacing
import SourceEditor.Proofs.Document.Calls
import SourceEditor.Proofs.Document.Groups
import SourceEditor.Proofs.Document.Timeline
import SourceEditor.Proofs.Pattern.Context
import SourceEditor.Proofs.Search.Context
import SourceEditor.Proofs.Search.Lines
import SourceEditor.Proofs.Search.Places
import SourceEditor.Proofs.Search.ReplaceAll
import SourceEditor.Proofs.Search.Consuming
import SourceEditor.Proofs.Text.Character
import SourceEditor.Proofs.Lexis.Registration
import SourceEditor.Proofs.Lexis.Quotes
import SourceEditor.Proofs.Lexis.Tokens
import SourceEditor.Proofs.Lexis.Order
import SourceEditor.Proofs.Indent.Views
import SourceEditor.Proofs.Indent.Quoted
import SourceEditor.Proofs.Indent.Blanks
import SourceEditor.Proofs.Document.Reindent
import SourceEditor.Proofs.Indent.Plain
import SourceEditor.Proofs.Indent.Macros
import SourceEditor.Proofs.Indent.Code
import SourceEditor.Proofs.Indent.Partners
import SourceEditor.Proofs.Indent.Continuation
import SourceEditor.Proofs.Indent.Rows
import SourceEditor.Proofs.Indent.Expected
import SourceEditor.Proofs.Indent.Program
import SourceEditor.Proofs.Indent.Headers
import SourceEditor.Proofs.Json.Pieces
import SourceEditor.Proofs.Json.Rows
import SourceEditor.Proofs.Json.Lines
import SourceEditor.Proofs.Json.Expected
import SourceEditor.Proofs.Json.Printed
import SourceEditor.Proofs.Json.Reindent
import SourceEditor.Proofs.Document.Canonical
import SourceEditor.Proofs.Buffer.Identity
import SourceEditor.Proofs.Buffer.Index
import SourceEditor.Proofs.Buffer.Events
import SourceEditor.Proofs.Document.Refused
import SourceEditor.Proofs.Listing.Rows
import SourceEditor.Proofs.Listing.Buffers
import SourceEditor.Proofs.Search.Refusal
import SourceEditor.Proofs.Document.Indentation
import SourceEditor.Proofs.Document.Identities
import SourceEditor.Proofs.Pattern.Literal
import SourceEditor.Proofs.Search.Literal
import SourceEditor.Proofs.Search.Occurrences
import SourceEditor.Proofs.Search.Substitution
import SourceEditor.Proofs.Pattern.Steps
import SourceEditor.Proofs.Pattern.Pruning
import SourceEditor.Proofs.Search.Stepping
import SourceEditor.Proofs.Search.Wrapping
import SourceEditor.Proofs.Search.Cuts
import SourceEditor.Proofs.Search.Selection
import SourceEditor.Proofs.Search.Captures
import SourceEditor.Proofs.Search.Singly
import SourceEditor.Proofs.History.Closing
import SourceEditor.Proofs.Document.Saving
import SourceEditor.Proofs.History.Recency
import SourceEditor.Proofs.Document.Typing
import SourceEditor.Proofs.Text.Encoding
import SourceEditor.Proofs.Text.Misread
import SourceEditor.Proofs.Buffer.Decoding
import SourceEditor.Proofs.Buffer.Offsets
import SourceEditor.Proofs.Listing.LookUp
import SourceEditor.Proofs.CommandLine.InPlace
import SourceEditor.Proofs.Indent.Stack
import SourceEditor.Proofs.Lexis.Spans
import SourceEditor.Proofs.Listing.Spans
import SourceEditor.Proofs.History.Capacity
import SourceEditor.Proofs.Indent.Widths
