import Stencil.Decimal.Binary
import Stencil.Decimal.Layout
import Stencil.Decimal.Places
import Stencil.Decimal.Shortest
import Stencil.Expr.Field
import Stencil.Expr.Lexer
import Stencil.Expr.Number
import Stencil.Expr.Parser
import Stencil.Expr.Quotation
import Stencil.Expr.Syntax
import Stencil.Expr.Token
import Stencil.Filter.Registry
import Stencil.Filter.Standard
import Stencil.Journal.Compilation
import Stencil.Journal.Logging
import Stencil.Journal.Record
import Stencil.Journal.Rotation
import Stencil.Journal.Store
import Stencil.Proofs.Expr.Calls
import Stencil.Proofs.Expr.Contents
import Stencil.Proofs.Expr.Displays
import Stencil.Proofs.Expr.Enclosing
import Stencil.Proofs.Expr.Endings
import Stencil.Proofs.Expr.Expressions
import Stencil.Proofs.Expr.Fields
import Stencil.Proofs.Expr.Iterations
import Stencil.Proofs.Expr.Lexemes
import Stencil.Proofs.Expr.Locality
import Stencil.Proofs.Expr.Nesting
import Stencil.Proofs.Expr.Numerals
import Stencil.Proofs.Expr.Operands
import Stencil.Proofs.Expr.Operators
import Stencil.Proofs.Expr.Phrase
import Stencil.Proofs.Expr.Primaries
import Stencil.Proofs.Expr.Quoting
import Stencil.Proofs.Expr.Reading
import Stencil.Proofs.Expr.Sums
import Stencil.Proofs.Journal.Backups
import Stencil.Proofs.Journal.Files
import Stencil.Proofs.Journal.Routing
import Stencil.Proofs.Journal.Sinks
import Stencil.Proofs.Template.Acceptance
import Stencil.Proofs.Template.Application
import Stencil.Proofs.Template.Coincidence
import Stencil.Proofs.Template.Compilation
import Stencil.Proofs.Template.Composition
import Stencil.Proofs.Template.Concatenation
import Stencil.Proofs.Template.Congruence
import Stencil.Proofs.Template.Detection
import Stencil.Proofs.Template.Factorization
import Stencil.Proofs.Template.Folding
import Stencil.Proofs.Template.Independence
import Stencil.Proofs.Template.Insertion
import Stencil.Proofs.Template.Joining
import Stencil.Proofs.Template.Leftmost
import Stencil.Proofs.Template.Literals
import Stencil.Proofs.Template.Lowering
import Stencil.Proofs.Template.Masking
import Stencil.Proofs.Template.Observation
import Stencil.Proofs.Template.Placeholders
import Stencil.Proofs.Template.Prefixes
import Stencil.Proofs.Template.Qualification
import Stencil.Proofs.Template.Recombination
import Stencil.Proofs.Template.Resolution
import Stencil.Proofs.Template.RoundTrip
import Stencil.Proofs.Template.Sandbox
import Stencil.Proofs.Template.Scripts
import Stencil.Proofs.Template.Segments
import Stencil.Proofs.Template.Shielding
import Stencil.Proofs.Template.Simulation
import Stencil.Proofs.Template.Single
import Stencil.Proofs.Template.Trace
import Stencil.Proofs.Template.Unwrapping
import Stencil.Proofs.Template.Wrapping
import Stencil.Proofs.Text.Margins
import Stencil.Settings.Dialect
import Stencil.Settings.Document
import Stencil.Settings.Scalar
import Stencil.Template.Admission
import Stencil.Template.Compile
import Stencil.Template.Dialect
import Stencil.Template.Emission
import Stencil.Template.Evaluation
import Stencil.Template.Margin
import Stencil.Template.Piece
import Stencil.Template.Pipeline
import Stencil.Template.Rejection
import Stencil.Template.Scope
import Stencil.Template.Scoping
import Stencil.Template.Source
import Stencil.Template.Tree
import Stencil.Text.Basic
import Stencil.Text.Blank
import Stencil.Text.Case
import Stencil.Text.Case.Spans
import Stencil.Text.Compose
import Stencil.Text.Compose.Spans
import Stencil.Text.Encoding
import Stencil.Text.Encoding.Pages
import Stencil.Text.Identifier
import Stencil.Text.Identifier.Spans
import Stencil.Text.Printable
import Stencil.Text.Printable.Spans
import Stencil.Text.Quoted
import Stencil.Text.Run
import Stencil.Text.Search
import Stencil.Text.Word
import Stencil.Text.Word.Spans
import Stencil.Value.Arguments
import Stencil.Value.Basic
import Stencil.Value.Collection
import Stencil.Value.Equality
import Stencil.Value.Format
import Stencil.Value.Hash
import Stencil.Value.Identity
import Stencil.Value.Integer
import Stencil.Value.Json
import Stencil.Value.Member
import Stencil.Value.Method.Basic
import Stencil.Value.Method.Bytes
import Stencil.Value.Method.Container
import Stencil.Value.Method.Encoding
import Stencil.Value.Method.Exchange
import Stencil.Value.Method.Number
import Stencil.Value.Method.Set
import Stencil.Value.Method.Text
import Stencil.Value.Number
import Stencil.Value.Operator
import Stencil.Value.Subscript
import Stencil.Value.Table
import Stencil.Value.Written
import Stencil.Proofs.Template.Overruns
import Stencil.Proofs.Journal.Failures
import Stencil.Proofs.Filter.Registration
import Stencil.Proofs.Filter.Sessions
import Stencil.Proofs.Filter.Usability
