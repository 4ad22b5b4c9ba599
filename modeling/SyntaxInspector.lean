import SyntaxInspector.Command.Arguments
import SyntaxInspector.Command.Invocation
import SyntaxInspector.Command.Report
import SyntaxInspector.Command.Run
import SyntaxInspector.Command.Source
import SyntaxInspector.Command.World
import SyntaxInspector.Engine
import SyntaxInspector.Event
import SyntaxInspector.Highlight
import SyntaxInspector.Json.Basic
import SyntaxInspector.Json.Forms
import SyntaxInspector.Json.Options
import SyntaxInspector.Language.Basic
import SyntaxInspector.Language.Suggestion
import SyntaxInspector.Layer.Basic
import SyntaxInspector.Layer.Document
import SyntaxInspector.Layer.Injection
import SyntaxInspector.Locate
import SyntaxInspector.Main
import SyntaxInspector.Pattern.Basic
import SyntaxInspector.Pattern.Boundary
import SyntaxInspector.Pattern.CharSet
import SyntaxInspector.Pattern.Library
import SyntaxInspector.Pattern.Normal
import SyntaxInspector.Pattern.Notation.Bracket
import SyntaxInspector.Pattern.Notation.Escape
import SyntaxInspector.Pattern.Notation.Flags
import SyntaxInspector.Pattern.Notation.Group
import SyntaxInspector.Pattern.Notation.Repetition
import SyntaxInspector.Pattern.Parser
import SyntaxInspector.Pattern.Program
import SyntaxInspector.Pattern.Search
import SyntaxInspector.Pattern.Table.CaseFold
import SyntaxInspector.Pattern.Table.Decimal
import SyntaxInspector.Pattern.Table.Word
import SyntaxInspector.Query.CompileError
import SyntaxInspector.Query.Compiled
import SyntaxInspector.Query.Descriptor
import SyntaxInspector.Query.Rules
import SyntaxInspector.Regex
import SyntaxInspector.Render.Generation
import SyntaxInspector.Render.Job
import SyntaxInspector.Render.Palette
import SyntaxInspector.Render.Pool
import SyntaxInspector.Render.Reference
import SyntaxInspector.Render.Row
import SyntaxInspector.Scope.Resolver
import SyntaxInspector.Scope.Span
import SyntaxInspector.Session.Basic
import SyntaxInspector.Session.Host
import SyntaxInspector.Session.Position
import SyntaxInspector.Session.Query
import SyntaxInspector.Session.Render
import SyntaxInspector.Text.Bytes
import SyntaxInspector.Text.CharClass
import SyntaxInspector.Text.CodeRange
import SyntaxInspector.Text.Numeral
import SyntaxInspector.Text.Point
import SyntaxInspector.Text.Quoted
import SyntaxInspector.Text.Split
import SyntaxInspector.Text.Table.Alphabetic
import SyntaxInspector.Text.Table.Grapheme
import SyntaxInspector.Text.Table.Lowercase
import SyntaxInspector.Text.Table.Numeric
import SyntaxInspector.Text.Table.Space
import SyntaxInspector.Text.Table.Unprintable
import SyntaxInspector.Tree.Cursor
import SyntaxInspector.Tree.Node
import SyntaxInspector.Tree.NodeId
import SyntaxInspector.Tree.SyntaxTree
import SyntaxInspector.Proofs.Render.Slices
import SyntaxInspector.Proofs.Session.Currency
import SyntaxInspector.Proofs.Session.Linearization
import SyntaxInspector.Proofs.Render.Interleaving
import SyntaxInspector.Proofs.Render.Clicks
import SyntaxInspector.Proofs.Session.Turns
import SyntaxInspector.Proofs.Session.Highlights
import SyntaxInspector.Proofs.Session.Refreshing
import SyntaxInspector.Proofs.Session.Selection
import SyntaxInspector.Proofs.Layer.Identity
import SyntaxInspector.Proofs.Session.ActiveRow
import SyntaxInspector.Proofs.Session.Grammars
import SyntaxInspector.Proofs.Session.Log
import SyntaxInspector.Proofs.Session.Overlay
import SyntaxInspector.Proofs.Session.Echoes
import SyntaxInspector.Proofs.Session.Failures
import SyntaxInspector.Proofs.Scope.History
import SyntaxInspector.Proofs.Scope.Pipeline
import SyntaxInspector.Proofs.Tree.Nesting
import SyntaxInspector.Proofs.Tree.Enclosing
import SyntaxInspector.Proofs.Render.Landing
import SyntaxInspector.Proofs.Tree.Walking
import SyntaxInspector.Proofs.Layer.Coverage
import SyntaxInspector.Proofs.Text.Boundaries
import SyntaxInspector.Proofs.Scope.Coherence
import SyntaxInspector.Proofs.Query.Descriptors
import SyntaxInspector.Proofs.Query.Marks
import SyntaxInspector.Proofs.Query.Predicates
import SyntaxInspector.Proofs.Query.Overlaps
import SyntaxInspector.Proofs.Tree.Ancestry
import SyntaxInspector.Proofs.Render.Depths
import SyntaxInspector.Proofs.Render.SliceCount
import SyntaxInspector.Proofs.Session.ActiveNode
import SyntaxInspector.Proofs.Text.Splitting
import SyntaxInspector.Proofs.Text.Offsets
import SyntaxInspector.Proofs.Text.Lines
import SyntaxInspector.Proofs.Query.Bounds
import SyntaxInspector.Proofs.Command.Snippets
import SyntaxInspector.Proofs.Scope.Shifts
import SyntaxInspector.Proofs.Language.Distance
import SyntaxInspector.Proofs.Language.Suggestions
import SyntaxInspector.Proofs.Session.Delivery
import SyntaxInspector.Proofs.Tree.Descendants
import SyntaxInspector.Proofs.Query.NodeTests
import SyntaxInspector.Proofs.Scope.Shifts
