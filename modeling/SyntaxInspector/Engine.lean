import SyntaxInspector.Language.Basic
import SyntaxInspector.Pattern.Library
import SyntaxInspector.Query.CompileError
import SyntaxInspector.Tree.SyntaxTree

/-!
# The parsing engine

Parsing, query matching and regular expressions are left to an engine outside this library, which is
known only by what it answers.

* `Engine` — the answers: trees, compiled queries, captures, regular expressions;
* `Engine.parse` — a parse, checked and numbered.

Every tree gets the next number of a count that is handed on from parse to parse, so no two trees
share a number or a node id.
-/

namespace SyntaxInspector

/-- A parse result: the nodes in pre-order, and the detours of the parser's navigation. -/
structure ParsedNodes where
  /-- The nodes with their depths. -/
  entries : List Node.Entry
  /-- Steps with a result of their own. -/
  detours : List Detour

/-- Why there is no tree. -/
inductive ParseError where
  /-- The grammar cannot be used. -/
  | incompatible (language message : String)
  /-- The span with this index overlaps the one before it or ends before it starts. -/
  | invalidRanges (language : String) (index : Nat)
  /-- The parser gave nothing. -/
  | noTree (language : String)
  deriving DecidableEq

/-- The error in words. -/
def ParseError.message : ParseError → String
  | .incompatible language message => s!"grammar '{language}' cannot be loaded: {message}"
  | .invalidRanges language index =>
    s!"invalid included ranges for '{language}': Incorrect range by index: {index}"
  | .noTree language => s!"parser produced no tree for '{language}'"

/-- A property of a query pattern: `key`, perhaps with a value, perhaps for one capture only. -/
structure Property where
  /-- What is tested or set. -/
  key : String
  /-- The value given. -/
  value : Option String
  /-- The capture it is for, by index; all captures if `none`. -/
  capture : Option Nat
  deriving DecidableEq, Inhabited

/-- A pattern of a query as the engine reports it. -/
structure RawPattern where
  /-- Byte offset of the pattern in the query text. -/
  start : Nat
  /-- Operators of predicates unknown to the engine. -/
  general : List String
  /-- Properties tested, and whether they are expected to hold. -/
  tests : List (Property × Bool)
  /-- Properties set. -/
  settings : List Property
  deriving DecidableEq, Inhabited

/-- A query as the engine reports it. -/
structure RawQuery where
  /-- Declared capture names. -/
  captures : List String
  /-- The patterns, in order. -/
  patterns : List RawPattern
  deriving DecidableEq, Inhabited

/-- A captured node as the engine reports it. -/
structure RawCapture where
  /-- Index of the pattern. -/
  pattern : Nat
  /-- Index of the capture name. -/
  capture : Nat
  /-- Pre-order index of the node. -/
  node : Nat
  deriving DecidableEq, Inhabited

/-- What a query runs on: a tree, and the text that its predicates look at. -/
structure Subject extends SyntaxTree where
  /-- The text. -/
  text : String

/-- The index of the first span that overlaps the one before it or ends before it starts: what a
parser refuses. -/
def firstBadSpan? (previousEnd index : Nat) : List ByteSpan → Option Nat
  | [] => none
  | (a, b) :: spans =>
    if a < previousEnd ∨ b < a then some index else firstBadSpan? b (index + 1) spans

/-- What the engine answers. A parse is asked for with the number its tree is to have; no spans
stand for the whole text. -/
structure Engine where
  /-- The nodes of a text, or of some spans of it. -/
  nodes : Nat → Language → String → List ByteSpan → Except ParseError ParsedNodes
  /-- A query text compiled for a language. -/
  compile : Language → String → Except EngineError RawQuery
  /-- The captures of a query (grammar and text) in a subject, within bounds. -/
  captures : String → String → Subject → Range → List RawCapture
  /-- The index of the first of some spans that a parse refuses. -/
  badSpan? : List ByteSpan → Option Nat := firstBadSpan? 0 0
  /-- What compiles regular expressions: the patterns of this library, unless the engine has its
  own. -/
  regex : RegexCompiler := Pattern.library

/-- Parses a text, or some spans of it, as tree number `next`. Gives the next free number too. -/
def Engine.parse (e : Engine) (next : Nat) (language : Language) (text : String)
    (included : List ByteSpan) : Except ParseError SyntaxTree × Nat :=
  match e.badSpan? included with
  | some i => (.error (.invalidRanges language.name i), next)
  | none =>
    match e.nodes next language text included with
    | .error err => (.error err, next)
    | .ok parsed =>
      match SyntaxTree.ofEntries next parsed.entries parsed.detours with
      | some tree => (.ok tree, next + 1)
      | none => (.error (.noTree language.name), next)

/-- An engine without any grammar. -/
def Engine.none : Engine where
  nodes _ language _ _ := .error (.noTree language.name)
  compile _ _ := .error ⟨.language, .zero, "no grammar"⟩
  captures _ _ _ _ := []

end SyntaxInspector
