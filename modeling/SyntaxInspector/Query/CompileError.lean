import SyntaxInspector.Text.Point

/-!
# Query errors

Why a query text cannot be used, and where. A text may be refused by the grammar's own query
compiler (`EngineError`) or by the rules for predicates.
-/

namespace SyntaxInspector

/-- What is wrong with a query. -/
inductive CompileErrorKind where
  /-- The text is not a query. -/
  | malformed
  /-- The grammar has no such node. -/
  | nodeType
  /-- The grammar has no such field. -/
  | field
  /-- A predicate names a capture that is not declared. -/
  | capture
  /-- A predicate cannot be used. -/
  | predicate
  /-- The pattern can never match. -/
  | impossible
  /-- The grammar cannot be queried. -/
  | language
  deriving DecidableEq, Inhabited

namespace CompileErrorKind

/-- The kind as people read it. -/
def text : CompileErrorKind → String
  | .malformed => "syntax"
  | .nodeType => "node type"
  | .field => "field"
  | .capture => "capture"
  | .predicate => "predicate"
  | .impossible => "structure"
  | .language => "language"

/-- The kind as one word. -/
def code : CompileErrorKind → String
  | .nodeType => "node-type"
  | kind => kind.text

/-- All kinds. -/
def all : List CompileErrorKind :=
  [.malformed, .nodeType, .field, .capture, .predicate, .impossible, .language]

/-- The kind with a given code. -/
def ofCode? (code : String) : Option CompileErrorKind := all.find? (·.code == code)

end CompileErrorKind

/-- A refusal by the grammar's query compiler. -/
structure EngineError where
  /-- What is wrong. -/
  kind : CompileErrorKind
  /-- Where it is wrong. -/
  position : Point
  /-- The name or the message that goes with it. -/
  message : String
  deriving DecidableEq, Inhabited

/-- Why a query text was refused. -/
structure CompileError where
  /-- What is wrong. -/
  kind : CompileErrorKind
  /-- Where it is wrong. -/
  position : Point
  /-- What is wrong, in words. -/
  message : String
  deriving DecidableEq, Inhabited

namespace CompileError

/-- The message for a refusal by the query compiler. -/
def engineMessage (kind : CompileErrorKind) (message : String) : String :=
  match kind with
  | .malformed => "invalid syntax"
  | .nodeType => "invalid node type " ++ message
  | .field => "invalid field name " ++ message
  | .capture => "invalid capture name " ++ message
  | .predicate => message
  | .impossible => "impossible pattern"
  | .language => message

/-- A refusal by the query compiler, put into words. -/
def ofEngine (e : EngineError) : CompileError := ⟨e.kind, e.position, engineMessage e.kind e.message⟩

/-- The whole error as one line. -/
def text (e : CompileError) : String :=
  s!"{e.kind.text} error at row {e.position.row}, column {e.position.column}: {e.message}"

end CompileError

end SyntaxInspector
