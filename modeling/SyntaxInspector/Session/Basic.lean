import SyntaxInspector.Event
import SyntaxInspector.Highlight
import SyntaxInspector.Layer.Document
import SyntaxInspector.Locate
import SyntaxInspector.Render.Job

/-!
# Inspection sessions

A session holds all that is derived from the active layer of one document: the rendered rows, the
query with its highlights, the node under the cursor, and the marks of injected ranges. This module
has the state and its errors; the operations are in the modules beside it.

* `Session` — the state;
* `SessionError` — why an operation fails;
* `Session.start` — a session on a snapshot.
-/

namespace SyntaxInspector

/-! ### Errors -/

/-- What a failed search was looking for. -/
inductive Lookup where
  /-- The row at an index. -/
  | row (index : Nat)
  /-- The node with an id. -/
  | node (id : NodeId)
  /-- The node at a point. -/
  | position (p : Point)
  deriving DecidableEq

/-- The failed search in words. -/
def Lookup.text : Lookup → String
  | .row index => s!"no row {index}"
  | .node id => s!"no node with id {id.text}"
  | .position p => s!"no node at {p.text}"

/-- Why an operation fails. -/
inductive SessionError where
  /-- The query text was refused. -/
  | queryCompile (e : CompileError)
  /-- There is no such layer. -/
  | layerNotFound (id : LayerId)
  /-- The layer has not been parsed. -/
  | noActiveTree (id : LayerId)
  /-- The search found nothing. -/
  | nodeNotFound (l : Lookup)
  /-- The text could not be parsed. -/
  | parse (e : ParseError)
  /-- The pattern of an injection point is malformed. -/
  | invalidPattern (pattern message : String)
  /-- No language has the name. -/
  | unknownLanguage (name : String)
  deriving DecidableEq

/-- The error in words. -/
def SessionError.message : SessionError → String
  | .queryCompile e => e.text
  | .layerNotFound id => s!"layer {id.text} not found"
  | .noActiveTree id => s!"layer {id.text} has no syntax tree yet"
  | .nodeNotFound l => s!"node not found: {l.text}"
  | .parse e => e.message
  | .invalidPattern pattern message => s!"invalid injection pattern '{pattern}': {message}"
  | .unknownLanguage name => s!"unknown language: '{name}'"

/-- The error of a description that cannot be built. -/
def SessionError.ofDescription : DescriptionError → SessionError
  | .unknownLanguage name => .unknownLanguage name
  | .parse e => .parse e

/-- The language with a given name. -/
def Language.require (name : String) : Except SessionError Language :=
  match Language.ofName? name with
  | some language => .ok language
  | none => .error (.unknownLanguage name)

/-- An injection point, perhaps with a regular expression for its nodes' text. -/
def InjectionPoint.make (kind : String) (language : Language) (pattern : Option String)
    (compile : RegexCompiler := Pattern.library) : Except SessionError InjectionPoint :=
  match pattern with
  | none => .ok ⟨kind, language, none⟩
  | some text =>
    match compile text with
    | .ok regex => .ok ⟨kind, language, some regex⟩
    | .error message => .error (.invalidPattern text message)

/-! ### State -/

/-- How a session behaves. -/
structure SessionOptions where
  /-- Whether anonymous nodes have rows. -/
  showAnonymous : Bool := false
  /-- Whether the ranges of an injected layer are marked. -/
  showInjectionRanges : Bool := false
  /-- The length of a render slice. -/
  yieldInterval : Interval := .standard
  deriving DecidableEq, Inhabited

/-- The options for rendering. -/
def SessionOptions.render (o : SessionOptions) : RenderOptions :=
  ⟨o.showAnonymous, o.yieldInterval⟩

/-- The state of a session. -/
structure Session where
  /-- The layers. -/
  registry : Registry
  /-- The text of the document. -/
  text : String
  /-- The options. -/
  options : SessionOptions
  /-- The counter of render passes. -/
  counter : Counter := {}
  /-- The rows of the last render taken over. -/
  rows : RowSequence := {}
  /-- The pass of the render in progress. -/
  inFlight : Option Nat := none
  /-- The query in use. -/
  query : Option CompiledQuery := none
  /-- Its highlights. -/
  highlights : List Highlight := []
  /-- Where its text names captures. -/
  marks : List CaptureMark := []
  /-- Marks of the active layer's ranges. -/
  overlay : List Mark := []
  /-- The message of the last query refused. -/
  status : Option String := none
  /-- Where the host's cursor was last. -/
  selection : Option Range := none
  /-- The node under the cursor. -/
  activeNode : Option NodeInfo := none
  /-- The row of that node. -/
  highlightedRow : Option Nat := none
  /-- A selection handed to the host, whose echo is to be ignored. -/
  pendingEcho : Option Range := none
  /-- The claims of the query run in progress. -/
  resolver : Resolver := {}
  /-- Subscribers and events. -/
  events : Emitter := {}

namespace Session

/-- The active layer. -/
def activeLayer (s : Session) : Layer := s.registry.activeLayer

/-- The tree of the active layer, if it has one. -/
def activeTree? (s : Session) : Option SyntaxTree := s.activeLayer.tree

/-- Whether a render is in progress. -/
def isRendering (s : Session) : Bool := s.inFlight.isSome

/-- The row that shows the node with an id. -/
def rowOf? (s : Session) (id : NodeId) : Option Nat := s.rows.rowOf? id

/-- Tells subscribers of an event. -/
def emit (s : Session) (event : Event) : Session := { s with events := s.events.emit event }

/-- Injected ranges are not marked while the root layer is active. -/
def hideOverlayAtRoot (s : Session) : Session :=
  if s.registry.active.isRoot then
    { s with options := { s.options with showInjectionRanges := false } }
  else s

/-- Marks the ranges of the active layer anew. -/
def refreshOverlay (s : Session) : Session :=
  let layer := s.activeLayer
  { s with
    overlay :=
      if s.options.showInjectionRanges && !layer.isRoot then
        layer.ranges.map (⟨·, .injection⟩)
      else [] }

/-- A session on a snapshot, with its root layer active. -/
def start (snapshot : Snapshot) (options : SessionOptions) : Session :=
  hideOverlayAtRoot { registry := .ofSnapshot snapshot, text := snapshot.text, options }

end Session

end SyntaxInspector
