import SyntaxInspector.Engine
import SyntaxInspector.Text.Bytes
import SyntaxInspector.Text.Quoted

/-!
# Language layers

A document has a root layer that spans it and injected layers for the parts in other languages.

* `Layer.root`, `Layer.injected` — the two kinds of layers;
* `Snapshot` — the text of a document with its layers;
* `Registry` — the layers of a snapshot, one of which is active.
-/

namespace SyntaxInspector

/-- Where a layer's text lies. -/
inductive LayerKind where
  /-- In the whole document. -/
  | root
  /-- In some ranges of it. -/
  | injected (ranges : List Range)
  deriving DecidableEq, Inhabited

/-- A language with the tree of its part of the document. -/
structure Layer where
  /-- The layer's identity. -/
  id : LayerId
  /-- The language. -/
  language : Language
  /-- The tree, if the layer has been parsed. -/
  tree : Option SyntaxTree
  /-- Where the layer's text lies. -/
  kind : LayerKind
  /-- The part of the document from its first to its last character. -/
  extent : Range

namespace Layer

/-- The root layer of a text. -/
def root (language : Language) (tree : Option SyntaxTree) (text : String) : Layer :=
  ⟨.root, language, tree, .root, extentOf text⟩

/-- From the start of the first range to the end of the last. -/
def hull (ranges : List Range) : Range :=
  match ranges.head?, ranges.getLast? with
  | some first, some last => ⟨first.start, last.stop⟩
  | _, _ => .zero

/-- An injected layer, whose ranges are in document order. -/
def injected (id : LayerId) (language : Language) (tree : Option SyntaxTree)
    (ranges : List Range) : Layer :=
  ⟨id, language, tree, .injected ranges, hull ranges⟩

/-- The name of the layer's grammar. -/
def grammar (l : Layer) : String := l.language.name

/-- Whether this is a root layer. -/
def isRoot (l : Layer) : Bool := l.kind == .root

/-- The ranges the layer's text lies in. -/
def ranges (l : Layer) : List Range :=
  match l.kind with
  | .root => [l.extent]
  | .injected ranges => ranges

/-- The layer's grammar and extent, for people. -/
def description (l : Layer) : String := l.grammar ++ " " ++ l.extent.text

end Layer

/-! ### Summaries for people -/

/-- A point spelt out. -/
def Point.summary (p : Point) : String :=
  s!"Point \x7b row: {p.row}, column: {p.column} \x7d"

/-- A range spelt out. -/
def Range.summary (r : Range) : String :=
  s!"Range \x7b start: {r.start.summary}, end: {r.stop.summary} \x7d"

namespace Layer

/-- The kind of a layer spelt out. -/
def kindSummary : LayerKind → String
  | .root => "Root"
  | .injected ranges =>
    "Injected \x7b ranges: [" ++ ", ".intercalate (ranges.map Range.summary) ++ "] \x7d"

/-- A layer spelt out. -/
def summary (l : Layer) : String :=
  "Layer \x7b id: LayerId(" ++ l.id.text ++ "), grammar: " ++ shownQuoted l.grammar ++
    ", has_tree: " ++ toString l.tree.isSome ++ ", kind: " ++ kindSummary l.kind ++ " \x7d"

end Layer

/-! ### Snapshots and registries -/

/-- The text of a document with its layers. -/
structure Snapshot where
  /-- The text. -/
  text : String
  /-- The root layer. -/
  root : Layer
  /-- The injected layers, in document order. -/
  injections : List Layer

/-- All layers of a snapshot, the root first. -/
def Snapshot.layers (s : Snapshot) : List Layer := s.root :: s.injections

/-- The layers of a document and which of them is active. -/
structure Registry where
  /-- The root layer. -/
  root : Layer
  /-- The injected layers. -/
  injections : List Layer
  /-- The id of the active layer. -/
  active : LayerId

namespace Registry

/-- The layers of a snapshot, the root being active. -/
def ofSnapshot (s : Snapshot) : Registry := ⟨s.root, s.injections, .root⟩

/-- All layers, the root first. -/
def layers (r : Registry) : List Layer := r.root :: r.injections

/-- The layer with an id. -/
def find? (r : Registry) (id : LayerId) : Option Layer := r.layers.find? (·.id == id)

/-- The active layer. -/
def activeLayer (r : Registry) : Layer := (r.find? r.active).getD r.root

/-- Takes in the layers of a new snapshot. If the active layer is not among them the root becomes
active, and the id of the layer lost is given. -/
def refresh (r : Registry) (s : Snapshot) : Registry × Option LayerId :=
  let r : Registry := ⟨s.root, s.injections, r.active⟩
  if (r.find? r.active).isSome then (r, none) else ({ r with active := .root }, some r.active)

/-- The layers with their descriptions. -/
def descriptions (r : Registry) : List (LayerId × String) :=
  r.layers.map fun l => (l.id, l.description)

end Registry

end SyntaxInspector
