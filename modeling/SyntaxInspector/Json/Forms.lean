import SyntaxInspector.Json.Basic
import SyntaxInspector.Session.Basic

/-!
# JSON forms

How the values of a session are written as JSON. Where a value has a node id, the form of the id is
given.
-/

namespace SyntaxInspector

/-- A node id as a number, or as text if it is not a plain one. -/
def NodeId.form : NodeId → Json
  | .plain n => .nat n
  | id => .str id.text

/-- A point. -/
def Point.form (p : Point) : Json := .obj [("row", .nat p.row), ("column", .nat p.column)]

/-- A range. -/
def Range.form (r : Range) : Json := .obj [("start", r.start.form), ("end", r.stop.form)]

/-- A label: its sort and the kind of node. -/
def Label.form : Label → Json
  | .named kind => .obj [("kind", .str "named"), ("type", .str kind)]
  | .anonymous kind => .obj [("kind", .str "anonymous"), ("type", .str kind)]
  | .missing kind => .obj [("kind", .str "missing"), ("type", .str kind)]

/-- A row; its field is left out if there is none. -/
def Row.form (idForm : NodeId → Json) (r : Row) : Json :=
  .obj ([("depth", .nat r.depth)] ++ (r.field.map fun f => ("field_name", .str f)).toList ++
    [("label", r.label.form), ("range", r.range.form), ("node_id", idForm r.id)])

/-- All rows. -/
def RowSequence.form (idForm : NodeId → Json) (s : RowSequence) : Json :=
  .arr (s.rows.map (Row.form idForm))

/-- A node's description. -/
def NodeInfo.form (idForm : NodeId → Json) (n : NodeInfo) : Json :=
  .obj [("id", idForm n.id), ("kind", .str n.kind), ("is_named", .bool n.named),
    ("is_missing", .bool n.missing), ("range", n.range.form)]

/-- A category. -/
def Category.form (c : Category) : Json := .nat c.number

/-- A highlight. -/
def Highlight.form (idForm : NodeId → Json) (h : Highlight) : Json :=
  .obj [("range", h.range.form), ("category", h.category.form),
    ("capture_name", .str h.captureName), ("node_id", idForm h.nodeId)]

/-- A mark. -/
def Mark.form (m : Mark) : Json :=
  .obj [("range", m.range.form), ("category", m.category.form)]

/-- A layer. -/
def Layer.form (l : Layer) : Json :=
  .obj [("id", .nat l.id.number), ("grammar", .str l.grammar), ("extent", l.extent.form),
    ("ranges", .arr (l.ranges.map Range.form)), ("parsed", .bool l.tree.isSome)]

/-- An event. -/
def Event.form : Event → Json
  | .activeLayerChanged previous current fellBack =>
    .obj [("event", .str "active-layer-changed"), ("previous", .nat previous.number),
      ("current", .nat current.number), ("fell_back", .bool fellBack)]
  | .renderComplete generation rows =>
    .obj [("event", .str "render-complete"), ("generation", .nat generation), ("rows", .nat rows)]

/-- What a failed search was looking for. -/
def Lookup.form (idForm : NodeId → Json) : Lookup → Json
  | .row index => .obj [("Row", .nat index)]
  | .node id => .obj [("Id", idForm id)]
  | .position p => .obj [("Position", p.form)]

end SyntaxInspector
