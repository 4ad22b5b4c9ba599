import SyntaxInspector.Json.Forms

/-!
# Reports

What the commands print. Node ids mean nothing outside a session, so reports print 0 for them.

* `snippet` — the part of a text that a range covers, on one line;
* `highlightLines`, `nodeLines`, `layerLines`, `languageLines` — reports for people;
* `queryForm`, `nodeForm` — reports as JSON.
-/

namespace SyntaxInspector

/-- The form of node ids in reports. -/
def reportedId (_ : NodeId) : Json := .nat 0

/-- Longest snippet, in characters. -/
def snippetLength : Nat := 40

/-- The covered part of the first line of a range, shortened. An ellipsis marks what is left out,
on that line or on later ones. -/
def snippet (text : String) (r : Range) : String :=
  match (lines text)[r.start.row]? with
  | none => ""
  | some line =>
    let length := byteLength line.toList
    let last := if r.stop.row = r.start.row then min r.stop.column length else length
    match sliceChars? line.toList (min r.start.column last) last with
    | none => ""
    | some piece =>
      if snippetLength < piece.length || r.start.row < r.stop.row then
        String.ofList (piece.take snippetLength) ++ "…"
      else String.ofList piece

/-- One line for a highlight. -/
def highlightLine (p : Palette) (text : String) (h : Highlight) : String :=
  h.category.text ++ " " ++ p.blue ++ "@" ++ h.captureName ++ p.reset ++ " " ++ p.dim ++
    h.range.text ++ p.reset ++ " " ++ shownQuoted (snippet text h.range) ++ "\n"

/-- One line for a marked range. -/
def markLine (p : Palette) (m : Mark) : String :=
  m.category.text ++ " " ++ p.dim ++ "injection " ++ m.range.text ++ p.reset ++ "\n"

/-- The highlights of a session and the marked ranges of its layer. -/
def highlightLines (p : Palette) (s : Session) : String :=
  String.join (s.highlights.map (highlightLine p s.text)) ++
    String.join (s.overlay.map (markLine p))

/-- A session's query with its highlights. -/
def queryForm (s : Session) (q : CompiledQuery) : Json :=
  .obj [("grammar", .str q.grammar), ("captures", .arr (q.captureNames.map .str)),
    ("highlights", .arr (s.highlights.map (Highlight.form reportedId))),
    ("injection_ranges", .arr (s.overlay.map Mark.form))]

/-- A node and its row. -/
def nodeLines (n : NodeInfo) (row : Option Nat) : String :=
  let kind := if n.named then n.kind else shownQuoted n.kind
  let missing := if n.missing then " MISSING" else ""
  let row := match row with
    | some index => s!"row {index}"
    | none => "not rendered"
  kind ++ missing ++ " " ++ n.range.text ++ "\n  id 0, " ++ row ++ "\n"

/-- A node and its row, as JSON with sorted keys. -/
def nodeForm (n : NodeInfo) (row : Option Nat) : Json :=
  (Json.obj [("node", n.form reportedId), ("row", .option .nat row)]).sortKeys

/-- One line for a layer. -/
def layerLine (l : Layer) : String :=
  l.id.text ++ ": " ++ l.description ++ (if l.tree.isNone then " (unparsed)" else "") ++ "\n"

/-- One line for each layer. -/
def layerLines (layers : List Layer) : String := String.join (layers.map layerLine)

/-- One line for a language and its other names. -/
def languageLine (l : Language) : String :=
  match l.otherNames with
  | [] => s!"  {l.name}\n"
  | names => s!"  {l.name} (" ++ ", ".intercalate names ++ ")\n"

/-- The number of languages and one line for each. -/
def languageLines (languages : List Language) : String :=
  s!"Supported languages ({languages.length}):\n" ++ String.join (languages.map languageLine)

end SyntaxInspector
