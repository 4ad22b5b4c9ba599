import SyntaxInspector.Session.Basic

/-!
# Queries of a session

* `Session.compileQuery` — takes a new query text into use;
* `Session.runQuery` — runs the query again;
* `Session.clearQuery` — forgets it.

An operation that can fail gives the session afterwards in any case, beside its result.
-/

namespace SyntaxInspector

namespace Session

/-- Forgets the query and all that comes from it. -/
def clearQuery (s : Session) : Session :=
  { s with query := none, highlights := [], marks := [], status := none }

/-- The highlights of a query in a tree of the session's text, and the resolver afterwards. -/
def resolve (e : Engine) (s : Session) (q : CompiledQuery) (t : SyntaxTree)
    (bounds : Option Range) : List Highlight × Resolver :=
  resolveHighlights q t s.text s.resolver (q.execute e t s.text bounds)

/-- Runs the query on the active layer, within bounds if given; the highlights found replace the
ones before. -/
def runQuery (e : Engine) (s : Session) (bounds : Option Range) :
    Session × Except SessionError (List Highlight) :=
  match s.query with
  | none => ({ s with highlights := [] }, .ok [])
  | some q =>
    match s.activeTree? with
    | none => (s, .error (.noActiveTree s.activeLayer.id))
    | some t =>
      let (highlights, resolver) := s.resolve e q t bounds
      ({ s with highlights, resolver }, .ok highlights)

/-- Compiles a query text for the active layer's language and runs it. If the text is refused, the
query before it stays in use and the status tells why. -/
def compileQuery (e : Engine) (s : Session) (source : String) :
    Session × Except SessionError (List Highlight) :=
  match CompiledQuery.compile e s.activeLayer.language source with
  | .ok q => runQuery e { s with status := none, marks := captureMarks q, query := some q } none
  | .error err => ({ s with status := some err.text }, .error (.queryCompile err))

end Session

end SyntaxInspector
