import SyntaxInspector.Command.Report
import SyntaxInspector.Command.Source

/-!
# Running commands

* `runCommand` — a whole command line, from arguments to outcome.

Each command gives what it prints, or what is written to standard error when it fails.
-/

namespace SyntaxInspector

/-- JSON as it is printed. -/
def printed (j : Json) : String := j.pretty ++ "\n"

/-- Prints a tree. -/
def runTree (e : Engine) (w : World) (args : TreeArgs) : Except String String := do
  let session ← openSession e w args.source { showAnonymous := args.raw } args.layer
  if args.json then return printed (session.rows.form reportedId)
  else return session.rows.lines (.ofBool (args.color.enabled w.terminal))

/-- The query text, from wherever it is. -/
def loadQuery (w : World) (args : QueryArgs) : Except String String := do
  let source ← match args.queryText, args.queryFile with
    | some text, _ => pure text
    | none, some path => readFile w path
    | none, none => fail "query is required: use -q/--query or --query-file"
  if (trimSpace source).isEmpty then fail "query cannot be empty" else return source

/-- Runs a query. -/
def runQueryCommand (e : Engine) (w : World) (args : QueryArgs) : Except String String := do
  let source ← loadQuery w args
  let bounds ← args.rows.mapM fun text => (parseRows text).mapError complaint
  let session ← openSession e w args.source {} args.layer
  let (session, _) := session.setShowInjectionRanges args.injectionRanges
  let session ← match session.compileQuery e source with
    | (session, .ok _) => pure session
    | (_, .error err) => fail err.message
  let session ← match bounds with
    | none => pure session
    | some _ =>
      match session.runQuery e bounds with
      | (session, .ok _) => pure session
      | (_, .error err) => fail err.message
  match args.json, session.query with
  | true, some q => return printed (queryForm session q)
  | true, none => return ""
  | false, _ => return highlightLines (.ofBool (args.color.enabled w.terminal)) session

/-- Looks up a node. -/
def runNode (e : Engine) (w : World) (args : NodeArgs) : Except String String := do
  let point ← (parsePoint args.position).mapError complaint
  let session ← openSession e w args.source { showAnonymous := args.raw } args.layer
  match session.nodeAt point with
  | .error err => fail err.message
  | .ok node =>
    let row := session.rowOf? node.id
    if args.json then return printed (nodeForm node row) else return nodeLines node row

/-- Lists layers. -/
def runLayers (e : Engine) (w : World) (args : LayersArgs) : Except String String := do
  let document ← loadDocument e w args.source
  let layers := document.snapshot.layers
  if args.json then return printed (.arr (layers.map Layer.form)) else return layerLines layers

/-- Runs a command. -/
def Invocation.run (e : Engine) (w : World) : Invocation → Except String String
  | .tree args => runTree e w args
  | .query args => runQueryCommand e w args
  | .node args => runNode e w args
  | .layers args => runLayers e w args
  | .langs => .ok (languageLines Language.all)

/-- What is printed when help is wanted. -/
def helpText : String :=
  String.join
    ["Inspect tree-sitter syntax trees and test queries against them\n\n",
     "Usage: treelens [OPTIONS] <COMMAND>\n\n",
     "Commands:\n",
     "  tree    Print the syntax tree of a source file\n",
     "  query   Run a tree-sitter query and print the highlighted ranges\n",
     "  node    Show the innermost node at a position and its tree row\n",
     "  layers  List the language layers of a source file\n",
     "  langs   List supported languages\n"]

/-- Runs a command line: exit code 0 when it succeeds, 1 when it fails, 2 when its arguments are
wrong. -/
def runCommand (e : Engine) (w : World) (args : List String) : Outcome :=
  match Invocation.parse args with
  | .error .invalid =>
    { exit := 2, stderr := "error: invalid arguments\n\nFor more information, try '--help'.\n" }
  | .error .help => { exit := 0, stdout := helpText }
  | .ok invocation =>
    match invocation.run e w with
    | .ok stdout => { exit := 0, stdout }
    | .error stderr => { exit := 1, stderr }

end SyntaxInspector
