import SyntaxInspector.Command.Invocation
import SyntaxInspector.Command.World
import SyntaxInspector.Language.Suggestion
import SyntaxInspector.Session.Render

/-!
# Loading what a command inspects

* `loadDocument` — the source with its injected layers;
* `openSession` — a session on it, rendered;
* `parsePoint`, `parseRows`, `parseInjection` — small notations of the command line.

A step that fails gives what is written to standard error.
-/

namespace SyntaxInspector

/-- A failure with one line about it. -/
def complaint (message : String) : String := s!"error: {message}\n"

/-- Fails with one line. -/
def fail {α : Type} (message : String) : Except String α := .error (complaint message)

/-! ### Notations -/

/-- Reads `ROW:COL`. -/
def parsePoint (text : String) : Except String Point :=
  let point? := do
    let (row, column) ← splitOnce? ":" text
    return (⟨← readWord? (trimSpace row), ← readWord? (trimSpace column)⟩ : Point)
  match point? with
  | some p => .ok p
  | none => .error s!"invalid position '{text}', expected ROW:COL"

/-- Reads `START..END`, which must be in order. -/
def parseRows (text : String) : Except String Range :=
  let rows? := do
    let (first, last) ← splitOnce? ".." text
    let first ← readWord? (trimSpace first)
    let last ← readWord? (trimSpace last)
    if last < first then none else return Range.rows first last
  match rows? with
  | some r => .ok r
  | none => .error s!"invalid row range '{text}', expected START..END"

/-- Reads `KIND=LANG` or `KIND=LANG:REGEX`. -/
def parseInjection (compile : RegexCompiler) (spec : String) : Except String InjectionPoint :=
  match splitOnce? "=" spec with
  | none => .error s!"invalid injection '{spec}', expected KIND=LANG[:REGEX]"
  | some (kind, rule) =>
    if kind.isEmpty then .error s!"invalid injection '{spec}', node kind is empty"
    else
      let (name, pattern) := match splitOnce? ":" rule with
        | some (name, pattern) => (name, some pattern)
        | none => (rule, none)
      Except.mapError SessionError.message do
        InjectionPoint.make kind (← Language.require name) pattern compile

/-! ### Source and language -/

/-- The text of a file. -/
def readFile (w : World) (path : String) : Except String String :=
  (w.read path).mapError fun e => complaint s!"failed to read '{path}': {e.message}"

/-- The source text, from wherever it is. -/
def loadSource (w : World) (args : SourceArgs) : Except String String :=
  match args.text, args.path with
  | some text, _ => .ok text
  | none, none => fail "source required (positional SOURCE or -s/--source)"
  | none, some path =>
    if path == "-" then w.stdin.mapError fun e => complaint s!"failed to read stdin: {e.message}"
    else readFile w path

/-- The language with a given name, or else perhaps a suggestion. -/
def requireLanguage (name : String) : Except String Language :=
  match Language.ofName? name with
  | some language => .ok language
  | none =>
    let suggestion := match Language.suggest? name with
      | some s => s!"\nDid you mean '{s}'?\n"
      | none => ""
    .error (complaint (SessionError.unknownLanguage name).message ++ suggestion ++
      "\nRun 'treelens langs' for the full list.\n")

/-- The language of the source: the one named, or the one of the file's extension. -/
def resolveLanguage (args : SourceArgs) : Except String Language :=
  match args.language with
  | some name => requireLanguage name
  | none =>
    match (args.path.filter (· != "-")).bind pathExtension? with
    | none => fail "-l/--lang is required (cannot infer from input)"
    | some extension =>
      match Language.ofExtension? extension with
      | some language => .ok language
      | none => fail s!"cannot infer language from extension '.{extension}', use -l/--lang"

/-! ### Documents and sessions -/

/-- The source, parsed with its injections. -/
def loadDocument (e : Engine) (w : World) (args : SourceArgs) : Except String Document := do
  let text ← loadSource w args
  let language ← resolveLanguage args
  let points ← args.inject.mapM fun spec => (parseInjection e.regex spec).mapError complaint
  let blank : Document := { language, points }
  (blank.setText e 0 text).1.mapError fun err => complaint err.message

/-- A session on the source, with the layer chosen and rendered. -/
def openSession (e : Engine) (w : World) (args : SourceArgs) (options : SessionOptions)
    (layer : Option Nat) : Except String Session := do
  let document ← loadDocument e w args
  let start := Session.start document.snapshot options
  let session ← match layer with
    | none => pure start
    | some id =>
      match start.setActiveLayer ⟨id⟩ with
      | (session, .ok _) => pure session
      | (_, .error err) => .error (complaint err.message ++
          "\nhint: run 'treelens layers' with the same arguments to list layers\n")
  match session.update e with
  | (session, .ok _) => return session
  | (_, .error err) => fail err.message

end SyntaxInspector
