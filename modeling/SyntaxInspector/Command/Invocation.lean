import SyntaxInspector.Command.Arguments
import SyntaxInspector.Text.Numeral

/-!
# Invocations

What the command line asks for: one of five commands with its settings.

* `Invocation` — the commands;
* `Invocation.parse` — reads the whole command line.
-/

namespace SyntaxInspector

/-- When to use colours. -/
inductive ColorChoice where
  /-- On a terminal only. -/
  | auto
  /-- Always. -/
  | always
  /-- Never. -/
  | never
  deriving DecidableEq

/-- Whether colours are used, given whether the output is a terminal. -/
def ColorChoice.enabled (terminal : Bool) : ColorChoice → Bool
  | .auto => terminal
  | .always => true
  | .never => false

/-- Where the source comes from and how it is read. -/
structure SourceArgs where
  /-- Name of the source file; a hyphen for standard input. -/
  path : Option String
  /-- The source itself. -/
  text : Option String
  /-- Name of the language. -/
  language : Option String
  /-- Descriptions of injection points. -/
  inject : List String

/-- The settings of the command that prints a tree. -/
structure TreeArgs where
  /-- The source. -/
  source : SourceArgs
  /-- The layer to print. -/
  layer : Option Nat
  /-- Whether anonymous nodes are printed. -/
  raw : Bool
  /-- When to use colours. -/
  color : ColorChoice
  /-- Whether to print JSON. -/
  json : Bool

/-- The settings of the command that runs a query. -/
structure QueryArgs where
  /-- The source. -/
  source : SourceArgs
  /-- The query itself. -/
  queryText : Option String
  /-- Name of the query file. -/
  queryFile : Option String
  /-- Rows to restrict the query to. -/
  rows : Option String
  /-- The layer to query. -/
  layer : Option Nat
  /-- Whether the ranges of the layer are printed. -/
  injectionRanges : Bool
  /-- When to use colours. -/
  color : ColorChoice
  /-- Whether to print JSON. -/
  json : Bool

/-- The settings of the command that looks up a node. -/
structure NodeArgs where
  /-- The source. -/
  source : SourceArgs
  /-- The position. -/
  position : String
  /-- The layer to look in. -/
  layer : Option Nat
  /-- Whether anonymous nodes count. -/
  raw : Bool
  /-- Whether to print JSON. -/
  json : Bool

/-- The settings of the command that lists layers. -/
structure LayersArgs where
  /-- The source. -/
  source : SourceArgs
  /-- Whether to print JSON. -/
  json : Bool

/-- A command with its settings. -/
inductive Invocation where
  /-- Print a tree. -/
  | tree (args : TreeArgs)
  /-- Run a query. -/
  | query (args : QueryArgs)
  /-- Look up a node. -/
  | node (args : NodeArgs)
  /-- List layers. -/
  | layers (args : LayersArgs)
  /-- List languages. -/
  | langs

namespace Invocation

/-! ### Options -/

/-- How much is logged. -/
def verboseOption : OptionSpec := { long := "verbose", short := some 'v', kind := .count }

/-- The layer to inspect. -/
def layerOption : OptionSpec :=
  { long := "layer", kind := .single, accepts := fun s => (readWord? s).isSome }

/-- When to use colours. -/
def colorOption : OptionSpec :=
  { long := "color", kind := .single, accepts := ["auto", "always", "never"].contains }

/-- An option without a value. -/
def flagOption (long : String) : OptionSpec := { long, kind := .flag }

/-- Options about the source. -/
def sourceOptions : List OptionSpec :=
  [{ long := "source", short := some 's', kind := .single },
   { long := "lang", short := some 'l', kind := .single },
   { long := "inject", kind := .many },
   verboseOption]

/-- Options of the command that prints a tree. -/
def treeOptions : List OptionSpec :=
  [layerOption, flagOption "raw", colorOption, flagOption "json"] ++ sourceOptions

/-- Options of the command that runs a query. -/
def queryOptions : List OptionSpec :=
  [{ long := "query", short := some 'q', kind := .single },
   { long := "query-file", kind := .single, accepts := (!·.isEmpty) },
   { long := "rows", kind := .single },
   layerOption, flagOption "injection-ranges", colorOption, flagOption "json"] ++ sourceOptions

/-- Options of the command that looks up a node. -/
def nodeOptions : List OptionSpec :=
  [{ long := "at", kind := .single }, layerOption, flagOption "raw", flagOption "json"] ++
    sourceOptions

/-- Options of the command that lists layers. -/
def layersOptions : List OptionSpec := flagOption "json" :: sourceOptions

/-! ### Settings -/

/-- The source: a file or a text but not both, and at most one file. -/
def sourceArgs (a : Arguments) : Except UsageError SourceArgs :=
  let text := a.value? "source"
  let settings (path : Option String) : SourceArgs :=
    ⟨path, text, a.value? "lang", a.values "inject"⟩
  match a.positional with
  | [] => .ok (settings none)
  | [path] => if path.isEmpty || text.isSome then .error .invalid else .ok (settings (some path))
  | _ => .error .invalid

/-- The layer chosen. -/
def layerArg (a : Arguments) : Option Nat := (a.value? "layer").bind readWord?

/-- The colours chosen. -/
def colorArg (a : Arguments) : ColorChoice :=
  match a.value? "color" with
  | some "always" => .always
  | some "never" => .never
  | _ => .auto

/-- The settings of the command that prints a tree. -/
def treeArgs (a : Arguments) : Except UsageError TreeArgs := do
  return ⟨← sourceArgs a, layerArg a, a.has "raw", colorArg a, a.has "json"⟩

/-- The settings of the command that runs a query, which comes from one place only. -/
def queryArgs (a : Arguments) : Except UsageError QueryArgs := do
  let source ← sourceArgs a
  if a.has "query" && a.has "query-file" then .error .invalid
  else return ⟨source, a.value? "query", a.value? "query-file", a.value? "rows", layerArg a,
    a.has "injection-ranges", colorArg a, a.has "json"⟩

/-- The settings of the command that looks up a node; the position must be given. -/
def nodeArgs (a : Arguments) : Except UsageError NodeArgs := do
  let source ← sourceArgs a
  match a.value? "at" with
  | none => .error .invalid
  | some position => return ⟨source, position, layerArg a, a.has "raw", a.has "json"⟩

/-- The settings of the command that lists layers. -/
def layersArgs (a : Arguments) : Except UsageError LayersArgs := do
  return ⟨← sourceArgs a, a.has "json"⟩

/-! ### Commands -/

/-- The names of the commands, the one for help last. -/
def commandNames : List String := ["tree", "query", "node", "layers", "langs", "help"]

/-- Help is about the whole program or about one command. -/
def helpTopic : List String → UsageError
  | [] => .help
  | [topic] => if commandNames.contains topic then .help else .invalid
  | _ => .invalid

/-- Reads the arguments of a command. -/
def ofCommand (command : String) (args : List String) : Except UsageError Invocation := do
  match command with
  | "tree" => return .tree (← treeArgs (← readArguments treeOptions args))
  | "query" => return .query (← queryArgs (← readArguments queryOptions args))
  | "node" => return .node (← nodeArgs (← readArguments nodeOptions args))
  | "layers" => return .layers (← layersArgs (← readArguments layersOptions args))
  | "langs" =>
    let a ← readArguments [verboseOption] args
    if a.positional.isEmpty then return .langs else .error .invalid
  | "help" => .error (helpTopic args)
  | _ => .error .invalid

/-- Whether an argument only says how much is logged. -/
def isVerbosity (arg : String) : Bool :=
  arg == "--verbose" ||
    match arg.toList with
    | '-' :: c :: cs => (c :: cs).all (· = 'v')
    | _ => false

/-- Reads the command line: how much is logged, then a command with its arguments. -/
def parse (args : List String) : Except UsageError Invocation :=
  match args.dropWhile isVerbosity with
  | [] => .error .invalid
  | command :: rest =>
    if command == "--help" || command == "-h" then .error .help else ofCommand command rest

end Invocation

end SyntaxInspector
