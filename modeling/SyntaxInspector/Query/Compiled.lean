import SyntaxInspector.Query.Rules
import SyntaxInspector.Text.Bytes
import SyntaxInspector.Text.Quoted

/-!
# Compiled queries

* `CompiledQuery.compile` — a query text for a language, with its rules;
* `CompiledQuery.execute` — the captures of a query in a tree.
-/

namespace SyntaxInspector

/-- A query for one grammar. -/
structure CompiledQuery where
  /-- Name of the grammar. -/
  grammar : String
  /-- The query text. -/
  source : String
  /-- Declared capture names. -/
  captureNames : List String
  /-- The rules of each pattern. -/
  rules : List PatternRules

/-- A captured node. -/
structure Capture where
  /-- Index of the pattern. -/
  patternIndex : Nat
  /-- Index of the capture name. -/
  nameIndex : Nat
  /-- The node. -/
  node : Cursor

namespace CompiledQuery

/-- The rules of a pattern of a query text; a problem is located at the pattern's start. -/
def rulesOf (compile : RegexCompiler) (source : String) (p : RawPattern) :
    Except CompileError PatternRules :=
  (PatternRules.ofPattern compile p).mapError fun e =>
    ⟨.predicate, pointAt source .zero p.start, e.message⟩

/-- Compiles a query text for a language. -/
def compile (e : Engine) (language : Language) (source : String) :
    Except CompileError CompiledQuery := do
  let raw ← (e.compile language source).mapError CompileError.ofEngine
  let rules ← raw.patterns.mapM (rulesOf e.regex source)
  return ⟨language.name, source, raw.captures, rules⟩

/-- The number of patterns. -/
def patternCount (q : CompiledQuery) : Nat := q.rules.length

/-- The index of a capture name. -/
def captureIndex? (q : CompiledQuery) (name : String) : Option Nat := q.captureNames.idxOf? name

/-- The name of a capture. -/
def captureName (q : CompiledQuery) (index : Nat) : String := (q.captureNames[index]?).getD ""

/-- The rules of a pattern. -/
def rulesFor (q : CompiledQuery) (pattern : Nat) : PatternRules := (q.rules[pattern]?).getD {}

/-- The bounds a query runs within: the ones asked for, cut to the text, or else the whole text. -/
def effectiveBounds (text : String) (bounds : Option Range) : Range :=
  (bounds.getD (extentOf text)).clip (extentOf text)

/-- A capture as the engine reports it, with its node; `none` if the tree has no such node. -/
def captured? (t : SyntaxTree) (raw : RawCapture) : Option Capture :=
  (t.node? raw.node).map (⟨raw.pattern, raw.capture, ·⟩)

/-- The captures of a query in a tree of a text, in the engine's order. -/
def execute (e : Engine) (q : CompiledQuery) (t : SyntaxTree) (text : String)
    (bounds : Option Range) : List Capture :=
  (e.captures q.grammar q.source ⟨t, text⟩ (effectiveBounds text bounds)).filterMap (captured? t)

/-- A summary for people. -/
def summary (q : CompiledQuery) : String :=
  "CompiledQuery \x7b grammar: " ++ shownQuoted q.grammar ++ ", capture_names: [" ++
    ", ".intercalate (q.captureNames.map shownQuoted) ++ "], patterns: " ++
    toString q.patternCount ++ " \x7d"

end CompiledQuery

end SyntaxInspector
