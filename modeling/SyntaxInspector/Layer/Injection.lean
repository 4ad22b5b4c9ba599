import SyntaxInspector.Layer.Basic
import SyntaxInspector.Regex

/-!
# Injections

An injection point says that nodes of some kind hold another language. Every node of that kind
with any text, and with matching text if a pattern is given, is an injection.

* `InjectionPoint.accepts` — whether a node is an injection of a point;
* `findInjections` — all injections of a tree, in document order.
-/

namespace SyntaxInspector

/-- Nodes that hold another language. -/
structure InjectionPoint where
  /-- The kind of those nodes. -/
  kind : String
  /-- The language they hold. -/
  language : Language
  /-- What their text has to match. -/
  pattern : Option Regex

namespace InjectionPoint

/-- Whether a node of a text holds the point's language. -/
def accepts (p : InjectionPoint) (text : String) (d : NodeData) : Bool :=
  d.kind == p.kind && decide (d.startByte < d.endByte) &&
    match p.pattern with
    | none => true
    | some regex => (slice? text d.startByte d.endByte).any regex.isMatch

end InjectionPoint

/-- What identifies an injection when the text changes: its point, its number among the injections
of that point, and its grammar. -/
structure InjectionKey where
  /-- Index of the injection point. -/
  point : Nat
  /-- Number among the injections of the point. -/
  ordinal : Nat
  /-- Name of the grammar. -/
  grammar : String
  deriving DecidableEq, Inhabited

/-- An injection found in a tree. -/
structure Injection where
  /-- What identifies it. -/
  key : InjectionKey
  /-- The language it holds. -/
  language : Language
  /-- The node it stands in. -/
  node : NodeData

/-- The injections of one node, given how many each point has had already. -/
def injectionsAt (points : List InjectionPoint) (text : String) (counts : Nat → Nat)
    (d : NodeData) : List Injection :=
  points.zipIdx.filterMap fun (p, i) =>
    if p.accepts text d then some ⟨⟨i, counts i, p.language.name⟩, p.language, d⟩ else none

/-- The number of injections of a point in a list. -/
def countFor (point : Nat) (found : List Injection) : Nat :=
  found.countP (·.key.point == point)

/-- Adds the injections of one node to those of the nodes before it. -/
def addInjections (points : List InjectionPoint) (text : String) (found : List Injection)
    (d : NodeData) : List Injection :=
  found ++ injectionsAt points text (fun i => countFor i found) d

/-- The injections of a tree, found on one walk over its nodes. -/
def findInjections (points : List InjectionPoint) (text : String) (root : Node) : List Injection :=
  (Cursor.ofRoot root).foldNodes (addInjections points text) []

end SyntaxInspector
