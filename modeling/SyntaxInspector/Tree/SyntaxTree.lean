import SyntaxInspector.Tree.Cursor

/-!
# Parsed trees

A parsed tree has a number of its own. Its nodes are reached by pre-order index. The parser's own
navigation does not always agree with the list of children — it overlooks a zero-width sibling,
for instance — so a parsed tree also lists the *detours*: steps with a result of their own.
Walks with a cursor never take detours.

* `SyntaxTree.follow` — a step of the parser's navigation;
* `SyntaxTree.copy` — the tree as it is handed to a renderer.
-/

namespace SyntaxInspector

/-- A step from one node whose result differs from the list of children. -/
structure Detour where
  /-- Pre-order index of the node. -/
  index : Nat
  /-- The step. -/
  step : Step
  /-- Pre-order index of the result. -/
  target : Option Nat

/-- A parsed tree. -/
structure SyntaxTree where
  /-- The number that tells the tree from all others. -/
  number : Nat
  /-- The root node. -/
  root : Node
  /-- Steps with a result of their own. -/
  detours : List Detour

namespace SyntaxTree

/-- The cursor at the root. -/
def walk (t : SyntaxTree) : Cursor := .ofRoot t.root

/-- The node at a pre-order index, if the tree has that many nodes. -/
def node? (t : SyntaxTree) (index : Nat) : Option Cursor :=
  if index < t.root.size then some (.seek t.root index) else none

/-- The detour for a step from a node, if there is one. -/
def detour? (t : SyntaxTree) (c : Cursor) (step : Step) : Option Detour :=
  t.detours.find? fun d => d.step == step && d.index == c.index

/-- Follows a step by the parser's own navigation. -/
def follow (t : SyntaxTree) (c : Cursor) (step : Step) : Option Cursor :=
  match t.detour? c step with
  | some d => d.target.bind t.node?
  | none => c.follow step

/-- The tree handed to a renderer: the same nodes, with a root id of its own. -/
def copy (t : SyntaxTree) : SyntaxTree :=
  { t with root := t.root.withData { t.root.data with id := .root t.number true } }

/-- A tree from its pre-order list, whose nodes get the tree's ids; `none` for an empty list. -/
def ofEntries (number : Nat) (entries : List Node.Entry) (detours : List Detour) :
    Option SyntaxTree :=
  let identified := entries.zipIdx.map fun (e, i) =>
    { e with data := { e.data with id := .ofIndex number i } }
  (Node.ofPreorder identified).map (⟨number, ·, detours⟩)

/-! ### Relations between nodes -/

/-- Whether some ancestor of a node satisfies `test`, climbing at most `fuel` levels. -/
def anyAncestorWithin (t : SyntaxTree) (test : NodeData → Bool) : Nat → Cursor → Bool
  | 0, _ => false
  | fuel + 1, c =>
    match t.follow c .parent with
    | some p => test p.data || t.anyAncestorWithin test fuel p
    | none => false

/-- Whether some ancestor of a node satisfies `test`. A way up visits a node at most once, so it has
fewer steps than the tree has nodes. -/
def anyAncestor (t : SyntaxTree) (test : NodeData → Bool) (c : Cursor) : Bool :=
  t.anyAncestorWithin test t.root.size c

end SyntaxTree

end SyntaxInspector
