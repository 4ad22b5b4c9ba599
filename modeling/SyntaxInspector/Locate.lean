import SyntaxInspector.Tree.Node

/-!
# Nodes at positions

The way from the root down to the innermost node around a target. A child is entered when it
reaches the end of the target, starts at or before the target's start and extends past it (a
zero-width child only has to touch it). Only the first child that could contain the target counts.

* `Node.pathTo` — the nodes around a target, outermost first;
* `Node.atRange`, `Node.atPoint` — the innermost of them;
* `Node.withIdAt?` — the one with a given id.
-/

namespace SyntaxInspector

/-- A node's description, detached from its tree. -/
structure NodeInfo where
  /-- The node's identity. -/
  id : NodeId
  /-- The grammar's name for this kind of node. -/
  kind : String
  /-- Whether the grammar names the node. -/
  named : Bool
  /-- Whether the parser put the node in. -/
  missing : Bool
  /-- What the node spans. -/
  range : Range
  deriving DecidableEq, Inhabited

/-- The description of a node. -/
def NodeData.info (d : NodeData) : NodeInfo := ⟨d.id, d.kind, d.named, d.missing, d.range⟩

/-- Whether a range reaches the end of `target` and extends past its start, or touches it if the
range itself is empty. -/
def Range.reaches (r target : Range) : Bool :=
  decide (target.stop ≤ r.stop) &&
    (if r.start = r.stop then decide (target.start ≤ r.stop) else decide (target.start < r.stop))

namespace Node

mutual

/-- The nodes around a target, from this one inwards. -/
def pathTo (target : Range) : Node → List NodeData
  | .mk d cs => d :: pathAmong target cs

/-- The nodes around a target among siblings: those within the first one that reaches it, unless
that one starts after the target does. -/
def pathAmong (target : Range) : List Node → List NodeData
  | [] => []
  | n :: ns =>
    if n.data.range.reaches target then
      if target.start < n.data.range.start then [] else pathTo target n
    else pathAmong target ns

end

/-- The innermost node around a target that is named, or of any kind if `anonymous`; the root when
there is none. -/
def atRange (root : Node) (target : Range) (anonymous : Bool) : NodeInfo :=
  (((root.pathTo target).reverse.find? fun d => anonymous || d.named).getD root.data).info

/-- The innermost node at a point. -/
def atPoint (root : Node) (p : Point) (anonymous : Bool) : NodeInfo :=
  root.atRange (.point p) anonymous

/-- The node with a given id, if it lies around a point. -/
def withIdAt? (root : Node) (p : Point) (id : NodeId) : Option NodeInfo :=
  ((root.pathTo (.point p)).find? (·.id == id)).map NodeData.info

end Node

end SyntaxInspector
