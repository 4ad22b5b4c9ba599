import SyntaxInspector.Text.Point
import SyntaxInspector.Tree.NodeId

/-!
# Syntax nodes

A node carries its own data and the list of its children, so a node is also the tree below it.

* `Node.preorder` — the nodes of a tree in document order, parents first;
* `Node.ofPreorder` — the tree written as a pre-order list with depths.
-/

namespace SyntaxInspector

/-- What a node says about itself. -/
structure NodeData where
  /-- The grammar's name for this kind of node. -/
  kind : String
  /-- Whether the grammar names the node, rather than spelling it as a literal. -/
  named : Bool
  /-- Whether the parser put the node in to recover from an error. -/
  missing : Bool
  /-- The node's field in its parent. -/
  field : Option String
  /-- The points the node spans. -/
  range : Range
  /-- Byte offset of the start. -/
  startByte : Nat
  /-- Byte offset of the end. -/
  endByte : Nat
  /-- The node's identity. -/
  id : NodeId
  deriving DecidableEq, Inhabited

/-- A syntax node with its children. -/
inductive Node where
  /-- The node with the given data and children. -/
  | mk (data : NodeData) (children : List Node)
  deriving Inhabited

namespace Node

/-- The node's own data. -/
def data : Node → NodeData
  | .mk d _ => d

/-- The node's children, in document order. -/
def children : Node → List Node
  | .mk _ cs => cs

@[simp] theorem data_mk (d : NodeData) (cs : List Node) : (Node.mk d cs).data = d := rfl

@[simp] theorem children_mk (d : NodeData) (cs : List Node) : (Node.mk d cs).children = cs := rfl

/-- The node with other data and the same children. -/
def withData (n : Node) (d : NodeData) : Node := .mk d n.children

/-! ### Traversal -/

mutual

/-- The nodes of a tree, each before its children. -/
def preorder : Node → List Node
  | .mk d cs => .mk d cs :: preorderList cs

/-- The nodes of a list of trees, tree by tree. -/
def preorderList : List Node → List Node
  | [] => []
  | n :: ns => preorder n ++ preorderList ns

end

mutual

/-- The number of nodes of a tree. -/
def size : Node → Nat
  | .mk _ cs => 1 + sizeList cs

/-- The number of nodes of a list of trees. -/
def sizeList : List Node → Nat
  | [] => 0
  | n :: ns => size n + sizeList ns

end

mutual

/-- A traversal meets every node once. -/
theorem length_preorder : (n : Node) → n.preorder.length = n.size
  | .mk _ cs => by
    rw [preorder, size, List.length_cons, length_preorderList cs, Nat.add_comm]

theorem length_preorderList : (ns : List Node) → (preorderList ns).length = sizeList ns
  | [] => rfl
  | n :: ns => by
    rw [preorderList, sizeList, List.length_append, length_preorder n, length_preorderList ns]

end

/-! ### Pre-order lists -/

/-- A node of a tree written as a list: its depth and its data. -/
structure Entry where
  /-- Number of ancestors. -/
  depth : Nat
  /-- The node's data. -/
  data : NodeData

/-- Puts a node in front of the trees that follow it: those one level deeper are its children. -/
def attach (e : Entry) (following : List (Nat × Node)) : List (Nat × Node) :=
  let (below, rest) := following.span fun (depth, _) => depth == e.depth + 1
  (e.depth, .mk e.data (below.map Prod.snd)) :: rest

/-- The tree of a pre-order list; an empty list has no tree. -/
def ofPreorder (entries : List Entry) : Option Node :=
  ((entries.foldr attach []).head?).map Prod.snd

end Node

end SyntaxInspector
