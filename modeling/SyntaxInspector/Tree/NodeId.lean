/-!
# Identities of nodes and layers
-/

namespace SyntaxInspector

/-- The identity of a node. Ids of different trees never agree. Below the root a node keeps its id
when its tree is copied; the id of a root belongs to one copy of the tree. -/
inductive NodeId where
  /-- A number chosen by whoever built the tree. -/
  | plain (number : Nat)
  /-- The node of a parsed tree at a pre-order index other than 0. -/
  | inner (tree index : Nat)
  /-- The root of a parsed tree, or the root of a copy of it. -/
  | root (tree : Nat) (copied : Bool)
  deriving DecidableEq, Inhabited

namespace NodeId

/-- The id of the node at a pre-order index of a parsed tree. -/
def ofIndex (tree index : Nat) : NodeId := if index = 0 then .root tree false else .inner tree index

/-- The id as text: a plain number, or tree number and index. -/
def text : NodeId → String
  | .plain n => toString n
  | .inner tree index => s!"{tree}.{index}"
  | .root tree _ => s!"{tree}.0"

end NodeId

/-- The identity of a language layer: 0 for the root layer, positive for injected ones. -/
structure LayerId where
  /-- The number that identifies the layer. -/
  number : Nat
  deriving DecidableEq, Inhabited

namespace LayerId

/-- The root layer. -/
def root : LayerId := ⟨0⟩

/-- Whether this is the root layer. -/
def isRoot (id : LayerId) : Bool := id == root

/-- The id as text. -/
def text (id : LayerId) : String := toString id.number

end LayerId

end SyntaxInspector
