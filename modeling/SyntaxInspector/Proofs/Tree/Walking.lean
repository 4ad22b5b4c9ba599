import SyntaxInspector.Tree.Cursor

/-!
# Walks over all nodes

From a node the next one in pre-order is its first child, or else the next sibling of the node
itself or of the nearest ancestor that has one. A walk by such moves needs no stack. It meets the
nodes of the tree one by one in pre-order, each once, and it ends after the last one.

* `Cursor.nodesFrom` — the nodes that a walk has still to meet;
* `Cursor.nodesFrom_of_next?` — what one move does to them;
* `Cursor.map_focus_movedOn?_ofRoot` — where a walk is after some moves;
* `Cursor.foldNodes_ofRoot` — what a walk comes to.
-/

namespace SyntaxInspector

namespace Cursor

/-- The nodes on the right of the levels of a way back, in pre-order. -/
def preorderRight : List Frame → List Node
  | [] => []
  | f :: rest => Node.preorderList f.right ++ preorderRight rest

/-- The nodes from a cursor on, in pre-order. -/
def nodesFrom (c : Cursor) : List Node := c.focus.preorder ++ preorderRight c.path

@[simp] theorem nodesFrom_ofRoot (root : Node) : (ofRoot root).nodesFrom = root.preorder := by
  simp [nodesFrom, ofRoot, preorderRight]

/-- Past a subtree come the nodes on its right, if there are any. -/
theorem preorderRight_of_skip? (n : Node) (path : List Frame) :
    preorderRight path = ((skip? n path).map nodesFrom).getD [] := by
  fun_induction skip? n path with
  | case1 => rfl
  | case2 n data left m right rest =>
    simp [preorderRight, nodesFrom, Node.preorderList]
  | case3 n data left rest ih =>
    rw [← ih, preorderRight, Node.preorderList, List.nil_append]

/-- One move leaves the node behind that it starts from, and there is none from the last node. -/
theorem nodesFrom_of_next? (c : Cursor) :
    c.nodesFrom = c.focus :: (c.next?.map nodesFrom).getD [] := by
  obtain ⟨⟨data, children⟩, path⟩ := c
  cases children with
  | nil =>
    rw [nodesFrom, Node.preorder, Node.preorderList, List.singleton_append,
      preorderRight_of_skip? (.mk data [])]
    rfl
  | cons n ns =>
    simp [nodesFrom, next?, firstChild?, preorderRight, Node.preorder, Node.preorderList]

/-- The cursor some moves on; none when the nodes have run out. -/
def movedOn? (c : Cursor) : Nat → Option Cursor
  | 0 => some c
  | k + 1 => c.next?.bind (·.movedOn? k)

/-- After some moves a walk is at the node of this number. -/
theorem map_focus_movedOn? (c : Cursor) (k : Nat) :
    (c.movedOn? k).map focus = c.nodesFrom[k]? := by
  induction k generalizing c with
  | zero =>
    rw [nodesFrom_of_next?]
    rfl
  | succ k ih =>
    rw [nodesFrom_of_next?, List.getElem?_cons_succ, movedOn?]
    cases c.next? with
    | none => rfl
    | some d => exact ih d

/-- A walk from the root is at the node of each pre-order index in turn, and then at its end. -/
theorem map_focus_movedOn?_ofRoot (root : Node) (k : Nat) :
    ((ofRoot root).movedOn? k).map focus = root.preorder[k]? := by
  rw [map_focus_movedOn?, nodesFrom_ofRoot]

/-- A walk takes in the nodes from its start on. -/
theorem foldNodes_eq_foldl {α : Type} (visit : α → NodeData → α) (acc : α) (c : Cursor) :
    c.foldNodes visit acc = (c.nodesFrom.map Node.data).foldl visit acc := by
  fun_induction foldNodes visit acc c with
  | case1 acc c d h ih =>
    rw [ih, nodesFrom_of_next? c, h]
    rfl
  | case2 acc c h =>
    rw [nodesFrom_of_next? c, h]
    rfl

/-- A walk from the root takes in all nodes, in pre-order. -/
theorem foldNodes_ofRoot {α : Type} (visit : α → NodeData → α) (acc : α) (root : Node) :
    (ofRoot root).foldNodes visit acc = (root.preorder.map Node.data).foldl visit acc := by
  rw [foldNodes_eq_foldl, nodesFrom_ofRoot]

end Cursor

end SyntaxInspector
