import SyntaxInspector.Tree.Node

/-!
# Cursors

A cursor is a node together with the way back to the root: for every ancestor the siblings on the
left and on the right. Moving never loses anything, and a cursor also stands for its node as a node
of the whole tree.

* `Cursor.firstChild?`, `Cursor.nextSibling?`, `Cursor.parent?` — single moves;
* `Cursor.index` — the pre-order index of the focus, and `Cursor.seek`, the way back to it;
* `Cursor.foldNodes` — a walk over all nodes, without a stack;
* `Cursor.anyBelow` — a walk over the nodes below a node, without a stack;
* `Cursor.follow` — the steps of node descriptors.
-/

namespace SyntaxInspector

/-- One level of the way back: the parent and the focus's siblings, nearest first. -/
structure Frame where
  /-- The parent's own data. -/
  parent : NodeData
  /-- Siblings on the left, nearest first. -/
  left : List Node
  /-- Siblings on the right, nearest first. -/
  right : List Node

/-- A node within a tree. -/
structure Cursor where
  /-- The node. -/
  focus : Node
  /-- The way back to the root, innermost level first. -/
  path : List Frame

/-- A step from a node to another one. -/
inductive Step where
  /-- The parent. -/
  | parent
  /-- The first child. -/
  | firstChild
  /-- The last child. -/
  | lastChild
  /-- The first child that is named. -/
  | firstNamedChild
  /-- The last child that is named. -/
  | lastNamedChild
  /-- The next node with the same parent. -/
  | nextSibling
  /-- The previous node with the same parent. -/
  | previousSibling
  /-- The next named node with the same parent. -/
  | nextNamedSibling
  /-- The previous named node with the same parent. -/
  | previousNamedSibling
  deriving DecidableEq

namespace Cursor

/-- The cursor at the root of a tree. -/
def ofRoot (root : Node) : Cursor := ⟨root, []⟩

/-- The data of the node. -/
def data (c : Cursor) : NodeData := c.focus.data

/-! ### Single moves -/

/-- Moves to the first child. -/
def firstChild? (c : Cursor) : Option Cursor :=
  match c.focus with
  | .mk d (n :: ns) => some ⟨n, ⟨d, [], ns⟩ :: c.path⟩
  | .mk _ [] => none

/-- Moves to the next sibling. -/
def nextSibling? (c : Cursor) : Option Cursor :=
  match c.path with
  | ⟨d, left, n :: right⟩ :: rest => some ⟨n, ⟨d, c.focus :: left, right⟩ :: rest⟩
  | _ => none

/-- Moves to the previous sibling. -/
def previousSibling? (c : Cursor) : Option Cursor :=
  match c.path with
  | ⟨d, n :: left, right⟩ :: rest => some ⟨n, ⟨d, left, c.focus :: right⟩ :: rest⟩
  | _ => none

/-- Moves to the parent. -/
def parent? (c : Cursor) : Option Cursor :=
  match c.path with
  | f :: rest => some ⟨.mk f.parent (f.left.reverse ++ c.focus :: f.right), rest⟩
  | [] => none

/-- The parent of the first child is where the cursor came from. -/
theorem parent?_of_firstChild? {c d : Cursor} (h : c.firstChild? = some d) :
    d.parent? = some c := by
  obtain ⟨⟨data, children⟩, path⟩ := c
  cases children with
  | nil => simp [firstChild?] at h
  | cons n ns =>
    simp only [firstChild?, Option.some.injEq] at h
    subst h
    rfl

/-- Siblings have the same parent. -/
theorem parent?_of_nextSibling? {c d : Cursor} (h : c.nextSibling? = some d) :
    d.parent? = c.parent? := by
  obtain ⟨focus, path⟩ := c
  match path with
  | [] => simp [nextSibling?] at h
  | ⟨p, left, []⟩ :: rest => simp [nextSibling?] at h
  | ⟨p, left, n :: right⟩ :: rest =>
    simp only [nextSibling?, Option.some.injEq] at h
    subst h
    simp [parent?]

theorem previousSibling?_of_nextSibling? {c d : Cursor} (h : c.nextSibling? = some d) :
    d.previousSibling? = some c := by
  obtain ⟨focus, path⟩ := c
  match path with
  | [] => simp [nextSibling?] at h
  | ⟨p, left, []⟩ :: rest => simp [nextSibling?] at h
  | ⟨p, left, n :: right⟩ :: rest =>
    simp only [nextSibling?, Option.some.injEq] at h
    subst h
    rfl

/-! ### Pre-order -/

/-- The nodes before the focus among the levels of a way back: each ancestor, and the subtrees on
the left. -/
def indexOfPath : List Frame → Nat
  | [] => 0
  | f :: rest => 1 + Node.sizeList f.left + indexOfPath rest

/-- The pre-order index of the focus. -/
def index (c : Cursor) : Nat := indexOfPath c.path

@[simp] theorem index_ofRoot (root : Node) : (ofRoot root).index = 0 := rfl

/-- The first node after the whole subtree of a focus. -/
def skip? : Node → List Frame → Option Cursor
  | _, [] => none
  | n, ⟨d, left, m :: right⟩ :: rest => some ⟨m, ⟨d, n :: left, right⟩ :: rest⟩
  | n, ⟨d, left, []⟩ :: rest => skip? (.mk d (left.reverse ++ [n])) rest

/-- The next node in pre-order. -/
def next? (c : Cursor) : Option Cursor :=
  match c.firstChild? with
  | some child => some child
  | none => skip? c.focus c.path

/-- The number of nodes on the right of the levels of a way back. -/
def nodesRight : List Frame → Nat
  | [] => 0
  | f :: rest => Node.sizeList f.right + nodesRight rest

/-- The number of nodes from a cursor on, in pre-order. -/
def nodesLeft (c : Cursor) : Nat := c.focus.size + nodesRight c.path

theorem nodesLeft_of_skip? {n : Node} {path : List Frame} {d : Cursor} (h : skip? n path = some d) :
    d.nodesLeft = nodesRight path := by
  fun_induction skip? n path with
  | case1 => simp at h
  | case2 n data left m right rest =>
    cases h
    simp [nodesLeft, nodesRight, Node.sizeList, Nat.add_assoc]
  | case3 n data left rest ih =>
    rw [ih h, nodesRight, Node.sizeList, Nat.zero_add]

/-- A move on leaves one node behind. -/
theorem nodesLeft_of_next? {c d : Cursor} (h : c.next? = some d) :
    c.nodesLeft = d.nodesLeft + 1 := by
  obtain ⟨⟨data, children⟩, path⟩ := c
  cases children with
  | nil =>
    have hskip : skip? (.mk data []) path = some d := h
    rw [nodesLeft_of_skip? hskip]
    simp [nodesLeft, Node.size, Node.sizeList, Nat.add_comm]
  | cons n ns =>
    simp only [next?, firstChild?, Option.some.injEq] at h
    subst h
    simp only [nodesLeft, nodesRight, Node.size, Node.sizeList]
    omega

/-- Visits the nodes from a cursor on, in pre-order, until there is no next one. -/
def foldNodes {α : Type} (visit : α → NodeData → α) (acc : α) (c : Cursor) : α :=
  match _ : c.next? with
  | some d => d.foldNodes visit (visit acc c.data)
  | none => visit acc c.data
termination_by c.nodesLeft
decreasing_by
  have hnext : c.next? = some d := by assumption
  exact nodesLeft_of_next? hnext ▸ Nat.lt_succ_self _

/-- Goes on to the next sibling of a node or of the nearest ancestor that has one, with the depth
that is reached there. Depths are counted from the node a walk has started from, which is at depth 0
and has no siblings that matter. -/
def climb? : Nat → Cursor → Option (Nat × Cursor)
  | 0, _ => none
  | depth + 1, c =>
    match c.nextSibling? with
    | some d => some (depth + 1, d)
    | none => c.parent?.bind (climb? depth)

/-- A climb leads where the walk over all nodes goes on behind a subtree. -/
theorem skip?_of_climb? {depth depth' : Nat} {c d : Cursor}
    (h : climb? depth c = some (depth', d)) : skip? c.focus c.path = some d := by
  induction depth generalizing c with
  | zero => simp [climb?] at h
  | succ depth ih =>
    obtain ⟨n, path⟩ := c
    match path with
    | [] => simp [climb?, nextSibling?, parent?] at h
    | ⟨p, left, m :: right⟩ :: rest =>
      simp only [climb?, nextSibling?, Option.some.injEq, Prod.mk.injEq] at h
      rw [skip?, h.2]
    | ⟨p, left, []⟩ :: rest =>
      simp only [climb?, nextSibling?, parent?, Option.bind_some] at h
      rw [skip?]
      exact ih h

/-- Whether a walk meets a node that satisfies `test`, from a node at some depth on. -/
def anyFrom (test : NodeData → Bool) (depth : Nat) (c : Cursor) : Bool :=
  if test c.data then true
  else
    match _ : c.firstChild? with
    | some child => child.anyFrom test (depth + 1)
    | none =>
      match _ : climb? depth c with
      | some (depth', d) => d.anyFrom test depth'
      | none => false
termination_by c.nodesLeft
decreasing_by
  · have hchild : c.firstChild? = some child := by assumption
    have hnext : c.next? = some child := by rw [next?, hchild]
    exact nodesLeft_of_next? hnext ▸ Nat.lt_succ_self _
  · have hchild : c.firstChild? = none := by assumption
    have hclimb : climb? depth c = some (depth', d) := by assumption
    have hnext : c.next? = some d := by
      rw [next?, hchild]
      exact skip?_of_climb? hclimb
    exact nodesLeft_of_next? hnext ▸ Nat.lt_succ_self _

/-- Whether some node strictly below satisfies `test`. The walk starts at the first child, one level
down. -/
def anyBelow (test : NodeData → Bool) (c : Cursor) : Bool :=
  match c.firstChild? with
  | some child => child.anyFrom test 1
  | none => false

/-- Moves `n` nodes on in pre-order, stopping at the last node. -/
def advance : Nat → Cursor → Cursor
  | 0, c => c
  | n + 1, c =>
    match c.next? with
    | some c => advance n c
    | none => c

/-- The cursor at a pre-order index of a tree. -/
def seek (root : Node) (index : Nat) : Cursor := advance index (ofRoot root)

/-! ### Steps -/

/-- A list of siblings as cursors, given the ones on their left, nearest first. -/
def siblingsFrom (parent : NodeData) (path : List Frame) :
    List Node → List Node → List Cursor
  | _, [] => []
  | left, n :: right =>
    ⟨n, ⟨parent, left, right⟩ :: path⟩ :: siblingsFrom parent path (n :: left) right

/-- The children, in document order. -/
def children (c : Cursor) : List Cursor := siblingsFrom c.data c.path [] c.focus.children

/-- The siblings on the right, nearest first. -/
def nextSiblings (c : Cursor) : List Cursor :=
  match c.path with
  | f :: rest => siblingsFrom f.parent rest (c.focus :: f.left) f.right
  | [] => []

/-- The siblings on the left of `right`, nearest first, as cursors. -/
def siblingsBefore (parent : NodeData) (path : List Frame) :
    List Node → List Node → List Cursor
  | [], _ => []
  | n :: left, right =>
    ⟨n, ⟨parent, left, right⟩ :: path⟩ :: siblingsBefore parent path left (n :: right)

/-- The siblings on the left, nearest first. -/
def previousSiblings (c : Cursor) : List Cursor :=
  match c.path with
  | f :: rest => siblingsBefore f.parent rest f.left (c.focus :: f.right)
  | [] => []

/-- Whether the node is named. -/
def isNamed (c : Cursor) : Bool := c.data.named

/-- Follows one step; `none` when it leads nowhere. -/
def follow (c : Cursor) : Step → Option Cursor
  | .parent => c.parent?
  | .firstChild => c.firstChild?
  | .lastChild => c.children.getLast?
  | .firstNamedChild => c.children.find? isNamed
  | .lastNamedChild => c.children.reverse.find? isNamed
  | .nextSibling => c.nextSibling?
  | .previousSibling => c.previousSibling?
  | .nextNamedSibling => c.nextSiblings.find? isNamed
  | .previousNamedSibling => c.previousSiblings.find? isNamed

end Cursor

end SyntaxInspector
