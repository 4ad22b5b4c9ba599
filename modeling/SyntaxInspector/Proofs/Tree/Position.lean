import SyntaxInspector.Tree.Cursor

/-!
# Positions in one tree

A cursor carries its whole tree with it: closing all levels of the way back gives the root again.
Moving never changes that tree, and the pre-order index alone leads back to the cursor.

* `Cursor.top` — the tree a cursor stands in;
* `Cursor.top_of_firstChild?`, `Cursor.top_of_nextSibling?`, `Cursor.top_of_parent?` — moves stay
  in the tree;
* `Cursor.seek_index` — a cursor is found again by its index.
-/

namespace SyntaxInspector

namespace Node

theorem sizeList_append (ns ms : List Node) : sizeList (ns ++ ms) = sizeList ns + sizeList ms := by
  induction ns with
  | nil => simp [sizeList]
  | cons n ns ih => rw [List.cons_append, sizeList, sizeList, ih]; omega

end Node

namespace Cursor

/-! ### The tree around a cursor -/

/-- The tree that a node is in, given the way back to the root. -/
def topFrom : Node → List Frame → Node
  | n, [] => n
  | n, f :: rest => topFrom (.mk f.parent (f.left.reverse ++ n :: f.right)) rest

/-- The tree a cursor stands in. -/
def top (c : Cursor) : Node := topFrom c.focus c.path

@[simp] theorem top_ofRoot (root : Node) : (ofRoot root).top = root := rfl

theorem top_of_parent? {c p : Cursor} (h : c.parent? = some p) : p.top = c.top := by
  obtain ⟨focus, path⟩ := c
  cases path with
  | nil => simp [parent?] at h
  | cons f rest =>
    simp only [parent?, Option.some.injEq] at h
    subst h
    rfl

theorem top_of_firstChild? {c d : Cursor} (h : c.firstChild? = some d) : d.top = c.top :=
  (top_of_parent? (parent?_of_firstChild? h)).symm

theorem top_of_nextSibling? {c d : Cursor} (h : c.nextSibling? = some d) : d.top = c.top := by
  cases hp : d.parent? with
  | none =>
    obtain ⟨focus, path⟩ := d
    cases path with
    | cons f rest => simp [parent?] at hp
    | nil =>
      -- a sibling has a level above it
      have hprev := previousSibling?_of_nextSibling? h
      simp [previousSibling?] at hprev
  | some p =>
    have hc : c.parent? = some p := by rw [← parent?_of_nextSibling? h, hp]
    rw [← top_of_parent? hp, ← top_of_parent? hc]

/-! ### The way back by index -/

theorem advance_of_next?_eq_none {c : Cursor} (h : c.next? = none) (n : Nat) :
    advance n c = c := by
  cases n with
  | zero => rfl
  | succ n => rw [advance, h]

theorem advance_add (m n : Nat) (c : Cursor) : advance (m + n) c = advance n (advance m c) := by
  induction m generalizing c with
  | zero => rw [Nat.zero_add, advance]
  | succ m ih =>
    rw [Nat.succ_add, advance, advance]
    cases h : c.next? with
    | none => exact (advance_of_next?_eq_none h n).symm
    | some d => exact ih d

theorem advance_one {c d : Cursor} (h : c.next? = some d) : advance 1 c = d := by
  rw [advance, h]
  rfl

mutual

/-- As many moves as a subtree has nodes lead past it. -/
theorem advance_size_of_skip? : (n : Node) → (path : List Frame) → {d : Cursor} →
    skip? n path = some d → advance n.size ⟨n, path⟩ = d
  | .mk data [], path, d, h => by
    have hnext : next? ⟨.mk data [], path⟩ = some d := by simpa [next?, firstChild?] using h
    rw [Node.size, Node.sizeList]
    exact advance_one hnext
  | .mk data (n :: ns), path, d, h => by
    have hnext : next? ⟨.mk data (n :: ns), path⟩ = some ⟨n, ⟨data, [], ns⟩ :: path⟩ := rfl
    rw [Node.size, advance_add, advance_one hnext]
    exact advance_sizeList_of_skip? n ns data [] path (by simpa using h)
termination_by n => sizeOf n

/-- As many moves as siblings have nodes lead past them all. -/
theorem advance_sizeList_of_skip? : (n : Node) → (ns : List Node) → (data : NodeData) →
    (left : List Node) → (path : List Frame) → {d : Cursor} →
    skip? (.mk data (left.reverse ++ n :: ns)) path = some d →
    advance (Node.sizeList (n :: ns)) ⟨n, ⟨data, left, ns⟩ :: path⟩ = d
  | n, [], data, left, path, d, h => by
    rw [Node.sizeList, Node.sizeList, Nat.add_zero]
    exact advance_size_of_skip? n _ (by rw [skip?]; exact h)
  | n, m :: ms, data, left, path, d, h => by
    have hnext : skip? n (⟨data, left, m :: ms⟩ :: path) =
        some ⟨m, ⟨data, n :: left, ms⟩ :: path⟩ := by rw [skip?]
    rw [Node.sizeList, advance_add, advance_size_of_skip? n _ hnext]
    exact advance_sizeList_of_skip? m ms data (n :: left) path (by simpa using h)
termination_by n ns => sizeOf (n :: ns)

end

/-- From a parent to one of its children: past the parent and the siblings on the left. -/
theorem advance_to_child (data : NodeData) (left right : List Node) (n : Node)
    (path : List Frame) :
    advance (1 + Node.sizeList left) ⟨.mk data (left.reverse ++ n :: right), path⟩ =
      ⟨n, ⟨data, left, right⟩ :: path⟩ := by
  induction left generalizing n right with
  | nil =>
    have hnext : next? ⟨.mk data (n :: right), path⟩ = some ⟨n, ⟨data, [], right⟩ :: path⟩ := rfl
    exact advance_one hnext
  | cons m left ih =>
    have hskip : skip? m (⟨data, left, n :: right⟩ :: path) =
        some ⟨n, ⟨data, m :: left, right⟩ :: path⟩ := by rw [skip?]
    have hshape : (m :: left).reverse ++ n :: right = left.reverse ++ m :: n :: right := by simp
    rw [hshape, Node.sizeList, show 1 + (m.size + Node.sizeList left) =
      1 + Node.sizeList left + m.size by omega, advance_add, ih, advance_size_of_skip? m _ hskip]

/-- A cursor is found again by its pre-order index in its tree. -/
theorem seek_index (c : Cursor) : seek c.top c.index = c := by
  obtain ⟨focus, path⟩ := c
  -- from the root down: each level first reaches the parent, then the child
  induction path generalizing focus with
  | nil => rfl
  | cons f rest ih =>
    have hparent := ih (.mk f.parent (f.left.reverse ++ focus :: f.right))
    simp only [seek, top, index] at hparent ⊢
    rw [indexOfPath, Nat.add_comm, topFrom, advance_add, hparent]
    exact advance_to_child f.parent f.left f.right focus rest

end Cursor

end SyntaxInspector
