import SyntaxInspector.Proofs.Tree.Ancestry
import SyntaxInspector.Proofs.Tree.Walking
import SyntaxInspector.Tree.SyntaxTree

/-!
# Searches below and above a node

A search below a node is a walk that keeps count of its depth. It must not climb as high as the node
it started from, or else it would go on to the siblings of that node and to the rest of the tree. It
does not, and it leaves no node out that lies below. A search above a node climbs from parent to
parent.

* `Cursor.nodesWithin` — the nodes that a walk at some depth has still to meet;
* `Cursor.anyFrom_eq`, `Cursor.anyBelow_eq` — which nodes a search looks at;
* `Cursor.mem_ancestors_iff_mem_below` — the nodes below are those that have the node above them;
* `Cursor.anyBelow_iff`, `SyntaxTree.anyAncestor_iff` — what the two searches find.
-/

namespace SyntaxInspector

namespace Cursor

variable {test : NodeData → Bool} {a c d : Cursor}

/-! ### Walks that keep count of their depth -/

/-- The nodes from a node on that are at most `depth` levels outside of it, in pre-order. -/
def nodesWithin (depth : Nat) (c : Cursor) : List Node :=
  c.focus.preorder ++ preorderRight (c.path.take depth)

/-- Past a subtree come the nodes that a climb leads to, if the climb leads anywhere. -/
theorem preorderRight_of_climb? (depth : Nat) (c : Cursor) :
    preorderRight (c.path.take depth) =
      ((climb? depth c).map fun (depth', d) => d.nodesWithin depth').getD [] := by
  induction depth generalizing c with
  | zero => rfl
  | succ depth ih =>
    obtain ⟨n, path⟩ := c
    match path with
    | [] => rfl
    | ⟨p, left, m :: right⟩ :: rest =>
      simp [climb?, nextSibling?, nodesWithin, preorderRight, Node.preorderList]
    | ⟨p, left, []⟩ :: rest =>
      -- no sibling is left, so the climb goes on from the parent, one level less deep
      simpa [climb?, nextSibling?, parent?, preorderRight, Node.preorderList] using
        ih ⟨.mk p (left.reverse ++ [n]), rest⟩

/-- A step down goes one level deeper and leaves one node behind. -/
theorem nodesWithin_of_firstChild? (h : c.firstChild? = some d) (depth : Nat) :
    c.nodesWithin depth = c.focus :: d.nodesWithin (depth + 1) := by
  obtain ⟨⟨data, children⟩, path⟩ := c
  cases children with
  | nil => simp [firstChild?] at h
  | cons n ns =>
    simp only [firstChild?, Option.some.injEq] at h
    subst h
    simp [nodesWithin, preorderRight, Node.preorder, Node.preorderList]

/-- Without children, what comes next is up to the climb. -/
theorem nodesWithin_of_firstChild?_eq_none (h : c.firstChild? = none) (depth : Nat) :
    c.nodesWithin depth =
      c.focus :: ((climb? depth c).map fun (depth', d) => d.nodesWithin depth').getD [] := by
  rw [← preorderRight_of_climb?, nodesWithin]
  obtain ⟨⟨data, children⟩, path⟩ := c
  cases children with
  | nil => rfl
  | cons n ns => simp [firstChild?] at h

/-- A walk looks at all nodes that are not outside of its depth, and at no others. -/
theorem anyFrom_eq (test : NodeData → Bool) (depth : Nat) (c : Cursor) :
    c.anyFrom test depth = (c.nodesWithin depth).any fun n => test n.data := by
  fun_induction anyFrom test depth c with
  | case1 depth c htest =>
    rw [nodesWithin, Node.preorder_eq_cons]
    simp [show test c.focus.data = true from htest]
  | case2 depth c htest child hchild ih =>
    rw [ih, nodesWithin_of_firstChild? hchild, List.any_cons]
    simp [show ¬ test c.focus.data = true from htest]
  | case3 depth c htest hchild depth' d hclimb ih =>
    rw [ih, nodesWithin_of_firstChild?_eq_none hchild, hclimb, List.any_cons]
    simp [show ¬ test c.focus.data = true from htest]
  | case4 depth c htest hchild hclimb =>
    rw [nodesWithin_of_firstChild?_eq_none hchild, hclimb, List.any_cons]
    simp [show ¬ test c.focus.data = true from htest]

/-- Whatever way led to a node, a search below it looks at the nodes of its children. -/
theorem anyBelow_eq (test : NodeData → Bool) (c : Cursor) :
    c.anyBelow test = (Node.preorderList c.focus.children).any fun n => test n.data := by
  obtain ⟨⟨data, children⟩, path⟩ := c
  cases children with
  | nil => rfl
  | cons n ns =>
    show anyFrom test 1 ⟨n, ⟨data, [], ns⟩ :: path⟩ = _
    rw [anyFrom_eq]
    simp [nodesWithin, preorderRight, Node.preorderList]

/-! ### Nodes below -/

/-- The nodes below a node, each with its way back, in pre-order. -/
def below (c : Cursor) : List Cursor := cursorsAmong c.path c.data [] c.focus.children

mutual

/-- The nodes of a tree do not depend on the way back from it. -/
theorem map_focus_cursorsFrom (path : List Frame) :
    (n : Node) → (cursorsFrom path n).map focus = n.preorder
  | .mk d cs => by
    rw [cursorsFrom, Node.preorder, List.map_cons, map_focus_cursorsAmong path d [] cs]

theorem map_focus_cursorsAmong (path : List Frame) (d : NodeData) (left : List Node) :
    (ns : List Node) → (cursorsAmong path d left ns).map focus = Node.preorderList ns
  | [] => rfl
  | n :: ns => by
    rw [cursorsAmong, Node.preorderList, List.map_append, map_focus_cursorsFrom,
      map_focus_cursorsAmong path d (n :: left) ns]

end

theorem map_focus_below (c : Cursor) : c.below.map focus = Node.preorderList c.focus.children :=
  map_focus_cursorsAmong _ _ _ _

/-- The nodes below a node are those that have it above them. -/
theorem mem_ancestors_iff_mem_below : a ∈ d.ancestors ↔ d ∈ a.below := by
  obtain ⟨⟨data, children⟩, path⟩ := a
  constructor
  · intro h
    -- the subtree has a node at the index of `d`, and this node can only be `d`
    obtain ⟨hlt, hle⟩ := index_of_mem_ancestors h
    have hpos := d.focus.size_pos
    have hmem : d.index ∈ (cursorsFrom path (.mk data children)).map index := by
      rw [map_index_cursorsFrom, List.mem_range'_1]
      simp only [index] at hlt hle ⊢
      omega
    obtain ⟨b, hb, hindex⟩ := List.mem_map.1 hmem
    rw [cursorsFrom] at hb
    rcases List.mem_cons.1 hb with rfl | hbelow
    · exact absurd hindex (Nat.ne_of_lt hlt)
    · have htop := (top_of_mem_ancestors (mem_ancestors_of_mem_cursorsAmong _ _ _ _ hbelow)).symm
      exact eq_of_index_eq (htop.trans (top_of_mem_ancestors h)) hindex ▸ hbelow
  · exact mem_ancestors_of_mem_cursorsAmong path data [] children

/-- A search below a node finds a node just if one lies below. -/
theorem anyBelow_iff :
    c.anyBelow test = true ↔ ∃ d : Cursor, c ∈ d.ancestors ∧ test d.data = true := by
  rw [anyBelow_eq, ← map_focus_below, List.any_map, List.any_eq_true]
  simp only [mem_ancestors_iff_mem_below]
  rfl

/-- The search knows nothing of what is above the node. -/
theorem anyBelow_ofRoot (test : NodeData → Bool) (c : Cursor) :
    (ofRoot c.focus).anyBelow test = c.anyBelow test := by
  rw [anyBelow_eq, anyBelow_eq]
  rfl

/-- There are no more levels than nodes before. -/
theorem length_path_le_index (c : Cursor) : c.path.length ≤ c.index := by
  obtain ⟨n, path⟩ := c
  show path.length ≤ indexOfPath path
  induction path with
  | nil => exact Nat.le_refl _
  | cons f rest ih =>
    rw [indexOfPath, List.length_cons]
    omega

end Cursor

/-! ### Nodes above -/

namespace SyntaxTree

/-- From all nodes of a tree the parser's own navigation leads to the parent. -/
def ParentsAgree (t : SyntaxTree) : Prop :=
  ∀ c : Cursor, c.top = t.root → t.follow c .parent = c.parent?

/-- Detours to other nodes do no harm. -/
theorem parentsAgree_of_detours {t : SyntaxTree} (h : ∀ d ∈ t.detours, d.step ≠ .parent) :
    t.ParentsAgree := by
  intro c _
  have hnone : t.detour? c .parent = none := by
    rw [detour?, List.find?_eq_none]
    intro d hd
    simp [h d hd]
  rw [follow, hnone]
  rfl

variable {t : SyntaxTree} {test : NodeData → Bool} {c : Cursor}

/-- Climbing by enough levels meets all ancestors. -/
theorem anyAncestorWithin_eq (ht : t.ParentsAgree) {fuel : Nat} (hc : c.top = t.root)
    (hfuel : c.path.length ≤ fuel) :
    t.anyAncestorWithin test fuel c = c.ancestors.any fun a => test a.data := by
  induction fuel generalizing c with
  | zero =>
    obtain ⟨n, path⟩ := c
    obtain rfl := List.length_eq_zero_iff.1 (Nat.le_zero.1 hfuel)
    rfl
  | succ fuel ih =>
    rw [anyAncestorWithin, ht c hc, c.ancestors_eq]
    cases hparent : c.parent? with
    | none => rfl
    | some p =>
      have hlength : p.path.length ≤ fuel := by
        obtain ⟨n, path⟩ := c
        cases path with
        | nil => simp [Cursor.parent?] at hparent
        | cons f rest =>
          cases hparent
          exact Nat.le_of_succ_le_succ hfuel
      simp [ih ((Cursor.top_of_parent? hparent).trans hc) hlength]

/-- A search above a node finds a node just if one lies above. -/
theorem anyAncestor_iff (ht : t.ParentsAgree) (hc : c.top = t.root) :
    t.anyAncestor test c = true ↔ ∃ a ∈ c.ancestors, test a.data = true := by
  have hfuel : c.path.length ≤ t.root.size := by
    have hlt := c.index_lt_size
    rw [hc] at hlt
    exact Nat.le_of_lt (Nat.lt_of_le_of_lt c.length_path_le_index hlt)
  rw [anyAncestor, anyAncestorWithin_eq ht hc hfuel, List.any_eq_true]

end SyntaxTree

end SyntaxInspector
