import SyntaxInspector.Proofs.Tree.Descent

/-!
# Ancestors and pre-order intervals

The nodes below a node follow it in pre-order without a gap. So one node is an ancestor of another
one just if the index of the other lies between the index of the one and the end of its subtree.

* `Cursor.ancestors` — the proper ancestors of a node;
* `Node.cursors` — the nodes of a tree, each with its way back;
* `Cursor.mem_ancestors_iff` — ancestors by pre-order index.
-/

namespace SyntaxInspector

theorem Node.size_pos (n : Node) : 0 < n.size := by
  obtain ⟨d, cs⟩ := n
  rw [size]
  omega

theorem Node.sizeList_reverse (ns : List Node) : sizeList ns.reverse = sizeList ns := by
  induction ns with
  | nil => rfl
  | cons n ns ih =>
    rw [List.reverse_cons, sizeList_append, ih, sizeList, sizeList, sizeList, Nat.add_zero,
      Nat.add_comm]

/-- A level has its parent, the siblings on both sides, and the node that stands there. -/
theorem Frame.size_close (f : Frame) (n : Node) :
    (f.close n).size = 1 + Node.sizeList f.left + n.size + Node.sizeList f.right := by
  rw [close, Node.size, Node.sizeList_append, Node.sizeList_reverse, Node.sizeList]
  omega

namespace Cursor

/-! ### Ancestors -/

/-- The proper ancestors of a node, given the way back to the root. -/
def ancestorsFrom : Node → List Frame → List Cursor
  | _, [] => []
  | n, f :: rest => ⟨f.close n, rest⟩ :: ancestorsFrom (f.close n) rest

/-- The proper ancestors of a node, nearest first. -/
def ancestors (c : Cursor) : List Cursor := ancestorsFrom c.focus c.path

variable {a b c : Cursor}

theorem ancestors_cons (n : Node) (f : Frame) (rest : List Frame) :
    ancestors ⟨n, f :: rest⟩ = ⟨f.close n, rest⟩ :: ancestors ⟨f.close n, rest⟩ := rfl

/-- The ancestors are those met by going from parent to parent. -/
theorem ancestors_eq (c : Cursor) :
    c.ancestors = c.parent?.elim [] fun a => a :: a.ancestors := by
  obtain ⟨n, path⟩ := c
  cases path with
  | nil => rfl
  | cons f rest => rfl

/-- The way back names the ancestors. -/
theorem map_data_ancestors (c : Cursor) : c.ancestors.map data = c.path.map Frame.parent := by
  obtain ⟨n, path⟩ := c
  induction path generalizing n with
  | nil => rfl
  | cons f rest ih => exact congrArg (f.parent :: ·) (ih (f.close n))

/-- Behind an ancestor come its own ancestors. -/
theorem exists_ancestors_eq_append (h : a ∈ c.ancestors) :
    ∃ nearer, c.ancestors = nearer ++ a :: a.ancestors := by
  obtain ⟨n, path⟩ := c
  induction path generalizing n with
  | nil => cases h
  | cons f rest ih =>
    rcases List.mem_cons.1 h with rfl | hrest
    · exact ⟨[], rfl⟩
    · obtain ⟨nearer, heq⟩ := ih (f.close n) hrest
      exact ⟨⟨f.close n, rest⟩ :: nearer, by rw [ancestors_cons, heq, List.cons_append]⟩

theorem mem_ancestors_trans (h : a ∈ b.ancestors) (h' : b ∈ c.ancestors) : a ∈ c.ancestors := by
  obtain ⟨nearer, heq⟩ := exists_ancestors_eq_append h'
  rw [heq]
  exact List.mem_append_right _ (List.mem_cons_of_mem _ h)

theorem top_of_mem_ancestors (h : a ∈ c.ancestors) : a.top = c.top := by
  obtain ⟨n, path⟩ := c
  induction path generalizing n with
  | nil => cases h
  | cons f rest ih =>
    rcases List.mem_cons.1 h with rfl | hrest
    · rfl
    · exact ih (f.close n) hrest

/-- A node and all nodes below it have their indices between that of an ancestor and the end of the
ancestor's subtree. -/
theorem index_of_mem_ancestors (h : a ∈ c.ancestors) :
    a.index < c.index ∧ c.index + c.focus.size ≤ a.index + a.focus.size := by
  obtain ⟨n, path⟩ := c
  induction path generalizing n with
  | nil => cases h
  | cons f rest ih =>
    have hsize := f.size_close n
    rcases List.mem_cons.1 h with rfl | hrest
    · simp only [index, indexOfPath]
      omega
    · have hparent := ih (f.close n) hrest
      simp only [index, indexOfPath] at hparent ⊢
      omega

/-- No two ancestors are the same. -/
theorem nodup_ancestors (c : Cursor) : c.ancestors.Nodup := by
  obtain ⟨n, path⟩ := c
  induction path generalizing n with
  | nil => exact List.nodup_nil
  | cons f rest ih =>
    refine List.nodup_cons.2 ⟨fun hmem => ?_, ih (f.close n)⟩
    exact Nat.lt_irrefl _ (index_of_mem_ancestors (c := ⟨f.close n, rest⟩) hmem).1

/-- A tree has one node at each index. -/
theorem eq_of_index_eq (htop : a.top = c.top) (hindex : a.index = c.index) : a = c := by
  rw [← seek_index a, ← seek_index c, htop, hindex]

/-! ### Nodes in pre-order -/

mutual

/-- The nodes of a tree below a way back, each before its children. -/
def cursorsFrom (path : List Frame) : Node → List Cursor
  | .mk d cs => ⟨.mk d cs, path⟩ :: cursorsAmong path d [] cs

/-- The nodes of siblings, tree by tree, given their parent and the siblings on their left. -/
def cursorsAmong (path : List Frame) (d : NodeData) (left : List Node) : List Node → List Cursor
  | [] => []
  | n :: ns => cursorsFrom (⟨d, left, ns⟩ :: path) n ++ cursorsAmong path d (n :: left) ns

end

mutual

/-- The indices go up by one from node to node. -/
theorem map_index_cursorsFrom (path : List Frame) : (n : Node) →
    (cursorsFrom path n).map index = List.range' (indexOfPath path) n.size
  | .mk d cs => by
    rw [cursorsFrom, Node.size, Nat.add_comm, List.range'_succ, List.map_cons,
      map_index_cursorsAmong path d [] cs, Node.sizeList, Nat.add_zero]
    rfl

theorem map_index_cursorsAmong (path : List Frame) (d : NodeData) (left : List Node) :
    (ns : List Node) → (cursorsAmong path d left ns).map index =
      List.range' (indexOfPath path + 1 + Node.sizeList left) (Node.sizeList ns)
  | [] => rfl
  | n :: ns => by
    have hstart : indexOfPath (⟨d, left, ns⟩ :: path) =
        indexOfPath path + 1 + Node.sizeList left := by
      rw [indexOfPath, Nat.add_comm, ← Nat.add_assoc]
    rw [cursorsAmong, List.map_append, map_index_cursorsFrom _ n,
      map_index_cursorsAmong path d (n :: left) ns, hstart, Node.sizeList, Node.sizeList,
      Nat.add_comm n.size (Node.sizeList left), ← Nat.add_assoc, List.range'_append_1]

end

mutual

/-- A tree holds its root, and what the root is an ancestor of. -/
theorem eq_or_mem_ancestors_of_mem_cursorsFrom (path : List Frame) :
    (n : Node) → {c : Cursor} → c ∈ cursorsFrom path n → c = ⟨n, path⟩ ∨ ⟨n, path⟩ ∈ c.ancestors
  | .mk d cs, c, h => by
    rw [cursorsFrom] at h
    rcases List.mem_cons.1 h with rfl | hbelow
    · exact .inl rfl
    · exact .inr (mem_ancestors_of_mem_cursorsAmong path d [] cs hbelow)

theorem mem_ancestors_of_mem_cursorsAmong (path : List Frame) (d : NodeData) (left : List Node) :
    (ns : List Node) → {c : Cursor} → c ∈ cursorsAmong path d left ns →
      ⟨.mk d (left.reverse ++ ns), path⟩ ∈ c.ancestors
  | [], c, h => by simp [cursorsAmong] at h
  | n :: ns, c, h => by
    rw [cursorsAmong] at h
    rcases List.mem_append.1 h with hhere | hthere
    · have hparent : (⟨.mk d (left.reverse ++ n :: ns), path⟩ : Cursor) ∈
          ancestors ⟨n, ⟨d, left, ns⟩ :: path⟩ := List.mem_cons_self
      rcases eq_or_mem_ancestors_of_mem_cursorsFrom _ n hhere with rfl | hbelow
      · exact hparent
      · exact mem_ancestors_trans hparent hbelow
    · simpa using mem_ancestors_of_mem_cursorsAmong path d (n :: left) ns hthere

end

/-- One node is an ancestor of another one just if the index of the other lies between the index of
the one and the end of its subtree. -/
theorem mem_ancestors_iff (htop : a.top = c.top) :
    a ∈ c.ancestors ↔ a.index < c.index ∧ c.index < a.index + a.focus.size := by
  constructor
  · intro h
    obtain ⟨hstart, hstop⟩ := index_of_mem_ancestors h
    have := c.focus.size_pos
    exact ⟨hstart, by omega⟩
  · rintro ⟨hstart, hstop⟩
    -- the subtree has a node at the index, and there is only one
    have hmem : c.index ∈ (cursorsFrom a.path a.focus).map index := by
      rw [map_index_cursorsFrom, List.mem_range'_1]
      exact ⟨Nat.le_of_lt hstart, hstop⟩
    obtain ⟨b, hb, hindex⟩ := List.mem_map.1 hmem
    rcases eq_or_mem_ancestors_of_mem_cursorsFrom a.path a.focus hb with rfl | hbelow
    · exact absurd hindex (Nat.ne_of_lt hstart)
    · have hbtop : b.top = c.top := (top_of_mem_ancestors hbelow).symm.trans htop
      exact eq_of_index_eq hbtop hindex ▸ hbelow

/-- A subtree that starts within another one ends within it. -/
theorem stop_le_of_index_lt (htop : a.top = c.top) (hstart : a.index ≤ c.index)
    (hlt : c.index < a.index + a.focus.size) :
    c.index + c.focus.size ≤ a.index + a.focus.size := by
  rcases Nat.eq_or_lt_of_le hstart with heq | hbelow
  · obtain rfl := eq_of_index_eq htop heq
    exact Nat.le_refl _
  · exact (index_of_mem_ancestors ((mem_ancestors_iff htop).2 ⟨hbelow, hlt⟩)).2

/-- A cursor stands at the root, or the root is an ancestor. -/
theorem eq_or_ofRoot_mem_ancestors (c : Cursor) : c = ofRoot c.top ∨ ofRoot c.top ∈ c.ancestors := by
  obtain ⟨n, path⟩ := c
  induction path generalizing n with
  | nil => exact .inl rfl
  | cons f rest ih =>
    refine .inr ?_
    rcases ih (f.close n) with heq | hmem
    · exact heq ▸ List.mem_cons_self
    · exact List.mem_cons_of_mem _ hmem

/-- The index of a node is one of the indices of its tree. -/
theorem index_lt_size (c : Cursor) : c.index < c.top.size := by
  rcases eq_or_ofRoot_mem_ancestors c with heq | hmem
  · rw [heq]
    exact Node.size_pos _
  · have hinside := index_of_mem_ancestors hmem
    have hpos := c.focus.size_pos
    have hroot : (ofRoot c.top).focus = c.top := rfl
    rw [index_ofRoot, hroot] at hinside
    omega

end Cursor

/-! ### The nodes of a tree -/

namespace Node

/-- The nodes of a tree, each with its way back, in pre-order. -/
def cursors (root : Node) : List Cursor := Cursor.cursorsFrom [] root

variable {root : Node} {c : Cursor}

theorem map_index_cursors (root : Node) : root.cursors.map Cursor.index = List.range root.size := by
  rw [cursors, Cursor.map_index_cursorsFrom, List.range_eq_range']
  rfl

/-- The nodes are those that a cursor can stand on. -/
theorem mem_cursors_iff : c ∈ root.cursors ↔ c.top = root := by
  have htop : ∀ {root : Node} {b : Cursor}, b ∈ root.cursors → b.top = root := by
    intro root b hb
    rcases Cursor.eq_or_mem_ancestors_of_mem_cursorsFrom [] root hb with rfl | hbelow
    · rfl
    · exact (Cursor.top_of_mem_ancestors hbelow).symm
  constructor
  · exact htop
  · rintro rfl
    have hindex : c.index ∈ c.top.cursors.map Cursor.index := by
      rw [map_index_cursors]
      exact List.mem_range.2 c.index_lt_size
    obtain ⟨b, hb, hindex⟩ := List.mem_map.1 hindex
    exact Cursor.eq_of_index_eq (htop hb) hindex ▸ hb

/-- The nodes come by increasing index. -/
theorem pairwise_index_cursors (root : Node) :
    root.cursors.Pairwise fun b c => b.index < c.index :=
  List.pairwise_map.1 (root.map_index_cursors ▸ List.pairwise_lt_range)

end Node

end SyntaxInspector
