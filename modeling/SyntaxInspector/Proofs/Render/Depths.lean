import Mathlib.Data.List.Forall2
import Mathlib.Data.List.OfFn
import Mathlib.Data.List.Perm.Subperm
import Mathlib.Data.Nat.Find
import Mathlib.Order.Fin.Basic
import SyntaxInspector.Proofs.Render.Clicks

/-!
# Depths of rows

A render is a flat list in which each row has a depth: the number of ancestors that have a row. The
tree can be read off again. What lies below the node of a row follows the row, deeper than it, up to
the next row that is not deeper. It does not matter how many nodes without a row lie in between.

* `Cursor.depth_lt_of_mem_ancestors` — depths grow on the way down;
* `Cursor.exists_depth_le` — behind a subtree they have come back;
* `Cursor.mem_ancestors_iff_depth` — ancestors by depth;
* `row_depths_tell_ancestors` — the rows of a render.
-/

namespace SyntaxInspector

namespace Cursor

/-- Whether a node has a row. -/
def isShown (showAnonymous : Bool) (c : Cursor) : Bool := c.data.qualifies showAnonymous

variable {showAnonymous : Bool} {a b c : Cursor}

/-! ### Depths and ancestors -/

/-- The depth of a node counts its ancestors that have a row. -/
theorem depth_visit (showAnonymous : Bool) (c : Cursor) :
    c.visit.depth showAnonymous = c.ancestors.countP (isShown showAnonymous) := by
  rw [Visit.depth, visit, ← map_data_ancestors, List.countP_map]
  rfl

/-- Depths grow on the way down from a node that has a row. -/
theorem depth_lt_of_mem_ancestors (h : a ∈ c.ancestors) (ha : a.isShown showAnonymous = true) :
    a.visit.depth showAnonymous < c.visit.depth showAnonymous := by
  obtain ⟨nearer, heq⟩ := exists_ancestors_eq_append h
  rw [depth_visit, depth_visit, heq, List.countP_append, List.countP_cons_of_pos ha]
  omega

/-- A node is not deeper than another one that has all its ancestors with a row. -/
theorem depth_le_of_ancestors
    (h : ∀ x ∈ b.ancestors, x.isShown showAnonymous = true → x ∈ a.ancestors) :
    b.visit.depth showAnonymous ≤ a.visit.depth showAnonymous := by
  rw [depth_visit, depth_visit, List.countP_eq_length_filter, List.countP_eq_length_filter]
  refine (List.Nodup.subperm ((nodup_ancestors b).filter _) fun x hx => ?_).length_le
  obtain ⟨hmem, hshown⟩ := List.mem_filter.1 hx
  exact List.mem_filter.2 ⟨h x hmem hshown, hshown⟩

/-- The first node with a row behind a subtree is not deeper than the root of the subtree. -/
theorem exists_depth_le (htop : a.top = c.top) (hc : c.isShown showAnonymous = true)
    (hbehind : a.index + a.focus.size ≤ c.index) :
    ∃ b : Cursor, b.top = c.top ∧ b.isShown showAnonymous = true ∧ a.index < b.index ∧
      b.index ≤ c.index ∧ b.visit.depth showAnonymous ≤ a.visit.depth showAnonymous := by
  classical
  have hsome : ∃ i, ∃ b : Cursor, b.index = i ∧ b.top = c.top ∧
      b.isShown showAnonymous = true ∧ a.index + a.focus.size ≤ i :=
    ⟨_, c, rfl, rfl, hc, hbehind⟩
  obtain ⟨b, hindex, hbtop, hb, hend⟩ := Nat.find_spec hsome
  have hfirst : ∀ x : Cursor, x.top = c.top → x.isShown showAnonymous = true →
      x.index < b.index → x.index < a.index + a.focus.size := by
    intro x hxtop hx hlt
    by_contra hle
    exact Nat.find_min hsome (hindex ▸ hlt) ⟨x, rfl, hxtop, hx, Nat.le_of_not_lt hle⟩
  rw [← hindex] at hend
  have hpos := a.focus.size_pos
  refine ⟨b, hbtop, hb, by omega, ?_, depth_le_of_ancestors ?_⟩
  · rw [hindex]
    exact Nat.find_min' hsome ⟨c, rfl, rfl, hc, hbehind⟩
  · intro x hx hshown
    have hxtop : x.top = a.top := (top_of_mem_ancestors hx).trans (hbtop.trans htop.symm)
    obtain ⟨hstart, hstop⟩ := (mem_ancestors_iff (top_of_mem_ancestors hx)).1 hx
    have hbefore := hfirst x (hxtop.trans htop) hshown hstart
    refine (mem_ancestors_iff hxtop).2 ⟨?_, by omega⟩
    by_contra hnot
    have hinside := stop_le_of_index_lt hxtop.symm (Nat.le_of_not_lt hnot) hbefore
    omega

/-- Of two nodes with rows, the first is an ancestor of the second just if all nodes with rows from
the first up to the second are deeper than the first. -/
theorem mem_ancestors_iff_depth (htop : a.top = c.top) (ha : a.isShown showAnonymous = true)
    (hc : c.isShown showAnonymous = true) :
    a ∈ c.ancestors ↔ a.index < c.index ∧
      ∀ b : Cursor, b.top = c.top → b.isShown showAnonymous = true → a.index < b.index →
        b.index ≤ c.index → a.visit.depth showAnonymous < b.visit.depth showAnonymous := by
  constructor
  · intro h
    obtain ⟨hstart, hstop⟩ := (mem_ancestors_iff htop).1 h
    refine ⟨hstart, fun b hbtop _ hlt hle => ?_⟩
    exact depth_lt_of_mem_ancestors
      ((mem_ancestors_iff (htop.trans hbtop.symm)).2 ⟨hlt, by omega⟩) ha
  · rintro ⟨hstart, hdeeper⟩
    refine (mem_ancestors_iff htop).2 ⟨hstart, ?_⟩
    by_contra hbehind
    obtain ⟨b, hbtop, hb, hlt, hle, hdepth⟩ := exists_depth_le htop hc (Nat.le_of_not_lt hbehind)
    exact Nat.not_lt.2 hdepth (hdeeper b hbtop hb hlt hle)

/-- The nearest ancestor with a row is one level up. -/
theorem exists_find?_ancestors (h : 0 < c.visit.depth showAnonymous) :
    ∃ a, c.ancestors.find? (isShown showAnonymous) = some a ∧
      a.visit.depth showAnonymous + 1 = c.visit.depth showAnonymous := by
  obtain ⟨n, path⟩ := c
  rw [depth_visit] at h
  rw [depth_visit]
  induction path generalizing n with
  | nil => cases h
  | cons f rest ih =>
    rw [ancestors_cons] at h ⊢
    cases hshown : isShown showAnonymous ⟨f.close n, rest⟩ with
    | true =>
      refine ⟨_, List.find?_cons_of_pos hshown, ?_⟩
      rw [depth_visit, List.countP_cons_of_pos hshown]
    | false =>
      -- a parent without a row is at the depth of its children
      rw [List.countP_cons_of_neg (by simp [hshown])] at h ⊢
      rw [List.find?_cons_of_neg (by simp [hshown])]
      exact ih (f.close n) h

/-- The nodes from one node of a subtree up to another one are in the subtree. -/
theorem mem_subtree_of_between {x y z : Cursor} (hx : x.top = a.top) (hy : y.top = a.top)
    (hz : z.top = a.top) (hxy : x.index ≤ y.index) (hyz : y.index ≤ z.index)
    (hmem : a ∈ x :: x.ancestors) (hmem' : a ∈ z :: z.ancestors) : a ∈ y :: y.ancestors := by
  rw [List.mem_cons, mem_ancestors_iff hx.symm] at hmem
  rw [List.mem_cons, mem_ancestors_iff hz.symm] at hmem'
  rw [List.mem_cons, mem_ancestors_iff hy.symm]
  have hpos := a.focus.size_pos
  have hstart : a.index ≤ x.index := by
    rcases hmem with rfl | ⟨hlt, -⟩
    · exact Nat.le_refl _
    · exact Nat.le_of_lt hlt
  have hstop : z.index < a.index + a.focus.size := by
    rcases hmem' with rfl | ⟨-, hlt⟩
    · exact Nat.lt_add_of_pos_right hpos
    · exact hlt
  rcases Nat.eq_or_lt_of_le (Nat.le_trans hstart hxy) with heq | hlt
  · exact .inl (eq_of_index_eq hy.symm heq)
  · exact .inr ⟨hlt, by omega⟩

end Cursor

/-! ### Rows and their nodes -/

/-- The nodes of a tree that have a row, in pre-order. -/
def Node.shownNodes (showAnonymous : Bool) (root : Node) : List Cursor :=
  root.cursors.filter (Cursor.isShown showAnonymous)

/-- The rows of a tree and its nodes that have a row, side by side. -/
theorem Node.rows_forall₂_shownNodes (showAnonymous : Bool) (root : Node) :
    List.Forall₂ (fun row (c : Cursor) => c.visit.row? showAnonymous = some row)
      (root.rows showAnonymous 0) (root.shownNodes showAnonymous) := by
  rw [Cursor.rows_eq_filterMap_cursors, shownNodes]
  induction root.cursors with
  | nil => exact .nil
  | cons c cs ih =>
    have hshown : c.isShown showAnonymous = (c.visit.row? showAnonymous).isSome :=
      (Visit.isSome_row? showAnonymous c.visit).symm
    rw [List.filterMap_cons]
    cases hrow : c.visit.row? showAnonymous with
    | none =>
      rw [List.filter_cons_of_neg (by simp [hshown, hrow])]
      exact ih
    | some row =>
      rw [List.filter_cons_of_pos (by simp [hshown, hrow])]
      exact .cons hrow ih

/-- The nodes that the rows of a tree show, row by row. -/
structure Behind (showAnonymous : Bool) (tree : Option Node) (rows : List Row)
    (node : Fin rows.length → Cursor) : Prop where
  /-- They are the nodes of the tree that have a row, in pre-order. -/
  nodes : List.ofFn node = tree.elim [] (Node.shownNodes showAnonymous)
  /-- Each row shows its node. -/
  shows : ∀ i, (node i).visit.row? showAnonymous = some rows[i]

theorem exists_behind (tree : Option Node) (options : RenderOptions) :
    ∃ node, Behind options.showAnonymous tree (render tree options).rows node := by
  have hside : List.Forall₂
      (fun row (c : Cursor) => c.visit.row? options.showAnonymous = some row)
      (render tree options).rows (tree.elim [] (Node.shownNodes options.showAnonymous)) := by
    rw [render_eq]
    cases tree with
    | none => exact .nil
    | some root => exact root.rows_forall₂_shownNodes options.showAnonymous
  refine ⟨fun i => (tree.elim [] (Node.shownNodes options.showAnonymous)).get
    (i.cast hside.length_eq), ?_, fun i => hside.get i.2 (hside.length_eq ▸ i.2)⟩
  exact List.ext_getElem (by simp [hside.length_eq]) (by simp)

namespace Behind

variable {showAnonymous : Bool} {tree : Option Node} {rows : List Row}
  {node : Fin rows.length → Cursor} {c : Cursor}

theorem depth_eq (h : Behind showAnonymous tree rows node) (i : Fin rows.length) :
    rows[i].depth = (node i).visit.depth showAnonymous :=
  Visit.depth_of_row? (h.shows i)

/-- A node is behind some row just if it is a node of the tree that has a row. -/
theorem exists_eq_iff (h : Behind showAnonymous tree rows node) :
    (∃ i, node i = c) ↔ tree = some c.top ∧ c.isShown showAnonymous = true := by
  rw [← List.mem_ofFn, h.nodes]
  cases tree with
  | none => simp
  | some root =>
    rw [Option.elim_some, Node.shownNodes, List.mem_filter, Node.mem_cursors_iff, Option.some_inj,
      eq_comm]

/-- Later rows show later nodes. -/
theorem strictMono (h : Behind showAnonymous tree rows node) :
    StrictMono fun i => (node i).index := by
  have hpairwise : (List.ofFn node).Pairwise fun b c => b.index < c.index := by
    rw [h.nodes]
    cases tree with
    | none => exact List.Pairwise.nil
    | some root => exact (root.pairwise_index_cursors).filter _
  exact fun i j hlt => List.pairwise_ofFn.1 hpairwise hlt

/-- Ancestors among the nodes of rows are told by depths. -/
theorem mem_ancestors_iff (h : Behind showAnonymous tree rows node) (j i : Fin rows.length) :
    node j ∈ (node i).ancestors ↔
      j < i ∧ ∀ k, j < k → k ≤ i → rows[j].depth < rows[k].depth := by
  obtain ⟨htree, hj⟩ := h.exists_eq_iff.1 ⟨j, rfl⟩
  obtain ⟨htree', hi⟩ := h.exists_eq_iff.1 ⟨i, rfl⟩
  have htop : (node j).top = (node i).top := Option.some_inj.1 (htree.symm.trans htree')
  rw [Cursor.mem_ancestors_iff_depth htop hj hi]
  refine and_congr h.strictMono.lt_iff_lt ?_
  simp only [h.depth_eq]
  constructor
  · intro hdeeper k hjk hki
    obtain ⟨htree'', hk⟩ := h.exists_eq_iff.1 ⟨k, rfl⟩
    exact hdeeper (node k) (Option.some_inj.1 (htree''.symm.trans htree')) hk
      (h.strictMono hjk) (h.strictMono.monotone hki)
  · intro hdeeper b hbtop hb hlt hle
    obtain ⟨k, rfl⟩ := h.exists_eq_iff.2 ⟨hbtop ▸ htree', hb⟩
    exact hdeeper k (h.strictMono.lt_iff_lt.1 hlt) (h.strictMono.le_iff_le.1 hle)

/-- The nearest ancestor with a row is behind the closest earlier row that is one level up. -/
theorem exists_parent (h : Behind showAnonymous tree rows node) {i : Fin rows.length}
    (hpos : 0 < rows[i].depth) :
    ∃ j < i, (node i).ancestors.find? (Cursor.isShown showAnonymous) = some (node j) ∧
      rows[j].depth + 1 = rows[i].depth ∧
      ∀ k, j < k → k < i → rows[k].depth + 1 ≠ rows[i].depth := by
  rw [h.depth_eq] at hpos
  obtain ⟨a, hfind, hdepth⟩ := Cursor.exists_find?_ancestors hpos
  have hmem := List.mem_of_find?_eq_some hfind
  obtain ⟨htree, -⟩ := h.exists_eq_iff.1 ⟨i, rfl⟩
  obtain ⟨j, rfl⟩ := h.exists_eq_iff.2
    ⟨Cursor.top_of_mem_ancestors hmem ▸ htree, List.find?_some hfind⟩
  obtain ⟨hlt, hdeeper⟩ := (h.mem_ancestors_iff j i).1 hmem
  have hup : rows[j].depth + 1 = rows[i].depth := by rw [h.depth_eq, h.depth_eq, hdepth]
  refine ⟨j, hlt, hfind, hup, fun k hjk hki heq => ?_⟩
  have := hdeeper k hjk (le_of_lt hki)
  omega

/-- The rows of the nodes of a subtree have no others between them. -/
theorem mem_subtree_of_between (h : Behind showAnonymous tree rows node) {a : Cursor}
    (ha : tree = some a.top) {i k l : Fin rows.length} (hik : i ≤ k) (hkl : k ≤ l)
    (hi : a ∈ node i :: (node i).ancestors) (hl : a ∈ node l :: (node l).ancestors) :
    a ∈ node k :: (node k).ancestors := by
  have htop : ∀ i, (node i).top = a.top := fun i =>
    Option.some_inj.1 ((h.exists_eq_iff.1 ⟨i, rfl⟩).1.symm.trans ha)
  exact Cursor.mem_subtree_of_between (htop i) (htop k) (htop l) (h.strictMono.monotone hik)
    (h.strictMono.monotone hkl) hi hl

end Behind

/-- **The depths of rows tell the tree.** Whatever the tree, and whether anonymous nodes are shown
or not, let each row of a render show its node.

* The node of one row is a proper ancestor of the node of another one just if the other row comes
  later, and all rows after the one up to the other are deeper than the one.
* The nearest ancestor that has a row, of a node whose row is at a depth other than zero, is shown
  by the closest earlier row one level up.
* The rows of a subtree have no other rows between them, even if its root has none. -/
theorem row_depths_tell_ancestors (tree : Option Node) (options : RenderOptions) :
    let shown := options.showAnonymous
    let rows := (render tree options).rows
    ∃ node : Fin rows.length → Cursor,
      List.ofFn node = tree.elim [] (Node.shownNodes shown) ∧
      (∀ i, (node i).visit.row? shown = some rows[i]) ∧
      (∀ j i, node j ∈ (node i).ancestors ↔
        j < i ∧ ∀ k, j < k → k ≤ i → rows[j].depth < rows[k].depth) ∧
      (∀ i, 0 < rows[i].depth → ∃ j < i,
        (node i).ancestors.find? (Cursor.isShown shown) = some (node j) ∧
        rows[j].depth + 1 = rows[i].depth ∧
        ∀ k, j < k → k < i → rows[k].depth + 1 ≠ rows[i].depth) ∧
      ∀ a : Cursor, tree = some a.top → ∀ i k l, i ≤ k → k ≤ l →
        a ∈ node i :: (node i).ancestors → a ∈ node l :: (node l).ancestors →
        a ∈ node k :: (node k).ancestors := by
  intro shown rows
  obtain ⟨node, h⟩ := exists_behind tree options
  exact ⟨node, h.nodes, h.shows, h.mem_ancestors_iff, fun i => h.exists_parent,
    fun a ha i k l => h.mem_subtree_of_between ha⟩

/-- A block whose bracket has no row and holds a call with a name, before another name. -/
def hiddenLevel : Node :=
  .mk ⟨"block", true, false, none, ⟨⟨0, 0⟩, ⟨0, 5⟩⟩, 0, 5, .plain 1⟩
    [.mk ⟨"(", false, false, none, ⟨⟨0, 0⟩, ⟨0, 3⟩⟩, 0, 3, .plain 2⟩
      [.mk ⟨"call", true, false, none, ⟨⟨0, 1⟩, ⟨0, 3⟩⟩, 1, 3, .plain 3⟩
        [.mk ⟨"name", true, false, none, ⟨⟨0, 1⟩, ⟨0, 2⟩⟩, 1, 2, .plain 4⟩ []]],
      .mk ⟨"name", true, false, none, ⟨⟨0, 4⟩, ⟨0, 5⟩⟩, 4, 5, .plain 5⟩ []]

/-- The row of the first name is two levels down, and that of the call is the last before it that is
one level down. -/
theorem row_depths_tell_ancestors_hiddenLevel :
    (render (some hiddenLevel) {}).rows.map Row.depth = [0, 1, 2, 1] ∧
    ∃ node : Fin (render (some hiddenLevel) {}).rows.length → Cursor,
      List.ofFn node = hiddenLevel.shownNodes false ∧
      ∃ i j, (render (some hiddenLevel) {}).rows[i].depth = 2 ∧ j < i ∧
        (node i).ancestors.find? (Cursor.isShown false) = some (node j) ∧
        (render (some hiddenLevel) {}).rows[j].depth = 1 := by
  have hdepths : (render (some hiddenLevel) {}).rows.map Row.depth = [0, 1, 2, 1] := by
    rw [render_eq]
    decide
  have hlength : (render (some hiddenLevel) {}).rows.length = 4 := by
    simpa using congrArg List.length hdepths
  obtain ⟨node, hnodes, -, -, hparent, -⟩ := row_depths_tell_ancestors (some hiddenLevel) {}
  have hdepth : ((render (some hiddenLevel) {}).rows[Fin.cast hlength.symm 2]).depth = 2 := by
    have hget := congrArg (·[2]?) hdepths
    simpa [hlength] using hget
  obtain ⟨j, hlt, hfind, hup, -⟩ := hparent (Fin.cast hlength.symm 2) (by omega)
  exact ⟨hdepths, node, hnodes, Fin.cast hlength.symm 2, j, hdepth, hlt, hfind, by omega⟩

end SyntaxInspector
