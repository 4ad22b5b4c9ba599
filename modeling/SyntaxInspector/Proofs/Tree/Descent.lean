import Mathlib.Data.List.Nodup
import SyntaxInspector.Locate
import SyntaxInspector.Proofs.Tree.Position

/-!
# The way down to a target

The search for a target goes down from the root and enters one child at each level: the first one
that reaches the target, unless it starts too late. So a node is on the way exactly if the search
enters it, and its ancestors, one after the other.

* `Node.ids` — the ids of the nodes of a tree;
* `Frame.Lets` — the search goes on from a parent into one of its children;
* `Cursor.IsReached` — it does so on all levels above a node;
* `Cursor.withIdAt?_of_isReached`, `Cursor.withIdAt?_of_not_isReached` — which nodes are found.
-/

namespace SyntaxInspector

namespace Node

/-! ### Nodes and their ids -/

theorem preorderList_append (ns ms : List Node) :
    preorderList (ns ++ ms) = preorderList ns ++ preorderList ms := by
  induction ns with
  | nil => rfl
  | cons n ns ih => rw [List.cons_append, preorderList, preorderList, ih, List.append_assoc]

theorem preorder_sublist_preorderList {n : Node} {ns : List Node} (h : n ∈ ns) :
    n.preorder.Sublist (preorderList ns) := by
  obtain ⟨left, right, rfl⟩ := List.append_of_mem h
  rw [preorderList_append, preorderList]
  exact (List.sublist_append_left _ _).trans (List.sublist_append_right _ _)

theorem preorder_eq_cons (n : Node) : n.preorder = n :: preorderList n.children := by
  obtain ⟨d, cs⟩ := n
  rw [preorder, children_mk]

theorem self_mem_preorder (n : Node) : n ∈ n.preorder := by
  rw [preorder_eq_cons]
  exact List.mem_cons_self

/-- The ids of the nodes of a tree, in pre-order. -/
def ids (n : Node) : List NodeId := n.preorder.map (·.data.id)

/-- The ids of the nodes of a list of trees, tree by tree. -/
def idsOf (ns : List Node) : List NodeId := (preorderList ns).map (·.data.id)

theorem ids_mk (d : NodeData) (cs : List Node) : (mk d cs).ids = d.id :: idsOf cs := by
  rw [ids, preorder, List.map_cons, data_mk, idsOf]

theorem idsOf_cons (n : Node) (ns : List Node) : idsOf (n :: ns) = n.ids ++ idsOf ns := by
  rw [idsOf, preorderList, List.map_append, ids, idsOf]

theorem idsOf_append (ns ms : List Node) : idsOf (ns ++ ms) = idsOf ns ++ idsOf ms := by
  rw [idsOf, preorderList_append, List.map_append, idsOf, idsOf]

theorem id_mem_ids (n : Node) : n.data.id ∈ n.ids :=
  List.mem_map_of_mem n.self_mem_preorder

theorem ids_subset_idsOf {n : Node} {ns : List Node} (h : n ∈ ns) : n.ids ⊆ idsOf ns :=
  ((preorder_sublist_preorderList h).map _).subset

/-- Where ids are unique, nodes with the same id have the same data. -/
theorem data_eq_of_id_eq {root n m : Node} (hids : root.ids.Nodup) (hn : n ∈ root.preorder)
    (hm : m ∈ root.preorder) (heq : n.data.id = m.data.id) : n.data = m.data :=
  congrArg data (List.inj_on_of_nodup_map hids hn hm heq)

/-! ### The way among siblings -/

variable {target : Range}

/-- The search goes into the first sibling that reaches the target. -/
theorem pathAmong_append {left right : List Node} {n : Node}
    (hleft : ∀ m ∈ left, m.data.range.reaches target = false)
    (hreaches : n.data.range.reaches target = true) (hstart : n.data.range.start ≤ target.start) :
    pathAmong target (left ++ n :: right) = n.pathTo target := by
  induction left with
  | nil =>
    rw [List.nil_append, pathAmong, if_pos hreaches, if_neg (Point.not_lt.2 hstart)]
  | cons m left ih =>
    obtain ⟨hm, hrest⟩ := List.forall_mem_cons.1 hleft
    rw [List.cons_append, pathAmong, if_neg (by simp [hm]), ih hrest]

/-- Whatever the search meets among siblings, it meets in the first that reaches the target. -/
theorem exists_of_mem_pathAmong {d : NodeData} {ns : List Node} (h : d ∈ pathAmong target ns) :
    ∃ left n right, ns = left ++ n :: right ∧
      (∀ m ∈ left, m.data.range.reaches target = false) ∧
      n.data.range.reaches target = true ∧ n.data.range.start ≤ target.start ∧
      d ∈ n.pathTo target := by
  induction ns with
  | nil => simp [pathAmong] at h
  | cons n ns ih =>
    rw [pathAmong] at h
    split at h
    · rename_i hreaches
      split at h
      · simp at h
      · rename_i hstart
        exact ⟨[], n, ns, rfl, by simp, hreaches, Point.not_lt.1 hstart, h⟩
    · rename_i hreaches
      obtain ⟨left, m, right, rfl, hleft, hm⟩ := ih h
      refine ⟨n :: left, m, right, rfl, ?_, hm⟩
      exact List.forall_mem_cons.2 ⟨by simpa using hreaches, hleft⟩

mutual

/-- The search meets nodes of the tree only. -/
theorem exists_node_of_mem_pathTo (target : Range) :
    (n : Node) → {d : NodeData} → d ∈ n.pathTo target → ∃ m ∈ n.preorder, m.data = d
  | .mk data cs, d, h => by
    rw [pathTo] at h
    rw [preorder]
    rcases List.mem_cons.1 h with rfl | hbelow
    · exact ⟨.mk d cs, List.mem_cons_self, rfl⟩
    · obtain ⟨m, hm, hd⟩ := exists_node_of_mem_pathAmong target cs hbelow
      exact ⟨m, List.mem_cons_of_mem _ hm, hd⟩

theorem exists_node_of_mem_pathAmong (target : Range) :
    (ns : List Node) → {d : NodeData} → d ∈ pathAmong target ns →
      ∃ m ∈ preorderList ns, m.data = d
  | [], d, h => by simp [pathAmong] at h
  | n :: ns, d, h => by
    rw [pathAmong] at h
    rw [preorderList]
    split at h
    · split at h
      · simp at h
      · obtain ⟨m, hm, hd⟩ := exists_node_of_mem_pathTo target n h
        exact ⟨m, List.mem_append_left _ hm, hd⟩
    · obtain ⟨m, hm, hd⟩ := exists_node_of_mem_pathAmong target ns h
      exact ⟨m, List.mem_append_right _ hm, hd⟩

end

theorem id_mem_ids_of_mem_pathTo {n : Node} {d : NodeData} (h : d ∈ n.pathTo target) :
    d.id ∈ n.ids := by
  obtain ⟨m, hm, rfl⟩ := exists_node_of_mem_pathTo target n h
  exact List.mem_map_of_mem hm

/-- What is found by its id is a node of the tree with that id. -/
theorem exists_node_of_withIdAt? {root : Node} {p : Point} {id : NodeId} {info : NodeInfo}
    (h : root.withIdAt? p id = some info) :
    ∃ m ∈ root.preorder, m.data.id = id ∧ m.data.info = info := by
  obtain ⟨d, hfind, rfl⟩ := Option.map_eq_some_iff.1 h
  obtain ⟨m, hm, rfl⟩ := exists_node_of_mem_pathTo _ root (List.mem_of_find?_eq_some hfind)
  exact ⟨m, hm, by simpa using List.find?_some hfind, rfl⟩

/-- The innermost node around a target is a node of the tree: one that counts, or the root. -/
theorem exists_node_of_atRange (root : Node) (target : Range) (anonymous : Bool) :
    ∃ m ∈ root.preorder, m.data.info = root.atRange target anonymous ∧
      (m = root ∨ (anonymous || m.data.named) = true) := by
  unfold atRange
  cases hfind : (root.pathTo target).reverse.find? fun d => anonymous || d.named with
  | none => exact ⟨root, root.self_mem_preorder, rfl, .inl rfl⟩
  | some d =>
    have hd : d ∈ root.pathTo target := List.mem_reverse.1 (List.mem_of_find?_eq_some hfind)
    obtain ⟨m, hm, rfl⟩ := exists_node_of_mem_pathTo target root hd
    have hcounts := List.find?_some hfind
    exact ⟨m, hm, rfl, .inr hcounts⟩

end Node

/-! ### The way down to a cursor -/

/-- The search for a target goes on from the parent of a level into the node that stands there. -/
structure Frame.Lets (target : Range) (f : Frame) (n : Node) : Prop where
  /-- No sibling on the left keeps it. -/
  left : ∀ m ∈ f.left, m.data.range.reaches target = false
  /-- The node reaches the target. -/
  reaches : n.data.range.reaches target = true
  /-- The node does not start too late. -/
  start : n.data.range.start ≤ target.start

/-- The parent of a level, with the node that stands there among its children. -/
def Frame.close (f : Frame) (n : Node) : Node := .mk f.parent (f.left.reverse ++ n :: f.right)

namespace Cursor

open Node

variable {target : Range}

/-- The search for a target passes all levels of a way back. -/
def PassesFrom (target : Range) : Node → List Frame → Prop
  | _, [] => True
  | n, f :: rest => f.Lets target n ∧ PassesFrom target (f.close n) rest

/-- The search for a target gets as far as a cursor. -/
def IsReached (target : Range) (c : Cursor) : Prop := PassesFrom target c.focus c.path

theorem preorder_sublist_topFrom (n : Node) (path : List Frame) :
    n.preorder.Sublist (topFrom n path).preorder := by
  induction path generalizing n with
  | nil => exact List.Sublist.refl _
  | cons f rest ih =>
    have hchild : n ∈ f.left.reverse ++ n :: f.right := by simp
    have hclose : n.preorder.Sublist (f.close n).preorder := by
      rw [Frame.close, preorder]
      exact (preorder_sublist_preorderList hchild).cons _
    exact hclose.trans (ih (f.close n))

theorem focus_mem_preorder_top (c : Cursor) : c.focus ∈ c.top.preorder :=
  (preorder_sublist_topFrom c.focus c.path).subset c.focus.self_mem_preorder

theorem nodup_ids_of_topFrom {n : Node} {path : List Frame} (h : (topFrom n path).ids.Nodup) :
    n.ids.Nodup :=
  h.sublist ((preorder_sublist_topFrom n path).map _)

/-- The way on from a node that is reached ends the way from the root. -/
theorem pathTo_suffix_of_passesFrom {n : Node} {path : List Frame}
    (h : PassesFrom target n path) : n.pathTo target <:+ (topFrom n path).pathTo target := by
  induction path generalizing n with
  | nil => exact List.suffix_refl _
  | cons f rest ih =>
    obtain ⟨hlets, hrest⟩ := h
    have hstep : (f.close n).pathTo target = f.parent :: n.pathTo target := by
      have hleft : ∀ m ∈ f.left.reverse, m.data.range.reaches target = false :=
        fun m hm => hlets.left m (List.mem_reverse.1 hm)
      rw [Frame.close, pathTo, pathAmong_append hleft hlets.reaches hlets.start]
    have hsuffix := ih hrest
    rw [hstep] at hsuffix
    exact (List.suffix_cons _ _).trans hsuffix

/-- Ids tell siblings apart: what the search meets below a parent is below the child whose ids it
shares. -/
theorem lets_of_mem_pathTo_close {f : Frame} {n : Node} {d : NodeData}
    (hids : (f.close n).ids.Nodup) (hd : d ∈ (f.close n).pathTo target) (hid : d.id ∈ n.ids) :
    f.Lets target n ∧ d ∈ n.pathTo target := by
  rw [Frame.close, ids_mk, List.nodup_cons, idsOf_append, idsOf_cons, List.nodup_append,
    List.nodup_append] at hids
  obtain ⟨hparent, -, ⟨-, -, hright⟩, hleft⟩ := hids
  rw [Frame.close, pathTo] at hd
  rcases List.mem_cons.1 hd with rfl | hbelow
  · -- the parent has an id of its own
    exact absurd (List.mem_append_right _ (List.mem_append_left _ hid)) hparent
  · obtain ⟨left, m, right, hsplit, hskipped, hreaches, hstart, hm⟩ := exists_of_mem_pathAmong hbelow
    have hmid := id_mem_ids_of_mem_pathTo hm
    -- the child entered shares an id with `n`, so it is neither on the left nor on the right of it
    have hnotleft : m ∉ f.left.reverse := fun hmem =>
      hleft _ (ids_subset_idsOf hmem hmid) _ (List.mem_append_left _ hid) rfl
    have hnotright : m ∉ f.right := fun hmem =>
      hright _ hid _ (ids_subset_idsOf hmem hmid) rfl
    obtain ⟨rfl, rfl, rfl⟩ := (List.append_cons_inj_of_notMem hnotleft hnotright).1 hsplit
    exact ⟨⟨fun k hk => hskipped k (List.mem_reverse.2 hk), hreaches, hstart⟩, hm⟩

/-- What the search meets with an id of a subtree, it meets within the subtree, on whose levels it
has gone down. -/
theorem passesFrom_of_mem_pathTo {n : Node} {path : List Frame} {d : NodeData}
    (hids : (topFrom n path).ids.Nodup) (hd : d ∈ (topFrom n path).pathTo target)
    (hid : d.id ∈ n.ids) : PassesFrom target n path ∧ d ∈ n.pathTo target := by
  induction path generalizing n with
  | nil => exact ⟨trivial, hd⟩
  | cons f rest ih =>
    have hchild : n ∈ f.left.reverse ++ n :: f.right := by simp
    have hup : d.id ∈ (f.close n).ids := by
      rw [Frame.close, ids_mk]
      exact List.mem_cons_of_mem _ (ids_subset_idsOf hchild hid)
    obtain ⟨hrest, hclose⟩ := ih hids hd hup
    obtain ⟨hlets, hn⟩ := lets_of_mem_pathTo_close (nodup_ids_of_topFrom hids) hclose hid
    exact ⟨⟨hlets, hrest⟩, hn⟩

variable {c : Cursor} {p : Point}

/-- A node that the search gets to is found by its id. -/
theorem withIdAt?_of_isReached (hids : c.top.ids.Nodup) (h : c.IsReached (.point p)) :
    c.top.withIdAt? p c.data.id = some c.data.info := by
  have hfocus : c.data ∈ c.focus.pathTo (.point p) := by
    obtain ⟨⟨d, cs⟩, path⟩ := c
    exact List.mem_cons_self
  have htop : c.data ∈ c.top.pathTo (.point p) := (pathTo_suffix_of_passesFrom h).subset hfocus
  cases hfind : c.top.withIdAt? p c.data.id with
  | none =>
    have hnone := List.find?_eq_none.1 (Option.map_eq_none_iff.1 hfind) c.data htop
    simp at hnone
  | some info =>
    obtain ⟨m, hm, hid, rfl⟩ := exists_node_of_withIdAt? hfind
    exact congrArg (fun d => some (NodeData.info d))
      (data_eq_of_id_eq hids hm c.focus_mem_preorder_top hid)

/-- A node that the search does not get to is not found, nor is another one in its place. -/
theorem withIdAt?_of_not_isReached (hids : c.top.ids.Nodup) (h : ¬ c.IsReached (.point p)) :
    c.top.withIdAt? p c.data.id = none := by
  cases hfind : (c.top.pathTo (.point p)).find? (·.id == c.data.id) with
  | none => rw [withIdAt?, hfind, Option.map_none]
  | some d =>
    have hid : d.id = c.data.id := by simpa using List.find?_some hfind
    have hreached := (passesFrom_of_mem_pathTo hids (List.mem_of_find?_eq_some hfind)
      (hid ▸ c.focus.id_mem_ids)).1
    exact absurd hreached h

end Cursor

end SyntaxInspector
