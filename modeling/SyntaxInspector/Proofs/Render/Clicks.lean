import Mathlib.Tactic.SplitIfs
import SyntaxInspector.Proofs.Render.Slices
import SyntaxInspector.Proofs.Tree.Ancestry
import SyntaxInspector.Proofs.Tree.Nesting

/-!
# From rows back to nodes

A row is followed back to its node by a search for the start of the row. Where ranges are nested
and ids unique, the search finds the node of the row or nothing at all. It finds nothing in two
cases: an empty node stands at the start of the row, on the left of the row's node or of an ancestor
of it, and keeps the search; or an ancestor below the root ends where the row starts, so that the
search passes it by.

* `Cursor.IsExposed` — neither of the two cases;
* `Cursor.isReached_start_iff` — the search gets to exactly these nodes;
* `rows_found_again` — what becomes of the rows of a render.
-/

namespace SyntaxInspector

/-! ### Ranges at a point -/

namespace Range

variable {r : Range} {p : Point}

theorem reaches_point_iff :
    r.reaches (.point p) = true ↔ p ≤ r.stop ∧ (r.start ≠ r.stop → p < r.stop) := by
  unfold reaches point
  split_ifs with hempty <;> simp [hempty]

/-- What ends at a point or before reaches it only if it is empty and stands there. -/
theorem reaches_point_iff_of_stop_le (h : r.stop ≤ p) :
    r.reaches (.point p) = true ↔ r = .point p := by
  rw [reaches_point_iff]
  constructor
  · rintro ⟨hle, hlt⟩
    have hstop : r.stop = p := Point.le_antisymm h hle
    have hstart : r.start = r.stop := by
      by_contra hne
      exact Point.not_lt.2 h (hlt hne)
    obtain ⟨start, stop⟩ := r
    simp_all [point]
  · rintro rfl
    simp [point]

/-- What ends at a point or after it reaches the point, unless it ends there without being empty. -/
theorem reaches_point_iff_of_le_stop (h : p ≤ r.stop) :
    r.reaches (.point p) = true ↔ (r.stop = p → r.start = p) := by
  rw [reaches_point_iff]
  constructor
  · rintro ⟨-, hlt⟩ rfl
    by_contra hne
    exact Point.not_lt.2 (Point.le_refl _) (hlt hne)
  · intro hend
    refine ⟨h, fun hne => ?_⟩
    by_contra hlt
    have hstop : r.stop = p := Point.le_antisymm (Point.not_lt.1 hlt) h
    exact hne ((hend hstop).trans hstop.symm)

end Range

/-! ### Exposed starts -/

namespace Cursor

/-- The start of a node is exposed: the search for it gets to the node. -/
structure IsExposed (c : Cursor) : Prop where
  /-- No empty node stands there on the left of the node or of an ancestor. -/
  left : ∀ f ∈ c.path, ∀ n ∈ f.left, n.data.range ≠ .point c.data.range.start
  /-- No ancestor below the root ends there, unless it is empty. -/
  above : ∀ f ∈ c.path.dropLast,
    f.parent.range.stop = c.data.range.start → f.parent.range.start = c.data.range.start

instance : DecidablePred IsExposed := fun c =>
  decidable_of_iff
    ((∀ f ∈ c.path, ∀ n ∈ f.left, n.data.range ≠ .point c.data.range.start) ∧
      ∀ f ∈ c.path.dropLast,
        f.parent.range.stop = c.data.range.start → f.parent.range.start = c.data.range.start)
    ⟨fun ⟨h, h'⟩ => ⟨h, h'⟩, fun h => ⟨h.left, h.above⟩⟩

variable {n : Node} {f : Frame} {path : List Frame} {p : Point}

theorem lets_point_iff (hnested : (f.close n).Nested) (hstart : n.data.range.start ≤ p)
    (hstop : p ≤ n.data.range.stop) :
    f.Lets (.point p) n ↔ (∀ m ∈ f.left, m.data.range ≠ .point p) ∧
      (n.data.range.stop = p → n.data.range.start = p) := by
  have hleft : ∀ m ∈ f.left, (m.data.range.reaches (.point p) = true ↔ m.data.range = .point p) := by
    intro m hm
    have hbefore : m.data.range.stop ≤ n.data.range.start :=
      (List.pairwise_append.1 hnested.inOrder).2.2 m (List.mem_reverse.2 hm) n List.mem_cons_self
    exact Range.reaches_point_iff_of_stop_le (Point.le_trans hbefore hstart)
  rw [← Range.reaches_point_iff_of_le_stop hstop]
  constructor
  · rintro ⟨hskipped, hreaches, -⟩
    refine ⟨fun m hm heq => ?_, hreaches⟩
    have hnot := hskipped m hm
    rw [(hleft m hm).2 heq] at hnot
    cases hnot
  · rintro ⟨hclear, hreaches⟩
    refine ⟨fun m hm => ?_, hreaches, hstart⟩
    rw [Bool.eq_false_iff]
    exact fun h => hclear m hm ((hleft m hm).1 h)

/-- On a way back whose ranges are nested, the search for a point inside a node passes the levels
that nothing at the point keeps it from. -/
theorem passesFrom_point_iff (hnested : (topFrom n path).WellNested)
    (hstart : n.data.range.start ≤ p) (hstop : p ≤ n.data.range.stop) :
    PassesFrom (.point p) n path ↔
      (∀ f ∈ path, ∀ m ∈ f.left, m.data.range ≠ .point p) ∧
      (path ≠ [] → n.data.range.stop = p → n.data.range.start = p) ∧
      ∀ f ∈ path.dropLast, f.parent.range.stop = p → f.parent.range.start = p := by
  induction path generalizing n with
  | nil => simp [PassesFrom]
  | cons f rest ih =>
    have hclose : (f.close n).Nested :=
      hnested _ ((preorder_sublist_topFrom (f.close n) rest).subset (Node.self_mem_preorder _))
    have hinside := hclose.inside n (by simp [Frame.close])
    have hrest := ih (n := f.close n) hnested (Point.le_trans hinside.1 hstart)
      (Point.le_trans hstop hinside.2)
    rw [PassesFrom, lets_point_iff hclose hstart hstop, hrest]
    -- the parent of this level is below the root just if there is a level above
    cases rest with
    | nil => simp
    | cons g rest =>
      simp only [List.forall_mem_cons, List.dropLast_cons_cons, ne_eq, reduceCtorEq,
        not_false_eq_true, forall_const, Frame.close, Node.data_mk]
      tauto

/-- The search for the start of a node gets to the node exactly if the start is exposed. -/
theorem isReached_start_iff {c : Cursor} (hnested : c.top.WellNested) :
    c.IsReached (.point c.data.range.start) ↔ c.IsExposed := by
  have hfocus : c.focus.Nested := hnested _ c.focus_mem_preorder_top
  refine (passesFrom_point_iff hnested (Point.le_refl _) hfocus.ordered).trans ?_
  constructor
  · rintro ⟨hleft, -, habove⟩
    exact ⟨hleft, habove⟩
  · rintro ⟨hleft, habove⟩
    exact ⟨hleft, fun _ _ => rfl, habove⟩

/-! ### The nodes of rows -/

/-- The visit of a traversal to a node. -/
def visit (c : Cursor) : Visit := ⟨c.path.map Frame.parent, c.data⟩

mutual

/-- A traversal visits the nodes of a tree in pre-order. -/
theorem map_visit_cursorsFrom (path : List Frame) : (n : Node) →
    (cursorsFrom path n).map visit = n.visits (path.map Frame.parent)
  | .mk d cs => by
    rw [cursorsFrom, Node.visits, List.map_cons, map_visit_cursorsAmong path d [] cs]
    rfl

theorem map_visit_cursorsAmong (path : List Frame) (d : NodeData) (left : List Node) :
    (ns : List Node) →
      (cursorsAmong path d left ns).map visit = Node.visitsList (d :: path.map Frame.parent) ns
  | [] => rfl
  | n :: ns => by
    rw [cursorsAmong, Node.visitsList, List.map_append, map_visit_cursorsFrom _ n,
      map_visit_cursorsAmong path d (n :: left) ns]
    rfl

end

/-- The rows of a tree are those of its nodes that have one. -/
theorem rows_eq_filterMap_cursors (showAnonymous : Bool) (root : Node) :
    root.rows showAnonymous 0 = root.cursors.filterMap (·.visit.row? showAnonymous) := by
  have hrows := Node.rows_eq_filterMap_visits showAnonymous [] root
  rw [List.countP_nil] at hrows
  rw [hrows, Node.cursors, ← List.map_nil, ← map_visit_cursorsFrom, List.filterMap_map]
  rfl

/-- Every row of a tree shows the node of some cursor. -/
theorem exists_of_mem_rows {root : Node} {showAnonymous : Bool} {row : Row}
    (h : row ∈ root.rows showAnonymous 0) :
    ∃ c : Cursor, c.top = root ∧ c.visit.row? showAnonymous = some row := by
  rw [rows_eq_filterMap_cursors] at h
  obtain ⟨c, hc, hrow⟩ := List.mem_filterMap.1 h
  exact ⟨c, Node.mem_cursors_iff.1 hc, hrow⟩

end Cursor

/-- **Rows are found again where their start is exposed.** Let the ids of a tree be unique and its
ranges nested. Each row of a render shows one node; the search for the row's id at the row's start
gives that node if its start is exposed, and nothing otherwise. -/
theorem rows_found_again (root : Node) (hids : root.ids.Nodup) (hnested : root.WellNested)
    (options : RenderOptions) (row : Row) (hrow : row ∈ (render (some root) options).rows) :
    ∃ c : Cursor, c.top = root ∧ c.visit.row? options.showAnonymous = some row ∧
      root.withIdAt? row.range.start row.id =
        if c.IsExposed then some c.data.info else none := by
  rw [render_eq] at hrow
  obtain ⟨c, rfl, hshows⟩ := Cursor.exists_of_mem_rows hrow
  obtain ⟨hid, hrange⟩ := Visit.id_range_of_row? hshows
  refine ⟨c, rfl, hshows, ?_⟩
  rw [hid, hrange]
  split_ifs with hexposed
  · exact Cursor.withIdAt?_of_isReached hids ((Cursor.isReached_start_iff hnested).2 hexposed)
  · refine Cursor.withIdAt?_of_not_isReached hids fun hreached => hexposed ?_
    exact (Cursor.isReached_start_iff hnested).1 hreached

/-- An array whose closing bracket was put in at its end. -/
def insertedBracket : Node :=
  .mk ⟨"document", true, false, none, ⟨⟨0, 0⟩, ⟨0, 2⟩⟩, 0, 2, .plain 4⟩
    [.mk ⟨"array", true, false, none, ⟨⟨0, 0⟩, ⟨0, 2⟩⟩, 0, 2, .plain 5⟩
      [.mk ⟨"]", false, true, none, ⟨⟨0, 2⟩, ⟨0, 2⟩⟩, 2, 2, .plain 6⟩ []]]

/-- A pair whose key was put in at the start of its value. -/
def insertedKey : Node :=
  .mk ⟨"pair", true, false, none, ⟨⟨0, 0⟩, ⟨0, 4⟩⟩, 0, 4, .plain 1⟩
    [.mk ⟨"key", true, true, none, ⟨⟨0, 0⟩, ⟨0, 0⟩⟩, 0, 0, .plain 2⟩ [],
      .mk ⟨"value", true, false, none, ⟨⟨0, 0⟩, ⟨0, 4⟩⟩, 0, 4, .plain 3⟩ []]

/-- The row of the array is found again. -/
theorem rows_found_again_insertedBracket :
    insertedBracket.ids.Nodup ∧ insertedBracket.WellNested ∧
    ∃ c : Cursor, c.top = insertedBracket ∧
      c.visit.row? false = some ⟨1, none, .named "array", ⟨⟨0, 0⟩, ⟨0, 2⟩⟩, .plain 5⟩ ∧
      insertedBracket.withIdAt? ⟨0, 0⟩ (.plain 5) =
        if c.IsExposed then some c.data.info else none :=
  ⟨by decide, by decide, rows_found_again insertedBracket (by decide) (by decide) {} _
    (by rw [render_eq]; decide)⟩

/-- The row of a bracket put in at the end of an array is not found again, and neither is the row of
a value that starts where its key was put in. -/
theorem inserted_rows_not_found :
    (insertedBracket.ids.Nodup ∧ insertedBracket.WellNested ∧
      ⟨2, none, .missing "]", ⟨⟨0, 2⟩, ⟨0, 2⟩⟩, .plain 6⟩ ∈ (render insertedBracket {}).rows ∧
      insertedBracket.withIdAt? ⟨0, 2⟩ (.plain 6) = none) ∧
    insertedKey.ids.Nodup ∧ insertedKey.WellNested ∧
      ⟨1, none, .named "value", ⟨⟨0, 0⟩, ⟨0, 4⟩⟩, .plain 3⟩ ∈ (render insertedKey {}).rows ∧
      insertedKey.withIdAt? ⟨0, 0⟩ (.plain 3) = none := by
  rw [render_eq, render_eq]
  decide

end SyntaxInspector
