import Mathlib.Tactic.SplitIfs
import SyntaxInspector.Proofs.Render.Slices
import SyntaxInspector.Proofs.Tree.Descent

/-!
# The cursor lands on a row

Rows are made by a traversal of the whole tree, and they are those of the nodes that qualify. The
node at a target is found on one way down, among the nodes of this way that are named or of any
kind, and it is the root where there is none. Whatever the ranges are, a node that counts for the
search qualifies, so the node found has a row as soon as the root has one.

* `NodeData.qualifies_of_counts` — what counts for the search has a row;
* `Node.rows_around` — the rows before a node, and its own;
* `cursor_lands_on_row` — the row of the node at a target.
-/

namespace SyntaxInspector

namespace NodeData

variable {d : NodeData} {showAnonymous : Bool}

/-- The label says of which kind the node is. -/
theorem kind_of_label? {label : Label} (h : d.label? showAnonymous = some label) :
    label.kind = d.kind := by
  unfold label? at h
  split_ifs at h
  all_goals
    cases h
    rfl

/-- What counts when a node at a target is looked for has a row. -/
theorem qualifies_of_counts (h : (showAnonymous || d.named) = true) :
    d.qualifies showAnonymous = true := by
  rw [qualifies, Bool.or_assoc, Bool.or_comm d.named, h, Bool.or_true]

end NodeData

namespace Node

variable {root n : Node} {before after : List Node} {showAnonymous : Bool}

/-- The rows of a tree around a node that has one: before it come the rows of nodes that come before
the node, one for each of them that qualifies. -/
theorem rows_around (h : root.preorder = before ++ n :: after)
    (hq : n.data.qualifies showAnonymous = true) :
    ∃ earlier row later, root.rows showAnonymous 0 = earlier ++ row :: later ∧
      earlier.length = before.countP (·.data.qualifies showAnonymous) ∧
      (∀ r ∈ earlier, ∃ m ∈ before, r.id = m.data.id) ∧
      row.id = n.data.id ∧ row.range = n.data.range ∧
      n.data.label? showAnonymous = some row.label := by
  -- the visits are those of the nodes before, that of the node, and the rest
  have hdata := map_data_visits [] root
  rw [h, List.map_append, List.map_cons] at hdata
  obtain ⟨vs, ws, hvisits, hvs, hws⟩ := List.map_eq_append_iff.1 hdata
  obtain ⟨v, us, rfl, hv, -⟩ := List.map_eq_cons_iff.1 hws
  obtain ⟨row, hrow⟩ : ∃ row, v.row? showAnonymous = some row := by
    rw [← Option.isSome_iff_exists, Visit.isSome_row?, hv, hq]
  obtain ⟨hid, hrange⟩ := Visit.id_range_of_row? hrow
  have hlabel := Visit.label?_of_row? hrow
  rw [hv] at hid hrange hlabel
  refine ⟨vs.filterMap (Visit.row? showAnonymous), row, us.filterMap (Visit.row? showAnonymous),
    ?_, ?_, ?_, hid, hrange, hlabel⟩
  · have hrows := rows_eq_filterMap_visits showAnonymous [] root
    rw [List.countP_nil] at hrows
    rw [hrows, hvisits, List.filterMap_append, List.filterMap_cons_some hrow]
  · calc (vs.filterMap (Visit.row? showAnonymous)).length
      _ = vs.countP fun u => (u.row? showAnonymous).isSome := List.length_filterMap_eq_countP
      _ = (vs.map Visit.data).countP (NodeData.qualifies showAnonymous) := by
        simp only [Visit.isSome_row?, List.countP_map, Function.comp_def]
      _ = before.countP (·.data.qualifies showAnonymous) := by
        rw [hvs, List.countP_map, Function.comp_def]
  · intro r hr
    obtain ⟨u, hu, hur⟩ := List.mem_filterMap.1 hr
    obtain ⟨m, hm, hmu⟩ := List.mem_map.1 (hvs ▸ List.mem_map_of_mem hu)
    exact ⟨m, hm, hmu ▸ (Visit.id_range_of_row? hur).1⟩

/-- Where ids are unique, a node before another one has another id. -/
theorem id_ne_of_mem_before (hids : root.ids.Nodup) (h : root.preorder = before ++ n :: after)
    {m : Node} (hm : m ∈ before) : m.data.id ≠ n.data.id := by
  rw [ids, h, List.map_append, List.map_cons] at hids
  exact (List.nodup_append.1 hids).2.2 _ (List.mem_map_of_mem hm) _ List.mem_cons_self

end Node

/-- **The cursor lands on a row.** Let the root of a tree have a row. Whatever the ranges of the
tree and the target are, the node found at the target has a row too. There are as many rows before
it as nodes before the node that qualify, and if the ids of the tree are unique it is the row found
for the id of the node.

Whether ids are unique or not, the row found for an id is the first that carries it, and none is
found only if none carries it. -/
theorem cursor_lands_on_row (root : Node) (target : Range) (options : RenderOptions) :
    let shown := options.showAnonymous
    let rows := render (some root) options
    (root.data.qualifies shown = true →
      ∃ before n after row, root.preorder = before ++ n :: after ∧
        root.atRange target shown = n.data.info ∧
        rows.get? (before.countP (·.data.qualifies shown)) = some row ∧
        (row.id = n.data.id ∧ row.range = n.data.range ∧ row.label.kind = n.data.kind ∧
          n.data.label? shown = some row.label) ∧
        (root.ids.Nodup →
          rows.rowOf? n.data.id = some (before.countP (·.data.qualifies shown)))) ∧
    ∀ id,
      (∀ i, rows.rowOf? id = some i ↔ (∃ row, rows.get? i = some row ∧ row.id = id) ∧
        ∀ j < i, ∀ row, rows.get? j = some row → row.id ≠ id) ∧
      (rows.rowOf? id = none ↔ ∀ row ∈ rows.rows, row.id ≠ id) := by
  intro shown rows
  refine ⟨fun hroot => ?_, fun id =>
    ⟨fun _ => RowSequence.rowOf?_eq_some_iff, RowSequence.rowOf?_eq_none_iff⟩⟩
  obtain ⟨n, hn, hinfo, hcounts⟩ := root.exists_node_of_atRange target shown
  have hq : n.data.qualifies shown = true := by
    rcases hcounts with rfl | hcounts
    · exact hroot
    · exact NodeData.qualifies_of_counts hcounts
  obtain ⟨before, after, hsplit⟩ := List.append_of_mem hn
  obtain ⟨earlier, row, later, hrows, hlength, hearlier, hid, hrange, hlabel⟩ :=
    Node.rows_around hsplit hq
  have hall : rows.rows = earlier ++ row :: later := by
    rw [show rows = _ from render_eq (some root) options]
    exact hrows
  have hget : rows.get? (before.countP (·.data.qualifies shown)) = some row := by
    rw [RowSequence.get?, hall, ← hlength, List.getElem?_append_right (Nat.le_refl _),
      Nat.sub_self, List.getElem?_cons_zero]
  refine ⟨before, n, after, row, hsplit, hinfo.symm, hget,
    ⟨hid, hrange, NodeData.kind_of_label? hlabel, hlabel⟩, fun hids => ?_⟩
  refine RowSequence.rowOf?_eq_some_iff.2 ⟨⟨row, hget, hid⟩, fun j hj r hr => ?_⟩
  rw [RowSequence.get?, hall, List.getElem?_append_left (hlength ▸ hj)] at hr
  obtain ⟨m, hm, hrm⟩ := hearlier r (List.mem_of_getElem? hr)
  rw [hrm]
  exact Node.id_ne_of_mem_before hids hsplit hm

/-- A list put in at an error, whose children do not come in order and do not lie inside of it. -/
def tangledList : Node :=
  .mk ⟨"list", false, true, none, ⟨⟨0, 2⟩, ⟨0, 4⟩⟩, 2, 4, .plain 1⟩
    [.mk ⟨",", false, false, none, ⟨⟨0, 3⟩, ⟨0, 4⟩⟩, 3, 4, .plain 2⟩ [],
      .mk ⟨"(", false, false, none, ⟨⟨0, 0⟩, ⟨0, 9⟩⟩, 0, 9, .plain 3⟩
        [.mk ⟨"number", true, false, none, ⟨⟨0, 5⟩, ⟨0, 8⟩⟩, 5, 8, .plain 4⟩ []]]

/-- A target that ends before it starts is found in the number, which has a row. -/
theorem cursor_lands_on_row_tangledList :
    tangledList.data.qualifies false = true ∧ tangledList.ids.Nodup ∧
    (tangledList.atRange ⟨⟨0, 6⟩, ⟨0, 5⟩⟩ false).id = .plain 4 ∧
    ∃ i row, (render (some tangledList) {}).rowOf? (.plain 4) = some i ∧
      (render (some tangledList) {}).get? i = some row ∧
      row.range = ⟨⟨0, 5⟩, ⟨0, 8⟩⟩ ∧ row.label.kind = "number" := by
  have hroot : tangledList.data.qualifies false = true := by decide
  have hids : tangledList.ids.Nodup := by decide
  have hfound : tangledList.atRange ⟨⟨0, 6⟩, ⟨0, 5⟩⟩ false =
      ⟨.plain 4, "number", true, false, ⟨⟨0, 5⟩, ⟨0, 8⟩⟩⟩ := by decide
  obtain ⟨before, n, after, row, -, hinfo, hget, ⟨-, hrange, hkind, -⟩, hrow⟩ :=
    (cursor_lands_on_row tangledList ⟨⟨0, 6⟩, ⟨0, 5⟩⟩ {}).1 hroot
  have hn : n.data.info = ⟨.plain 4, "number", true, false, ⟨⟨0, 5⟩, ⟨0, 8⟩⟩⟩ :=
    hinfo.symm.trans hfound
  have hid : n.data.id = .plain 4 := congrArg NodeInfo.id hn
  refine ⟨hroot, hids, congrArg NodeInfo.id hfound, _, row, ?_, hget, ?_, ?_⟩
  · rw [← hid]
    exact hrow hids
  · exact hrange.trans (congrArg NodeInfo.range hn)
  · exact hkind.trans (congrArg NodeInfo.kind hn)

end SyntaxInspector
