import SyntaxInspector.Proofs.Session.Refreshing
import SyntaxInspector.Proofs.Session.Selection

/-!
# The active node once rows are taken over

When rows are taken over, the active node is found anew at the last position of the cursor. A
session whose cursor was never moved has no such position and keeps the active node it has, which a
row was selected for. A document that has changed since then has another tree, and the node is not
in it.

* `SyntaxTree.HasNode` — the description of a node of a tree;
* `Host.LastSelected` — the active node is the one that a row was selected for;
* `Host.activeNode_of_unmoved` — nothing else makes a node the active one, but for the cursor;
* `Host.active_node_after_taking_over` — all runs of a host.
-/

namespace SyntaxInspector

/-- A description is that of a node of a tree. -/
def SyntaxTree.HasNode (t : SyntaxTree) (node : NodeInfo) : Prop :=
  ∃ n ∈ t.root.preorder, n.data.info = node

instance (t : SyntaxTree) (node : NodeInfo) : Decidable (t.HasNode node) :=
  inferInstanceAs (Decidable (∃ n ∈ t.root.preorder, n.data.info = node))

/-- Trees without ids in common have no nodes in common. -/
theorem SyntaxTree.IdsApart.eq_of_hasNode {trees : List SyntaxTree} {t t' : SyntaxTree}
    {node : NodeInfo} (h : IdsApart trees) (ht : t ∈ trees) (ht' : t' ∈ trees)
    (hnode : t.HasNode node) (hnode' : t'.HasNode node) : t = t' := by
  obtain ⟨n, hn, rfl⟩ := hnode
  obtain ⟨m, hm, hinfo⟩ := hnode'
  have hid : m.data.id = n.data.id := congrArg NodeInfo.id hinfo
  refine h.apart t ht t' ht' n.data.id ?_ ?_
  · exact List.mem_cons_of_mem _ (List.mem_map_of_mem hn)
  · rw [← hid]
    exact List.mem_cons_of_mem _ (List.mem_map_of_mem hm)

namespace Session

variable {e : Engine} {s s' : Session} {op : Op}

/-- A row that is selected gives a node of the active layer's tree. -/
theorem exists_hasNode_of_rowNode? {index : Nat} {node : NodeInfo}
    (h : s.rowNode? index = some node) : ∃ t, s.activeTree? = some t ∧ t.HasNode node := by
  obtain ⟨row, -, hbind⟩ := Option.bind_eq_some_iff.1 h
  obtain ⟨t, htree, hfound⟩ := Option.bind_eq_some_iff.1 hbind
  obtain ⟨m, hm, -, hinfo⟩ := Node.exists_node_of_withIdAt? hfound
  exact ⟨t, htree, m, hm, hinfo⟩

/-- Without a movement of the cursor the active node stays, or is lost with its layer, or a row is
selected. -/
theorem Effect.activeNode (h : s.Effect e op s') (hop : op.selection? = none) :
    s'.activeNode = s.activeNode ∨ s'.activeNode = none ∨
      ∃ index t node, op = .selectRow index ∧ s.activeTree? = some t ∧ t.HasNode node ∧
        s'.activeNode = some node := by
  cases h with
  | spares _ h =>
    obtain ⟨text, registry, options, counter, inFlight, overlay, events, rfl⟩ := h
    exact .inl rfl
  | leaves _ h =>
    obtain ⟨text, registry, options, overlay, events, rfl⟩ := h
    exact .inr (.inl rfl)
  | compileQuery source =>
    obtain ⟨status, marks, query, highlights, resolver, heq⟩ := exists_compileQuery_eq s e source
    rw [heq]
    exact .inl rfl
  | runQuery bounds =>
    obtain ⟨highlights, resolver, heq⟩ := exists_runQuery_eq s e bounds
    rw [heq]
    exact .inl rfl
  | clearQuery => exact .inl rfl
  | moveCursor selection => cases hop
  | selectRow index =>
    rw [selectRow_fst]
    cases hnode : s.rowNode? index with
    | none => exact .inl rfl
    | some node =>
      obtain ⟨t, htree, hmem⟩ := exists_hasNode_of_rowNode? hnode
      exact .inr (.inr ⟨index, t, node, rfl, htree, hmem, rfl⟩)

end Session

namespace Host

variable {e : Engine} {h : Host} {ops : List Op} {op : Op} {rows : RowSequence} {t : SyntaxTree}
  {node : NodeInfo}

/-- A row was selected for a node of a tree, and this has been the active node since. -/
structure LastSelected (e : Engine) (h : Host) (ops : List Op) (node : NodeInfo) (t : SyntaxTree) :
    Prop where
  /-- The node is one of the tree. -/
  hasNode : t.HasNode node
  /-- The row was selected while the tree was active, and nothing has replaced the node. -/
  selected : ∃ earlier index later, ops = earlier ++ .selectRow index :: later ∧
    (h.run e earlier).session.activeTree? = some t ∧
    ∀ between rest, later = between ++ rest →
      (h.run e (earlier ++ .selectRow index :: between)).session.activeNode = some node

theorem LastSelected.activeNode (hlast : h.LastSelected e ops node t) :
    (h.run e ops).session.activeNode = some node := by
  obtain ⟨earlier, index, later, rfl, -, hsince⟩ := hlast.selected
  exact hsince later [] (List.append_nil _).symm

theorem LastSelected.mem_treesIn (hlast : h.LastSelected e ops node t) (later : List Op) :
    t ∈ h.treesIn e (ops ++ later) := by
  obtain ⟨earlier, index, between, rfl, htree, -⟩ := hlast.selected
  rw [List.append_assoc]
  exact mem_treesIn_append earlier _ htree

/-- A row that is selected now is the last one. -/
theorem lastSelected_concat {index : Nat} (htree : (h.run e ops).session.activeTree? = some t)
    (hnode : t.HasNode node)
    (hactive : (h.run e (ops ++ [.selectRow index])).session.activeNode = some node) :
    h.LastSelected e (ops ++ [.selectRow index]) node t := by
  refine ⟨hnode, ops, index, [], rfl, htree, fun between rest hsplit => ?_⟩
  obtain ⟨rfl, -⟩ := List.append_eq_nil_iff.1 hsplit.symm
  exact hactive

/-- An operation that leaves the active node as it is selects no other row. -/
theorem LastSelected.concat (hlast : h.LastSelected e ops node t)
    (hsame : (h.run e (ops ++ [op])).session.activeNode = (h.run e ops).session.activeNode) :
    h.LastSelected e (ops ++ [op]) node t := by
  have hnow := hsame.trans hlast.activeNode
  obtain ⟨hnode, earlier, index, later, rfl, htree, hsince⟩ := hlast
  refine ⟨hnode, earlier, index, later ++ [op], by simp, htree, fun between rest hsplit => ?_⟩
  rcases List.eq_nil_or_concat rest with rfl | ⟨rest, last, rfl⟩
  · rw [List.append_nil] at hsplit
    rw [← hsplit]
    simpa using hnow
  · rw [List.concat_eq_append, ← List.append_assoc] at hsplit
    exact hsince between rest (List.append_inj_left' hsplit rfl)

/-- The cursor was never moved in a run if no operation moves it. -/
theorem lastSelection?_eq_none_iff : lastSelection? ops = none ↔ ∀ op ∈ ops, op.selection? = none := by
  rw [lastSelection?, List.getLast?_eq_none_iff, List.filterMap_eq_nil_iff]

/-- Once the cursor has been moved, taking rows over finds the active node in the tree. -/
theorem Tracked.hasNode_of_mem_takenBy {started : List Job} (ht : Tracked started h)
    (hmem : rows ∈ h.takenBy e op) {selection : Range}
    (hselection : h.session.selection = some selection)
    (htree : (h.step e op).1.session.activeTree? = some t)
    (hnode : (h.step e op).1.session.activeNode = some node) : t.HasNode node := by
  obtain ⟨t', htree'⟩ := ht.exists_tree_receiving hmem
  have hsome : (h.receiving op).selection = some selection :=
    (cursor_receiving h op).1.trans hselection
  rw [session_eq_takeOver hmem, Session.activeTree?_takeOver, htree'] at htree
  cases htree
  rw [session_eq_takeOver hmem, Session.takeOver_eq htree'] at hnode
  simp only [Session.nodeIn, hsome, Option.some.injEq] at hnode
  obtain ⟨m, hm, hinfo, -⟩ := Node.exists_node_of_atRange t.root selection
    (h.receiving op).options.showAnonymous
  exact ⟨m, hm, hinfo.trans hnode⟩

/-- Without movements of the cursor, taking rows over leaves the active node as it is. -/
theorem Tracked.activeNode_of_mem_takenBy {started : List Job} (ht : Tracked started h)
    (hmem : rows ∈ h.takenBy e op) (hselection : h.session.selection = none) :
    (h.step e op).1.session.activeNode = h.session.activeNode := by
  obtain ⟨t, htree⟩ := ht.exists_tree_receiving hmem
  obtain ⟨hsame, hnode⟩ := cursor_receiving h op
  have hnone : (h.receiving op).selection = none := hsame.trans hselection
  rw [session_eq_takeOver hmem, Session.takeOver_eq htree]
  simp only [Session.nodeIn, hnone, hnode]

/-- As long as the cursor has not been moved, an active node is the one that a row was selected for
last. -/
theorem activeNode_of_unmoved {started : List Job} (ht : Tracked started h)
    (hselection : h.session.selection = none) (hnone : h.session.activeNode = none)
    (hunmoved : lastSelection? ops = none) :
    (h.run e ops).session.activeNode = none ∨ ∃ node t, h.LastSelected e ops node t := by
  induction ops using List.reverseRecOn with
  | nil => exact .inl hnone
  | append_singleton ops op ih =>
    rw [lastSelection?_eq_none_iff, List.forall_mem_append, List.forall_mem_singleton] at hunmoved
    obtain ⟨hops, hop⟩ := hunmoved
    have hops := lastSelection?_eq_none_iff.2 hops
    -- what is left as it was, is as the operations before have left it
    have hkept : (h.run e (ops ++ [op])).session.activeNode = (h.run e ops).session.activeNode →
        (h.run e (ops ++ [op])).session.activeNode = none ∨
          ∃ node t, h.LastSelected e (ops ++ [op]) node t := by
      intro hsame
      rcases ih hops with hnone | ⟨node, t, hlast⟩
      · exact .inl (hsame.trans hnone)
      · exact .inr ⟨node, t, hlast.concat hsame⟩
    rcases session_step_cases e (h.run e ops) op with ⟨rows, hmem, -⟩ | ⟨-, hturn⟩
    · refine hkept ?_
      rw [run_concat]
      refine (ht.run ops).activeNode_of_mem_takenBy hmem ?_
      rw [selection_run, hops, Option.none_or, hselection]
    · rcases hturn.effect.activeNode hop with hsame | hgone | ⟨index, t, node, rfl, htree, hnode, heq⟩
      · exact hkept (by rw [run_concat, hsame])
      · exact .inl (by rw [run_concat, hgone])
      · exact .inr ⟨node, t, lastSelected_concat htree hnode (by rw [run_concat, heq])⟩

theorem activeNode_opened (document : Document) (nextTree : Nat) (snapshot : Snapshot)
    (options : SessionOptions) :
    (opened document nextTree snapshot options).session.activeNode = none := by
  obtain ⟨visible, hstart⟩ := exists_session_opened_eq document nextTree snapshot options
  rw [hstart]

/-- **The active node once rows are taken over.** After any run of a host, let an operation take
rows over. They are rows of the active layer's tree.

* An active node is a node of that tree, unless the cursor was never moved and the node is the one
  that a row was selected for last, while another tree was active.
* In that case the node stays the active one, and if trees have no ids in common it is not a node of
  the tree. -/
theorem active_node_after_taking_over (e : Engine) (document : Document) (nextTree : Nat)
    (snapshot : Snapshot) (options : SessionOptions) (ops : List Op) (op : Op) (rows : RowSequence)
    (hmem : rows ∈ ((opened document nextTree snapshot options).run e ops).takenBy e op) :
    let h₀ := opened document nextTree snapshot options
    let s := ((h₀.run e ops).step e op).1.session
    ∃ t, s.activeTree? = some t ∧ s.rows = rows ∧
      rows.rows = t.copy.root.rows s.options.showAnonymous 0 ∧
      (∀ node, s.activeNode = some node → t.HasNode node ∨
        lastSelection? ops = none ∧ ∃ t', t' ≠ t ∧ h₀.LastSelected e ops node t') ∧
      ∀ node t', lastSelection? ops = none → t' ≠ t → h₀.LastSelected e ops node t' →
        s.activeNode = some node ∧
        (SyntaxTree.IdsApart (h₀.treesIn e (ops ++ [op])) → ¬ t.HasNode node) := by
  intro h₀ s
  have hopened : Tracked [] h₀ := tracked_opened document nextTree snapshot options
  have htracked : Tracked _ (h₀.run e ops) := hopened.run ops
  have hselection : (h₀.run e ops).session.selection = lastSelection? ops := by
    rw [selection_run, selection_opened, Option.or_none]
  obtain ⟨hrows, t, htree, hshown⟩ := htracked.rows_eq_of_mem_takenBy hmem
  have hkept : lastSelection? ops = none → s.activeNode = (h₀.run e ops).session.activeNode :=
    fun hunmoved => htracked.activeNode_of_mem_takenBy hmem (hselection.trans hunmoved)
  refine ⟨t, htree, hrows, hshown, fun node hnode => ?_, fun node t' hunmoved hne hlast => ?_⟩
  · cases hmoved : lastSelection? ops with
    | some selection =>
      exact .inl (htracked.hasNode_of_mem_takenBy hmem (hselection.trans hmoved) htree hnode)
    | none =>
      rcases activeNode_of_unmoved (e := e) hopened (selection_opened _ _ _ _)
        (activeNode_opened _ _ _ _) hmoved with hnone | ⟨node', t', hlast⟩
      · rw [hkept hmoved, hnone] at hnode
        cases hnode
      · rw [hkept hmoved, hlast.activeNode] at hnode
        cases hnode
        by_cases hsame : t' = t
        · exact .inl (hsame ▸ hlast.hasNode)
        · exact .inr ⟨rfl, t', hsame, hlast⟩
  · refine ⟨(hkept hunmoved).trans hlast.activeNode, fun hids hnode => hne ?_⟩
    have hactive : t ∈ h₀.treesIn e (ops ++ [op]) := by
      have hnow := mem_treesIn_append (e := e) (h := h₀) (t := t) (ops ++ [op]) []
      rw [run_concat, List.append_nil] at hnow
      exact hnow htree
    exact hids.eq_of_hasNode (hlast.mem_treesIn [op]) hactive hlast.hasNode hnode

/-- The array is rendered, its number selected by its row, and the document parsed anew. -/
def selectedBefore : List Op :=
  [.update, .selectRow 2, .change (arraySnapshot (some (arrayTree 1)))]

/-- Once the cursor is moved, the node is found in the new tree. -/
theorem active_node_after_taking_over_arrayDocument :
    let h := (opened arrayDocument 1 arrayDocument.snapshot {}).run arrayEngine
      (selectedBefore ++ [.moveCursor ⟨⟨0, 1⟩, ⟨0, 2⟩⟩])
    (∃ rows, rows ∈ h.takenBy arrayEngine .update) ∧
    ∃ t node, (h.step arrayEngine .update).1.session.activeTree? = some t ∧
      (h.step arrayEngine .update).1.session.activeNode = some node ∧ t.HasNode node := by
  intro h
  obtain ⟨t, htree, -, -, hnode, -⟩ := active_node_after_taking_over arrayEngine arrayDocument 1
    arrayDocument.snapshot {} (selectedBefore ++ [.moveCursor ⟨⟨0, 1⟩, ⟨0, 2⟩⟩]) .update _
    (List.Mem.head _)
  refine ⟨⟨_, List.Mem.head _⟩, t, _, htree, rfl, (hnode _ rfl).resolve_right ?_⟩
  rintro ⟨hunmoved, -⟩
  cases hunmoved

/-- The node that a row of the old tree was selected for is still the active one when rows of the
new tree have been taken over. -/
theorem active_node_of_replaced_tree :
    let h := (opened arrayDocument 1 arrayDocument.snapshot {}).run arrayEngine selectedBefore
    let s := (h.step arrayEngine .update).1.session
    SyntaxTree.IdsApart ((opened arrayDocument 1 arrayDocument.snapshot {}).treesIn arrayEngine
      (selectedBefore ++ [.update])) ∧
    ∃ rows ∈ h.takenBy arrayEngine .update, s.rows = rows ∧
      s.activeTree? = some (arrayTree 1) ∧
      ∃ node, s.activeNode = some node ∧ node.id = .inner 0 3 ∧ ¬ (arrayTree 1).HasNode node := by
  intro h s
  have hids : SyntaxTree.IdsApart
      [arrayTree 0, arrayTree 0, arrayTree 0, arrayTree 1, arrayTree 1] :=
    idsApart_arrayTree.subset (by simp)
  exact ⟨hids, _, List.Mem.head _, rfl, rfl,
    ⟨.inner 0 3, "number", true, false, ⟨⟨0, 1⟩, ⟨0, 2⟩⟩⟩, rfl, rfl, by decide⟩

end Host

end SyntaxInspector
