import SyntaxInspector.Proofs.Render.Clicks
import SyntaxInspector.Proofs.Session.Highlights

/-!
# Selected rows and the nodes they show

Rows outlive the tree they were rendered from: a layer that is kept keeps its rows when it gets
another tree. Nothing is remembered of the tree, and yet a row never leads to the wrong node, as
long as different trees have no ids in common.

* `SyntaxTree.IdsApart` — what is asked of the ids;
* `Host.treesIn` — the trees that are active in a run;
* `Host.LastTaken` — the tree behind the last rows taken over;
* `Host.selected_rows_lead_to_their_nodes` — all runs of a host.
-/

namespace SyntaxInspector

/-! ### Ids of trees and rows -/

namespace SyntaxTree

/-- The ids that belong to a tree: those of its nodes, and the one that the root of its copy has. -/
def ownIds (t : SyntaxTree) : List NodeId := t.copy.root.data.id :: t.root.ids

/-- Ids are unique within each tree, and different trees have none in common. -/
structure IdsApart (trees : List SyntaxTree) : Prop where
  nodup : ∀ t ∈ trees, t.ownIds.Nodup
  apart : ∀ t ∈ trees, ∀ t' ∈ trees, ∀ id ∈ t.ownIds, id ∈ t'.ownIds → t = t'

variable {t t' : SyntaxTree} {trees : List SyntaxTree} {shown : Bool} {row : Row} {p : Point}
  {node : NodeInfo}

theorem IdsApart.subset {trees' : List SyntaxTree} (h : IdsApart trees) (hsub : trees' ⊆ trees) :
    IdsApart trees' where
  nodup t ht := h.nodup t (hsub ht)
  apart t ht t' ht' := h.apart t (hsub ht) t' (hsub ht')

/-- A copy has the nodes of the tree but for its root. -/
theorem eq_or_mem_of_mem_copy {n : Node} (h : n ∈ t.copy.root.preorder) :
    n = t.copy.root ∨ n ∈ t.root.preorder := by
  obtain ⟨number, ⟨d, cs⟩, detours⟩ := t
  simp only [copy, Node.withData, Node.preorder, Node.children_mk, List.mem_cons] at h ⊢
  rcases h with hroot | hbelow
  · exact .inl hroot
  · exact .inr (.inr hbelow)

/-- A row of the copy shows a node of the tree, or the root of the copy. -/
theorem exists_of_mem_rows_copy (h : row ∈ t.copy.root.rows shown 0) :
    ∃ c : Cursor, c.top = t.copy.root ∧ c.visit.row? shown = some row ∧ row.id = c.data.id ∧
      row.range = c.data.range ∧ (c.focus = t.copy.root ∨ c.focus ∈ t.root.preorder) := by
  obtain ⟨c, htop, hshows⟩ := Cursor.exists_of_mem_rows h
  obtain ⟨hid, hrange⟩ := Visit.id_range_of_row? hshows
  have hfocus := c.focus_mem_preorder_top
  rw [htop] at hfocus
  exact ⟨c, htop, hshows, hid, hrange, eq_or_mem_of_mem_copy hfocus⟩

theorem id_mem_ownIds_of_mem_rows (h : row ∈ t.copy.root.rows shown 0) : row.id ∈ t.ownIds := by
  obtain ⟨c, -, -, hid, -, hroot | hbelow⟩ := exists_of_mem_rows_copy h
  · rw [hid, Cursor.data, hroot]
    exact List.mem_cons_self
  · rw [hid]
    exact List.mem_cons_of_mem _ (List.mem_map_of_mem hbelow)

/-- A row that leads to a node of its own tree leads to the node it shows. -/
theorem exists_of_withIdAt? (hids : t.ownIds.Nodup) (hrow : row ∈ t.copy.root.rows shown 0)
    (hfound : t.root.withIdAt? p row.id = some node) :
    ∃ c : Cursor, c.top = t.copy.root ∧ c.visit.row? shown = some row ∧
      c.focus ∈ t.root.preorder ∧ row.range = c.data.range ∧ node = c.data.info := by
  obtain ⟨hcopy, hnodup⟩ := List.nodup_cons.1 hids
  obtain ⟨m, hm, hmid, rfl⟩ := Node.exists_node_of_withIdAt? hfound
  obtain ⟨c, htop, hshows, hid, hrange, hroot | hbelow⟩ := exists_of_mem_rows_copy hrow
  · -- the root of the copy is not found in the tree
    refine absurd ?_ hcopy
    rw [← hroot, show c.focus.data.id = m.data.id from (hmid.trans hid).symm]
    exact List.mem_map_of_mem hm
  · refine ⟨c, htop, hshows, hbelow, hrange, ?_⟩
    rw [Node.data_eq_of_id_eq hnodup hm hbelow (hmid.trans hid)]
    rfl

/-- A row leads to no tree but its own. -/
theorem IdsApart.eq_of_withIdAt? (h : IdsApart trees) (ht : t ∈ trees) (ht' : t' ∈ trees)
    (hrow : row ∈ t.copy.root.rows shown 0) (hfound : t'.root.withIdAt? p row.id = some node) :
    t = t' := by
  obtain ⟨m, hm, hmid, -⟩ := Node.exists_node_of_withIdAt? hfound
  have hid : row.id ∈ t'.ownIds := by
    rw [← hmid]
    exact List.mem_cons_of_mem _ (List.mem_map_of_mem hm)
  exact h.apart t ht t' ht' row.id (id_mem_ownIds_of_mem_rows hrow) hid

/-- No tree but their own has its nodes among rows. -/
theorem IdsApart.rowOf?_eq_none (h : IdsApart trees) (ht : t ∈ trees) (ht' : t' ∈ trees)
    (hne : t ≠ t') {rows : RowSequence} (hrows : rows.rows = t.copy.root.rows shown 0)
    (selection : Range) (anonymous : Bool) :
    rows.rowOf? (t'.root.atRange selection anonymous).id = none := by
  obtain ⟨m, hm, hinfo, -⟩ := Node.exists_node_of_atRange t'.root selection anonymous
  rw [RowSequence.rowOf?_eq_none_iff, hrows, ← hinfo]
  intro row hrow hid
  refine hne (h.apart t ht t' ht' row.id (id_mem_ownIds_of_mem_rows hrow) ?_)
  rw [hid]
  exact List.mem_cons_of_mem _ (List.mem_map_of_mem hm)

end SyntaxTree

/-! ### Rows of a session -/

namespace Session

variable {e : Engine} {s s' : Session} {op : Op}

/-- A row is selected if its node is found in the active layer's tree, and refused otherwise. -/
theorem selectRow_cases (s : Session) (index : Nat) :
    (∃ row t node, s.rows.get? index = some row ∧ s.activeTree? = some t ∧
      t.root.withIdAt? row.range.start row.id = some node ∧
      (s.selectRow index).2 = .ok node.range ∧
      (s.selectRow index).1.activeNode = some node ∧
      (s.selectRow index).1.highlightedRow = some index) ∨
    ∃ err, (s.selectRow index).2 = .error err ∧
      (err = .noActiveTree s.activeLayer.id ∨ ∃ l, err = .nodeNotFound l) := by
  have htree : activeTree? { s with pendingEcho := none } = s.activeTree? := activeTree?_congr rfl
  unfold selectRow
  dsimp only
  rw [htree]
  cases hrow : s.rows.get? index with
  | none => exact .inr ⟨_, rfl, .inr ⟨_, rfl⟩⟩
  | some row =>
    cases ht : s.activeTree? with
    | none => exact .inr ⟨_, rfl, .inl rfl⟩
    | some t =>
      dsimp only
      cases hfound : t.root.withIdAt? row.range.start row.id with
      | none => exact .inr ⟨_, rfl, .inr ⟨_, rfl⟩⟩
      | some node => exact .inl ⟨row, t, node, rfl, rfl, hfound, rfl, rfl, rfl⟩

section

variable {trees : List SyntaxTree} {t : SyntaxTree} {shown : Bool}

/-- Rows of a tree lead to nodes of that tree only, and to the nodes they show. -/
theorem selectRow_leads (hids : SyntaxTree.IdsApart trees) (ht : t ∈ trees)
    (hactive : ∀ t', s.activeTree? = some t' → t' ∈ trees)
    (hrows : s.rows.rows = t.copy.root.rows shown 0) {index : Nat} {range : Range}
    (hok : (s.selectRow index).2 = .ok range) :
    ∃ row, s.activeTree? = some t ∧ s.rows.get? index = some row ∧ range = row.range ∧
      (s.selectRow index).1.highlightedRow = some index ∧
      ∃ c : Cursor, c.top = t.copy.root ∧ c.visit.row? shown = some row ∧
        c.focus ∈ t.root.preorder ∧ (s.selectRow index).1.activeNode = some c.data.info := by
  rcases selectRow_cases s index with
    ⟨row, t', node, hget, htree, hfound, hrange, hnode, hrow⟩ | ⟨err, herr, -⟩
  · have hmem : row ∈ t.copy.root.rows shown 0 := by
      rw [← hrows]
      exact List.mem_of_getElem? hget
    obtain rfl : t = t' := hids.eq_of_withIdAt? ht (hactive t' htree) hmem hfound
    obtain ⟨c, htop, hshows, hfocus, hcrange, rfl⟩ :=
      SyntaxTree.exists_of_withIdAt? (hids.nodup t ht) hmem hfound
    refine ⟨row, htree, hget, ?_, hrow, c, htop, hshows, hfocus, hnode⟩
    rw [hcrange]
    exact (Except.ok.inj (hrange.symm.trans hok)).symm
  · rw [herr] at hok
    cases hok

/-- Rows of a tree that is not active any more cannot be selected. -/
theorem selectRow_refused (hids : SyntaxTree.IdsApart trees) (ht : t ∈ trees)
    (hactive : ∀ t', s.activeTree? = some t' → t' ∈ trees)
    (hrows : s.rows.rows = t.copy.root.rows shown 0 ∨ s.rows.rows = [])
    (hother : s.activeTree? ≠ some t) (index : Nat) :
    ∃ err, (s.selectRow index).2 = .error err ∧
      (err = .noActiveTree s.activeLayer.id ∨ ∃ l, err = .nodeNotFound l) := by
  rcases selectRow_cases s index with ⟨row, t', node, hget, -, -, hok, -⟩ | hrefused
  · rcases hrows with hrows | hempty
    · obtain ⟨-, htree, -⟩ := selectRow_leads hids ht hactive hrows hok
      exact absurd htree hother
    · exact absurd hempty (List.ne_nil_of_mem (List.mem_of_getElem? hget))
  · exact hrefused

/-- Nor do they show the node under the cursor. -/
theorem moveCursor_of_other_tree (hids : SyntaxTree.IdsApart trees) (ht : t ∈ trees)
    (hactive : ∀ t', s.activeTree? = some t' → t' ∈ trees)
    (hrows : s.rows.rows = t.copy.root.rows shown 0 ∨ s.rows.rows = [])
    (hother : s.activeTree? ≠ some t) {selection : Range} (hecho : s.pendingEcho ≠ some selection)
    (hflight : s.inFlight = none) (hsome : s.activeTree?.isSome = true) :
    (s.moveCursor selection).2 = none := by
  obtain ⟨t', htree⟩ := Option.isSome_iff_exists.1 hsome
  rw [moveCursor_of_tree hecho hflight htree]
  rcases hrows with hrows | hempty
  · have hne : t ≠ t' := by
      rintro rfl
      exact hother htree
    exact hids.rowOf?_eq_none ht (hactive t' htree) hne hrows selection _
  · refine RowSequence.rowOf?_eq_none_iff.2 ?_
    rw [hempty]
    exact List.forall_mem_nil _

end

/-- Rows that are not replaced stay, or vanish with their layer. -/
theorem Effect.rows (h : s.Effect e op s') : s'.rows = s.rows ∨ s'.rows.rows = [] := by
  cases h with
  | spares _ h =>
    obtain ⟨text, registry, options, counter, inFlight, overlay, events, rfl⟩ := h
    exact .inl rfl
  | leaves _ h =>
    obtain ⟨text, registry, options, overlay, events, rfl⟩ := h
    exact .inr rfl
  | compileQuery source =>
    obtain ⟨status, marks, query, highlights, resolver, heq⟩ := exists_compileQuery_eq s e source
    rw [heq]
    exact .inl rfl
  | runQuery bounds =>
    obtain ⟨highlights, resolver, heq⟩ := exists_runQuery_eq s e bounds
    rw [heq]
    exact .inl rfl
  | clearQuery => exact .inl rfl
  | moveCursor selection =>
    obtain ⟨node, row, heq⟩ := exists_moveCursor_eq s selection
    rw [heq]
    exact .inl rfl
  | selectRow index =>
    obtain ⟨node, row, echo, heq⟩ := exists_selectRow_eq s index
    rw [heq]
    exact .inl rfl

end Session

/-! ### Runs -/

namespace Host

variable {e : Engine} {h : Host} {ops : List Op} {rows : RowSequence} {t : SyntaxTree}
  {started : List Job}

/-- The trees that the active layer has in a run, from the start to the end. -/
def treesIn (e : Engine) : Host → List Op → List SyntaxTree
  | h, [] => h.session.activeTree?.toList
  | h, op :: ops => h.session.activeTree?.toList ++ treesIn e (h.step e op).1 ops

theorem mem_treesIn_start (e : Engine) (ops : List Op) (ht : h.session.activeTree? = some t) :
    t ∈ h.treesIn e ops := by
  cases ops <;> simp [treesIn, ht]

theorem mem_treesIn_append (ops later : List Op) (ht : (h.run e ops).session.activeTree? = some t) :
    t ∈ h.treesIn e (ops ++ later) := by
  induction ops generalizing h with
  | nil => exact mem_treesIn_start e later ht
  | cons op ops ih => exact List.mem_append_right _ (ih ht)

/-- Rows stay or vanish as long as no others are taken over. -/
theorem rows_run (h : Host) (ops : List Op) (hnone : h.takenIn e ops = []) :
    (h.run e ops).session.rows = h.session.rows ∨ (h.run e ops).session.rows.rows = [] := by
  induction ops generalizing h with
  | nil => exact .inl rfl
  | cons op ops ih =>
    obtain ⟨hnow, hlater⟩ := List.append_eq_nil_iff.1 hnone
    rcases ih (h.step e op).1 hlater with heq | hgone
    · rcases (turn_of_takenBy_eq_nil hnow).effect.rows with hsame | hgone
      · exact .inl (heq.trans hsame)
      · refine .inr ?_
        rw [run_cons, heq]
        exact hgone
    · exact .inr hgone

/-- The last rows that a run takes over, and the tree that the active layer has then. -/
def LastTaken (e : Engine) (h : Host) (ops : List Op) (rows : RowSequence) (t : SyntaxTree) :
    Prop :=
  ∃ earlier op later, ops = earlier ++ op :: later ∧ rows ∈ (h.run e earlier).takenBy e op ∧
    ((h.run e earlier).step e op).1.session.activeTree? = some t ∧
    ((h.run e earlier).step e op).1.takenIn e later = []

/-- A run takes no rows over, or takes some over last. -/
theorem Tracked.exists_lastTaken (ht : Tracked started h) (ops : List Op) :
    h.takenIn e ops = [] ∨ ∃ rows t, h.LastTaken e ops rows t := by
  induction ops generalizing started h with
  | nil => exact .inl rfl
  | cons op ops ih =>
    rcases ih (ht.step (e := e) op) with hlater | ⟨rows, t, earlier, op', later, rfl, hlast⟩
    · -- nothing comes later, so this operation is the last chance
      cases hnow : h.takenBy e op with
      | nil => exact .inl (by rw [takenIn, hnow, hlater]; rfl)
      | cons rows rest =>
        have hmem : rows ∈ h.takenBy e op := by rw [hnow]; exact List.mem_cons_self
        obtain ⟨-, t, htree, -⟩ := ht.rows_eq_of_mem_takenBy hmem
        exact .inr ⟨rows, t, [], op, ops, rfl, hmem, htree, hlater⟩
    · exact .inr ⟨rows, t, op :: earlier, op', later, rfl, hlast⟩

theorem LastTaken.mem_treesIn (hlast : h.LastTaken e ops rows t) : t ∈ h.treesIn e ops := by
  obtain ⟨earlier, op, later, rfl, -, htree, -⟩ := hlast
  rw [← run_concat] at htree
  simpa using mem_treesIn_append (earlier ++ [op]) later htree

/-- The last rows taken over are those of the tree. -/
theorem Tracked.rows_of_lastTaken (ht : Tracked started h) (hlast : h.LastTaken e ops rows t) :
    ∃ shown, rows.rows = t.copy.root.rows shown 0 := by
  obtain ⟨earlier, op, later, rfl, hmem, htree, -⟩ := hlast
  obtain ⟨-, t', htree', hrows⟩ := (ht.run (e := e) earlier).rows_eq_of_mem_takenBy hmem
  obtain rfl : t = t' := Option.some.inj (htree.symm.trans htree')
  exact ⟨_, hrows⟩

/-- The last rows taken over are the rows of the session, unless they are gone. -/
theorem LastTaken.rows_eq (hlast : h.LastTaken e ops rows t) :
    (h.run e ops).session.rows = rows ∨ (h.run e ops).session.rows.rows = [] := by
  obtain ⟨earlier, op, later, rfl, hmem, -, hnone⟩ := hlast
  rw [run_append, run_cons]
  rcases rows_run _ later hnone with heq | hgone
  · exact .inl (heq.trans (rows_of_mem_takenBy hmem))
  · exact .inr hgone

theorem rows_opened (document : Document) (nextTree : Nat) (snapshot : Snapshot)
    (options : SessionOptions) :
    (opened document nextTree snapshot options).session.rows = {} := by
  obtain ⟨visible, hstart⟩ := exists_session_opened_eq document nextTree snapshot options
  rw [hstart]

/-- A row of the session was taken over with the last rows. -/
theorem exists_lastTaken_of_get? {document : Document} {nextTree : Nat} {snapshot : Snapshot}
    {options : SessionOptions} {index : Nat} {row : Row}
    (hget : ((opened document nextTree snapshot options).run e ops).session.rows.get? index =
      some row) :
    ∃ t, (opened document nextTree snapshot options).LastTaken e ops
      ((opened document nextTree snapshot options).run e ops).session.rows t := by
  have hne : ((opened document nextTree snapshot options).run e ops).session.rows.rows ≠ [] :=
    List.ne_nil_of_mem (List.mem_of_getElem? hget)
  rcases (tracked_opened document nextTree snapshot options).exists_lastTaken (e := e) ops with
    hnone | ⟨rows, t, hlast⟩
  · rcases rows_run _ ops hnone with heq | hgone
    · rw [rows_opened] at heq
      exact absurd (congrArg RowSequence.rows heq) hne
    · exact absurd hgone hne
  · rcases hlast.rows_eq with heq | hgone
    · exact ⟨t, heq.symm ▸ hlast⟩
    · exact absurd hgone hne

/-- **A selected row leads to the node it shows.** Let ids be unique within each tree that the
active layer has in a run, and no two of these trees have one in common. After the run:

* if a row is selected, the rows are the last ones taken over and come from the tree that is now
  active; the range handed out is the row's, the active node is the node that the row shows, and
  the row is highlighted;
* if the tree that is now active, if any, is not the one behind the last rows taken over, then
  every selection of a row is refused, and a movement of the cursor that is followed highlights no
  row. -/
theorem selected_rows_lead_to_their_nodes (e : Engine) (document : Document) (nextTree : Nat)
    (snapshot : Snapshot) (options : SessionOptions) (ops : List Op)
    (hids : SyntaxTree.IdsApart ((opened document nextTree snapshot options).treesIn e ops)) :
    let h₀ := opened document nextTree snapshot options
    let s := (h₀.run e ops).session
    (∀ index range, (s.selectRow index).2 = .ok range →
      ∃ t shown row, s.activeTree? = some t ∧ h₀.LastTaken e ops s.rows t ∧
        s.rows.rows = t.copy.root.rows shown 0 ∧ s.rows.get? index = some row ∧
        range = row.range ∧ (s.selectRow index).1.highlightedRow = some index ∧
        ∃ c : Cursor, c.top = t.copy.root ∧ c.visit.row? shown = some row ∧
          c.focus ∈ t.root.preorder ∧
          (s.selectRow index).1.activeNode = some c.data.info) ∧
    (∀ rows t, h₀.LastTaken e ops rows t → s.activeTree? ≠ some t →
      (∀ index, ∃ err, (s.selectRow index).2 = .error err ∧
        (err = .noActiveTree s.activeLayer.id ∨ ∃ l, err = .nodeNotFound l)) ∧
      (∀ selection, s.pendingEcho ≠ some selection → s.inFlight = none →
        s.activeTree?.isSome = true → (s.moveCursor selection).2 = none)) := by
  intro h₀ s
  have htracked : Tracked [] h₀ := tracked_opened document nextTree snapshot options
  have hactive : ∀ t', s.activeTree? = some t' → t' ∈ h₀.treesIn e ops := by
    intro t' htree
    simpa using mem_treesIn_append ops [] htree
  refine ⟨?_, ?_⟩
  · intro index range hok
    obtain ⟨t, hlast⟩ : ∃ t, h₀.LastTaken e ops s.rows t := by
      rcases Session.selectRow_cases s index with ⟨row, -, -, hget, -⟩ | ⟨err, herr, -⟩
      · exact exists_lastTaken_of_get? hget
      · rw [herr] at hok
        cases hok
    obtain ⟨shown, hrows⟩ := htracked.rows_of_lastTaken hlast
    obtain ⟨row, htree, hget, hrange, hrow, hnode⟩ :=
      Session.selectRow_leads hids hlast.mem_treesIn hactive hrows hok
    exact ⟨t, shown, row, htree, hlast, hrows, hget, hrange, hrow, hnode⟩
  · intro rows t hlast hother
    obtain ⟨shown, hrows⟩ := htracked.rows_of_lastTaken hlast
    have hnow : s.rows.rows = t.copy.root.rows shown 0 ∨ s.rows.rows = [] := by
      rcases hlast.rows_eq with heq | hgone
      · exact .inl ((congrArg RowSequence.rows heq).trans hrows)
      · exact .inr hgone
    refine ⟨Session.selectRow_refused hids hlast.mem_treesIn hactive hnow hother, ?_⟩
    intro selection hecho hflight hsome
    exact Session.moveCursor_of_other_tree hids hlast.mem_treesIn hactive hnow hother hecho hflight
      hsome

theorem idsApart_arrayTree : SyntaxTree.IdsApart [arrayTree 0, arrayTree 1] := by
  have hapart : ∀ id ∈ (arrayTree 0).ownIds, id ∉ (arrayTree 1).ownIds := by decide
  constructor
  · rintro t (_ | ⟨_, _ | ⟨_, ⟨⟩⟩⟩)
    · decide
    · decide
  · rintro t (_ | ⟨_, _ | ⟨_, ⟨⟩⟩⟩) t' (_ | ⟨_, _ | ⟨_, ⟨⟩⟩⟩) id hid hid'
    · rfl
    · exact absurd hid' (hapart id hid)
    · exact absurd hid (hapart id hid')
    · rfl

/-- The array is rendered, then parsed anew. -/
def reparsedArray : List Op := [.update, .change (arraySnapshot (some (arrayTree 1)))]

/-- The number is selected by its row, but not after the array has been parsed anew. -/
theorem selected_rows_lead_to_their_nodes_arrayDocument :
    let rendered := ((Host.start arrayDocument 1 {}).run arrayEngine [.update]).session
    let reparsed := ((Host.start arrayDocument 1 {}).run arrayEngine reparsedArray).session
    SyntaxTree.IdsApart ((Host.start arrayDocument 1 {}).treesIn arrayEngine reparsedArray) ∧
    (rendered.selectRow 2).2 = .ok ⟨⟨0, 1⟩, ⟨0, 2⟩⟩ ∧
    (∃ t, rendered.activeTree? = some t ∧ ∃ c : Cursor, c.top = t.copy.root ∧
      (rendered.selectRow 2).1.activeNode = some c.data.info) ∧
    ∃ err, (reparsed.selectRow 2).2 = .error err ∧
      (err = .noActiveTree reparsed.activeLayer.id ∨ ∃ l, err = .nodeNotFound l) := by
  have hrendered : SyntaxTree.IdsApart [arrayTree 0, arrayTree 0] :=
    idsApart_arrayTree.subset (by simp)
  have hreparsed : SyntaxTree.IdsApart [arrayTree 0, arrayTree 0, arrayTree 1] :=
    idsApart_arrayTree.subset (by simp)
  refine ⟨hreparsed, by decide, ?_, ?_⟩
  · obtain ⟨t, -, -, htree, -, -, -, -, -, c, htop, -, -, hnode⟩ :=
      (selected_rows_lead_to_their_nodes arrayEngine arrayDocument 1 arrayDocument.snapshot {}
        [.update] hrendered).1 2 ⟨⟨0, 1⟩, ⟨0, 2⟩⟩ (by decide)
    exact ⟨t, htree, c, htop, hnode⟩
  · have hlast : (Host.start arrayDocument 1 {}).LastTaken arrayEngine reparsedArray
        ((Host.start arrayDocument 1 {}).run arrayEngine [.update]).session.rows (arrayTree 0) :=
      ⟨[], .update, [.change (arraySnapshot (some (arrayTree 1)))], rfl, List.Mem.head _, rfl, rfl⟩
    refine ((selected_rows_lead_to_their_nodes arrayEngine arrayDocument 1 arrayDocument.snapshot {}
      reparsedArray hreparsed).2 _ (arrayTree 0) hlast ?_).1 2
    intro heq
    have hnumber := congrArg (Option.map SyntaxTree.number) heq
    exact absurd hnumber (by decide)

end Host

end SyntaxInspector
