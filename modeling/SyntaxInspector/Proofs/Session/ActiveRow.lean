import SyntaxInspector.Proofs.Session.Refreshing
import SyntaxInspector.Proofs.Tree.Descent

/-!
# The highlighted row shows the active node

The highlighted row is an index into the rows, and it is written by operations other than those that
replace the rows. It still always points at a row of the active node: rows are replaced only while
there is a tree to find the active node in again, or together with the node.

* `Session.ShowsActive` — the invariant of a session;
* `Session.Effect.showsActive`, `Session.showsActive_takeOver` — one operation;
* `Host.highlighted_row_shows_active_node` — all runs of a host.
-/

namespace SyntaxInspector

namespace Session

/-- A highlighted row shows the active node. -/
def ShowsActive (s : Session) : Prop :=
  ∀ index, s.highlightedRow = some index →
    ∃ row node, s.rows.get? index = some row ∧ s.activeNode = some node ∧ row.id = node.id

variable {e : Engine} {s s' : Session} {op : Op} {t : SyntaxTree}

theorem showsActive_of_highlightedRow_eq_none (h : s.highlightedRow = none) : s.ShowsActive := by
  intro index hrow
  rw [h] at hrow
  cases hrow

/-- Rows, active node and highlighted row are all that counts. -/
theorem ShowsActive.congr (h : s.ShowsActive) (hrows : s'.rows = s.rows)
    (hnode : s'.activeNode = s.activeNode) (hrow : s'.highlightedRow = s.highlightedRow) :
    s'.ShowsActive := by
  unfold ShowsActive
  rw [hrows, hnode, hrow]
  exact h

/-- Looking the active node up in the rows gives a row that shows it. -/
theorem showsActive_of_lookup
    (h : s.highlightedRow = s.activeNode.bind fun node => s.rows.rowOf? node.id) :
    s.ShowsActive := by
  intro index hrow
  rw [h] at hrow
  obtain ⟨node, hnode, hfound⟩ := Option.bind_eq_some_iff.1 hrow
  obtain ⟨⟨row, hget, hid⟩, -⟩ := RowSequence.rowOf?_eq_some_iff.1 hfound
  exact ⟨row, node, hget, hnode, hid⟩

theorem showsActive_track (h : s.ShowsActive) (selection : Range) :
    (s.track selection).ShowsActive := by
  unfold track
  split
  · exact h
  · exact showsActive_of_lookup rfl

theorem showsActive_moveCursor (h : s.ShowsActive) (selection : Range) :
    (s.moveCursor selection).1.ShowsActive := by
  have hmoved : ShowsActive { s with selection := some selection, pendingEcho := none } :=
    h.congr rfl rfl rfl
  unfold moveCursor
  dsimp only
  split
  · exact hmoved
  · exact showsActive_track hmoved selection

/-- A row that is selected shows the node that it leads to. -/
theorem showsActive_selectRow (h : s.ShowsActive) (index : Nat) :
    (s.selectRow index).1.ShowsActive := by
  rw [selectRow_fst]
  cases hnode : s.rowNode? index with
  | none => exact h.congr rfl rfl rfl
  | some node =>
    obtain ⟨row, hget, hbind⟩ := Option.bind_eq_some_iff.1 hnode
    obtain ⟨t, -, hfound⟩ := Option.bind_eq_some_iff.1 hbind
    obtain ⟨m, -, hid, rfl⟩ := Node.exists_node_of_withIdAt? hfound
    rintro _ ⟨rfl⟩
    exact ⟨row, m.data.info, hget, rfl, hid.symm⟩

/-- Operations that take no rows over. -/
theorem Effect.showsActive (h : s.Effect e op s') (hs : s.ShowsActive) : s'.ShowsActive := by
  cases h with
  | spares _ h =>
    obtain ⟨text, registry, options, counter, inFlight, overlay, events, rfl⟩ := h
    exact hs.congr rfl rfl rfl
  | leaves _ h =>
    obtain ⟨text, registry, options, overlay, events, rfl⟩ := h
    exact showsActive_of_highlightedRow_eq_none rfl
  | compileQuery source =>
    obtain ⟨status, marks, query, highlights, resolver, heq⟩ := exists_compileQuery_eq s e source
    rw [heq]
    exact hs.congr rfl rfl rfl
  | runQuery bounds =>
    obtain ⟨highlights, resolver, heq⟩ := exists_runQuery_eq s e bounds
    rw [heq]
    exact hs.congr rfl rfl rfl
  | clearQuery => exact hs.congr rfl rfl rfl
  | moveCursor selection => exact showsActive_moveCursor hs selection
  | selectRow index => exact showsActive_selectRow hs index

/-- With a tree, new rows are searched for the active node. -/
theorem showsActive_takeOver (ht : s.activeTree? = some t) (rows : RowSequence) :
    (s.takeOver e rows).ShowsActive := by
  rw [takeOver_eq ht]
  exact showsActive_of_lookup rfl

end Session

namespace Host

variable {e : Engine} {h : Host} {started : List Job}

/-- Rows are taken over only if there is a tree, which a render in progress vouches for. -/
theorem Tracked.showsActive_step (ht : Tracked started h) (hs : h.session.ShowsActive) (op : Op) :
    (h.step e op).1.session.ShowsActive := by
  rcases session_step_cases e h op with ⟨rows, hmem, heq⟩ | ⟨-, hturn⟩
  · obtain ⟨t, htree⟩ := ht.exists_tree_receiving hmem
    rw [heq]
    exact Session.showsActive_takeOver htree rows
  · exact hturn.effect.showsActive hs

theorem Tracked.showsActive_run (ht : Tracked started h) (hs : h.session.ShowsActive)
    (ops : List Op) : (h.run e ops).session.ShowsActive := by
  induction ops generalizing started h with
  | nil => exact hs
  | cons op ops ih => exact ih (ht.step op) (ht.showsActive_step hs op)

theorem highlightedRow_opened (document : Document) (nextTree : Nat) (snapshot : Snapshot)
    (options : SessionOptions) :
    (opened document nextTree snapshot options).session.highlightedRow = none := by
  obtain ⟨visible, hstart⟩ := exists_session_opened_eq document nextTree snapshot options
  rw [hstart]

/-- **The highlighted row shows the active node.** After any run of a host, a highlighted row is one
of the rows there are, there is an active node, and the row has the id of that node. -/
theorem highlighted_row_shows_active_node (e : Engine) (document : Document) (nextTree : Nat)
    (snapshot : Snapshot) (options : SessionOptions) (ops : List Op) (index : Nat) :
    let s := ((opened document nextTree snapshot options).run e ops).session
    s.highlightedRow = some index →
      index < s.rows.size ∧ ∃ node, s.activeNode = some node ∧
        ∃ row, s.rows.get? index = some row ∧ row.id = node.id := by
  intro s hrow
  have hs : s.ShowsActive := (tracked_opened document nextTree snapshot options).showsActive_run
    (Session.showsActive_of_highlightedRow_eq_none (highlightedRow_opened _ _ _ _)) ops
  obtain ⟨row, node, hget, hnode, hid⟩ := hs index hrow
  exact ⟨(List.getElem?_eq_some_iff.1 hget).1, node, hnode, row, hget, hid⟩

/-- The cursor is moved to the number while a render goes on, and its row is highlighted. -/
theorem highlighted_row_shows_active_node_arrayDocument :
    let s := ((opened arrayDocument 1 arrayDocument.snapshot {}).run arrayEngine
      (movedMeanwhile ++ [.commit 0])).session
    s.highlightedRow = some 2 ∧ 2 < s.rows.size ∧ ∃ node, s.activeNode = some node ∧
      ∃ row, s.rows.get? 2 = some row ∧ row.id = node.id := by
  intro s
  have hrow : s.highlightedRow = some 2 := by decide +kernel
  have hshows := highlighted_row_shows_active_node arrayEngine arrayDocument 1
    arrayDocument.snapshot {} (movedMeanwhile ++ [.commit 0]) 2
  exact ⟨hrow, hshows hrow⟩

end Host

end SyntaxInspector
