import SyntaxInspector.Proofs.Render.Slices
import SyntaxInspector.Session.Render

/-!
# What the operations of a session change

Each operation changes a few parts of a session and leaves the rest as it is. The lemmas here say
which parts, once for each operation, so that later proofs need not open them. The three parts of a
render are spelt out: the session once it has begun, the job it hands out, and the session once the
rows are taken over.

* `Session.begun`, `Session.renderJob` — the two results of `Session.beginRender`;
* `Session.takeOver` — the session with new rows;
* `Session.update_eq` — a render from start to end.
-/

namespace SyntaxInspector

namespace Session

variable (s : Session)

/-! ### Parts that change -/

theorem exists_track_eq (selection : Range) :
    ∃ node row, s.track selection = { s with activeNode := node, highlightedRow := row } := by
  unfold track
  split
  · exact ⟨s.activeNode, s.highlightedRow, rfl⟩
  · exact ⟨_, _, rfl⟩

theorem exists_moveCursor_eq (selection : Range) :
    ∃ node row, (s.moveCursor selection).1 =
      { s with
        selection := some selection
        pendingEcho := none
        activeNode := node
        highlightedRow := row } := by
  unfold moveCursor
  dsimp only
  split
  · exact ⟨s.activeNode, s.highlightedRow, rfl⟩
  · exact exists_track_eq { s with selection := some selection, pendingEcho := none } selection

section

variable {s} {selection : Range}

/-- A movement that is the echo of a selected row is passed over. -/
theorem moveCursor_of_echo (hecho : s.pendingEcho = some selection) :
    s.moveCursor selection =
      ({ s with selection := some selection, pendingEcho := none }, s.highlightedRow) := by
  have hpassed : ((s.pendingEcho == some selection) || s.inFlight.isSome) = true := by
    simp [hecho]
  unfold moveCursor
  simp only [hpassed, if_true]

/-- A movement that is followed makes the node under the cursor the active one. -/
theorem moveCursor_of_tree {t : SyntaxTree} (hecho : s.pendingEcho ≠ some selection)
    (hflight : s.inFlight = none) (ht : s.activeTree? = some t) :
    let node := t.root.atRange selection s.options.showAnonymous
    s.moveCursor selection =
      ({ s with
        selection := some selection
        pendingEcho := none
        activeNode := some node
        highlightedRow := s.rows.rowOf? node.id }, s.rows.rowOf? node.id) := by
  have htree : activeTree? { s with selection := some selection, pendingEcho := none } = some t :=
    ht
  have hfollowed : ((s.pendingEcho == some selection) || s.inFlight.isSome) = false := by
    simp [hecho, hflight]
  unfold moveCursor
  simp only [hfollowed, track, htree, Bool.false_eq_true, if_false]

end

/-- The node that a row shows, in the active layer's tree. -/
def rowNode? (index : Nat) : Option NodeInfo :=
  (s.rows.get? index).bind fun row =>
    s.activeTree?.bind fun t => t.root.withIdAt? row.range.start row.id

/-- The active layer's tree is a matter of the layers alone. -/
theorem activeTree?_congr {s s' : Session} (h : s'.registry = s.registry) :
    s'.activeTree? = s.activeTree? := by
  rw [activeTree?, activeTree?, activeLayer, activeLayer, h]

/-- A row whose node is found makes it the active node; otherwise the echo is all that changes. -/
theorem selectRow_fst (index : Nat) :
    (s.selectRow index).1 =
      match s.rowNode? index with
      | none => { s with pendingEcho := none }
      | some node =>
        { s with
          activeNode := some node
          highlightedRow := some index
          pendingEcho := some node.range } := by
  have htree : activeTree? { s with pendingEcho := none } = s.activeTree? := activeTree?_congr rfl
  unfold selectRow rowNode?
  dsimp only
  rw [htree]
  cases s.rows.get? index with
  | none => rfl
  | some row =>
    cases s.activeTree? with
    | none => rfl
    | some t => cases hfound : t.root.withIdAt? row.range.start row.id <;> simp [hfound]

theorem exists_selectRow_eq (index : Nat) :
    ∃ node row echo, (s.selectRow index).1 =
      { s with activeNode := node, highlightedRow := row, pendingEcho := echo } := by
  rw [selectRow_fst]
  split
  · exact ⟨s.activeNode, s.highlightedRow, none, rfl⟩
  · exact ⟨_, _, _, rfl⟩

theorem exists_runQuery_eq (e : Engine) (bounds : Option Range) :
    ∃ highlights resolver, (s.runQuery e bounds).1 = { s with highlights, resolver } := by
  unfold runQuery
  split
  · exact ⟨[], s.resolver, rfl⟩
  · split
    · exact ⟨s.highlights, s.resolver, rfl⟩
    · exact ⟨_, _, rfl⟩

theorem exists_compileQuery_eq (e : Engine) (source : String) :
    ∃ status marks query highlights resolver,
      (s.compileQuery e source).1 = { s with status, marks, query, highlights, resolver } := by
  unfold compileQuery
  split
  · rename_i q _
    obtain ⟨highlights, resolver, hrun⟩ := exists_runQuery_eq
      { s with status := none, marks := captureMarks q, query := some q } e none
    exact ⟨none, captureMarks q, some q, highlights, resolver, hrun⟩
  · exact ⟨_, s.marks, s.query, s.highlights, s.resolver, rfl⟩

theorem exists_hideOverlayAtRoot_eq :
    ∃ showInjectionRanges, s.hideOverlayAtRoot =
      { s with options := { s.options with showInjectionRanges } } := by
  unfold hideOverlayAtRoot
  split
  · exact ⟨false, rfl⟩
  · exact ⟨s.options.showInjectionRanges, rfl⟩

theorem exists_setShowInjectionRanges_eq (shown : Bool) :
    ∃ showInjectionRanges overlay, (s.setShowInjectionRanges shown).1 =
      { s with options := { s.options with showInjectionRanges }, overlay } := by
  obtain ⟨visible, hhide⟩ := exists_hideOverlayAtRoot_eq
    { s with options := { s.options with showInjectionRanges := shown } }
  unfold setShowInjectionRanges
  dsimp only
  rw [hhide]
  exact ⟨visible, _, rfl⟩

theorem exists_retrack_eq :
    ∃ node row, s.retrack = { s with activeNode := node, highlightedRow := row } := by
  unfold retrack
  split
  · exact exists_track_eq s _
  · exact ⟨s.activeNode, _, rfl⟩

theorem exists_rerunQuery_eq (e : Engine) :
    ∃ highlights resolver, s.rerunQuery e = { s with highlights, resolver } := by
  unfold rerunQuery
  split
  · exact exists_runQuery_eq s e none
  · exact ⟨s.highlights, s.resolver, rfl⟩

/-- A layer that is unknown, or active already, changes nothing. -/
theorem setActiveLayer_of_unchanged {id : LayerId}
    (h : id = s.registry.active ∨ s.registry.find? id = none) : (s.setActiveLayer id).1 = s := by
  unfold setActiveLayer
  split
  · rfl
  · rename_i hfound
    rcases h with rfl | hnone
    · rw [if_pos rfl]
    · simp [hnone] at hfound

/-! ### A render -/

/-- The session once a render has begun. -/
def begun : Session :=
  { s with counter := s.counter.next, inFlight := some s.counter.next.current }

/-- The job of a render of a tree. -/
def renderJob (t : SyntaxTree) : Job :=
  ⟨some t.copy.root, s.options.render, s.counter.next.token, {}⟩

/-- The session once rows are taken over. -/
def takeOver (e : Engine) (rows : RowSequence) : Session :=
  ({ s with inFlight := none, pendingEcho := none, rows }.retrack.rerunQuery e).refreshOverlay.emit
    (.renderComplete rows.generation rows.size)

variable {s}

theorem beginRender_eq {t : SyntaxTree} (ht : s.activeTree? = some t) :
    s.beginRender = (s.begun, .ok (s.renderJob t)) := by
  unfold beginRender
  rw [ht]
  rfl

theorem beginRender_of_none (ht : s.activeTree? = none) :
    s.beginRender = (s, .error (.noActiveTree s.activeLayer.id)) := by
  unfold beginRender
  rw [ht]

theorem finishRender_of_current {e : Engine} {rows : RowSequence} (h : s.isCurrent rows = true) :
    s.finishRender e rows = (s.takeOver e rows, true) := by
  unfold finishRender
  rw [if_pos h]
  rfl

theorem finishRender_of_stale {e : Engine} {rows : RowSequence} (h : s.isCurrent rows = false) :
    s.finishRender e rows = (s, false) := by
  unfold finishRender
  rw [if_neg (by simp [h])]

theorem isCurrent_iff {rows : RowSequence} :
    s.isCurrent rows = true ↔
      s.inFlight = some rows.generation ∧ s.counter.current = rows.generation := by
  simp [isCurrent]

variable (s) in
theorem exists_takeOver_eq (e : Engine) (rows : RowSequence) :
    ∃ node row highlights resolver, s.takeOver e rows =
      { s with
        inFlight := none, pendingEcho := none, rows, activeNode := node, highlightedRow := row,
        highlights, resolver
        overlay := s.refreshOverlay.overlay
        events := s.events.emit (.renderComplete rows.generation rows.size) } := by
  obtain ⟨node, row, htrack⟩ :=
    exists_retrack_eq { s with inFlight := none, pendingEcho := none, rows }
  unfold takeOver
  rw [htrack]
  obtain ⟨highlights, resolver, hquery⟩ := exists_rerunQuery_eq
    { s with
      inFlight := none, pendingEcho := none, rows, activeNode := node, highlightedRow := row } e
  rw [hquery]
  exact ⟨node, row, highlights, resolver, rfl⟩

/-- A render from start to end always takes its rows over. -/
theorem update_eq {e : Engine} {t : SyntaxTree} (ht : s.activeTree? = some t) :
    s.update e = (s.begun.takeOver e (s.renderJob t).reference,
      .ok (s.begun.takeOver e (s.renderJob t).reference).rows) := by
  have hlive : (s.renderJob t).token.isCancelled s.begun.counter = false := by
    simp [renderJob, begun, Token.isCancelled, Counter.token]
  have hfinish := (Job.sound_start (some t.copy.root) s.options.render
    s.counter.next.token).finish_eq hlive
  have hcurrent : s.begun.isCurrent (s.renderJob t).reference = true := isCurrent_iff.2 ⟨rfl, rfl⟩
  unfold update
  rw [beginRender_eq ht]
  simp only [renderJob, hfinish]
  rw [show (Job.mk (some t.copy.root) s.options.render s.counter.next.token {}) =
    s.renderJob t from rfl, finishRender_of_current hcurrent]

theorem update_of_none {e : Engine} (ht : s.activeTree? = none) :
    s.update e = (s, .error (.noActiveTree s.activeLayer.id)) := by
  unfold update
  rw [beginRender_of_none ht]

end Session

end SyntaxInspector
