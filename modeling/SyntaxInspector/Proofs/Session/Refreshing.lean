import SyntaxInspector.Proofs.Query.Bounds
import SyntaxInspector.Proofs.Session.Layers

/-!
# What depends on the rows is found anew

When rows are taken over there is a tree, so the query can be run on it and the cursor looked up in
it, however many movements were passed over while the render went on.

* `Session.takeOver_eq` — the session once rows are taken over, part by part;
* `Host.lastSelection?`, `Host.selection_run` — the last movement of the cursor is remembered;
* `Host.taking_over_refreshes` — all runs of a host.
-/

namespace SyntaxInspector

namespace Session

/-- The session with new rows, in which the query is run again. -/
def staged (s : Session) (rows : RowSequence) : Session :=
  { s with inFlight := none, pendingEcho := none, rows }.retrack

/-- The active node once rows of a tree are taken over: the node under the cursor, or the active
node of before if there has been no cursor. -/
def nodeIn (s : Session) (t : SyntaxTree) : Option NodeInfo :=
  match s.selection with
  | some selection => some (t.root.atRange selection s.options.showAnonymous)
  | none => s.activeNode

variable {e : Engine} {s : Session} {t : SyntaxTree}

theorem staged_eq (ht : s.activeTree? = some t) (rows : RowSequence) :
    s.staged rows =
      { s with
        inFlight := none
        pendingEcho := none
        rows
        activeNode := s.nodeIn t
        highlightedRow := (s.nodeIn t).bind fun n => rows.rowOf? n.id } := by
  have htree : activeTree? { s with inFlight := none, pendingEcho := none, rows } = some t := ht
  unfold staged retrack track nodeIn
  rw [htree]
  cases hselection : s.selection with
  | none => rfl
  | some selection => rfl

/-- With a tree, a query never fails to run. -/
theorem runQuery_of_tree (ht : s.activeTree? = some t) (bounds : Option Range) :
    (s.runQuery e bounds).2 = .ok ((s.query.map (s.highlightsOf e · t bounds)).getD []) := by
  unfold runQuery
  rw [ht]
  cases s.query with
  | none => rfl
  | some q => rfl

theorem rerunQuery_of_tree (ht : s.activeTree? = some t) :
    s.rerunQuery e =
      { s with
        highlights := (s.query.map (s.highlightsOf e · t none)).getD s.highlights
        resolver := (s.query.map fun _ => {}).getD s.resolver } := by
  rcases rerunQuery_cases e s with ⟨hnone | hnone, heq⟩ | ⟨q, t', hquery, ht', heq⟩
  · have hkept : (s.query.map (s.highlightsOf e · t none)).getD s.highlights = s.highlights := by
      rw [hnone]
      rfl
    have hclaims : (s.query.map fun _ => ({} : Resolver)).getD s.resolver = s.resolver := by
      rw [hnone]
      rfl
    rw [heq, hkept, hclaims]
  · rw [ht] at hnone
    cases hnone
  · obtain rfl : t = t' := Option.some.inj (ht.symm.trans ht')
    have hrun : (s.query.map (s.highlightsOf e · t none)).getD s.highlights =
        s.highlightsOf e q t none := by
      rw [hquery]
      rfl
    have hclaims : (s.query.map fun _ => ({} : Resolver)).getD s.resolver = {} := by
      rw [hquery]
      rfl
    rw [heq, hrun, hclaims]

/-- All that changes when rows are taken over. -/
theorem takeOver_eq (ht : s.activeTree? = some t) (rows : RowSequence) :
    s.takeOver e rows =
      { s with
        inFlight := none
        pendingEcho := none
        rows
        activeNode := s.nodeIn t
        highlightedRow := (s.nodeIn t).bind fun n => rows.rowOf? n.id
        highlights := (s.query.map (s.highlightsOf e · t none)).getD s.highlights
        resolver := (s.query.map fun _ => {}).getD s.resolver
        overlay := s.refreshOverlay.overlay
        events := s.events.emit (.renderComplete rows.generation rows.size) } := by
  have hstaged : s.takeOver e rows = ((s.staged rows).rerunQuery e).refreshOverlay.emit
    (.renderComplete rows.generation rows.size) := rfl
  have htree : (s.staged rows).activeTree? = some t := by rw [staged_eq ht]; exact ht
  rw [hstaged, rerunQuery_of_tree htree, staged_eq ht]
  rfl

end Session

/-! ### The last movement of the cursor -/

namespace Session

variable {e : Engine} {s s' : Session} {op : Op}

theorem Effect.selection (h : s.Effect e op s') :
    s'.selection = op.selection?.or s.selection := by
  cases h with
  | spares hop h =>
    obtain ⟨text, registry, options, counter, inFlight, overlay, events, rfl⟩ := h
    rw [hop, Option.none_or]
  | leaves hop h =>
    obtain ⟨text, registry, options, overlay, events, rfl⟩ := h
    rw [hop, Option.none_or]
    rfl
  | compileQuery source =>
    obtain ⟨status, marks, query, highlights, resolver, heq⟩ := exists_compileQuery_eq s e source
    rw [heq]
    rfl
  | runQuery bounds =>
    obtain ⟨highlights, resolver, heq⟩ := exists_runQuery_eq s e bounds
    rw [heq]
    rfl
  | clearQuery => rfl
  | moveCursor selection =>
    obtain ⟨node, row, heq⟩ := exists_moveCursor_eq s selection
    rw [heq]
    rfl
  | selectRow index =>
    obtain ⟨node, row, echo, heq⟩ := exists_selectRow_eq s index
    rw [heq]
    rfl

theorem selection_takeOver (e : Engine) (s : Session) (rows : RowSequence) :
    (s.takeOver e rows).selection = s.selection := by
  obtain ⟨node, row, highlights, resolver, heq⟩ := exists_takeOver_eq s e rows
  rw [heq]

end Session

namespace Host

variable {e : Engine} {h : Host} {op : Op} {rows : RowSequence}

theorem text_receiving (h : Host) (op : Op) : (h.receiving op).text = h.session.text := by
  rcases receiving_cases h op with heq | heq
  · rw [heq]
  · rw [heq]
    rfl

/-- What the session that gets the rows shares with the session before. -/
theorem cursor_receiving (h : Host) (op : Op) :
    (h.receiving op).selection = h.session.selection ∧
      (h.receiving op).activeNode = h.session.activeNode := by
  rcases receiving_cases h op with heq | heq <;> rw [heq] <;> exact ⟨rfl, rfl⟩

theorem selection_step (e : Engine) (h : Host) (op : Op) :
    (h.step e op).1.session.selection = op.selection?.or h.session.selection := by
  rcases session_step_cases e h op with ⟨rows, hmem, heq⟩ | ⟨-, hturn⟩
  · rw [heq, Session.selection_takeOver, (isOutside_of_mem_takenBy hmem).selection?,
      Option.none_or]
    exact (cursor_receiving h op).1
  · exact hturn.effect.selection

theorem text_opened (document : Document) (nextTree : Nat) (snapshot : Snapshot)
    (options : SessionOptions) :
    (opened document nextTree snapshot options).session.text = snapshot.text := by
  obtain ⟨visible, hstart⟩ := exists_session_opened_eq document nextTree snapshot options
  rw [hstart]

/-- Where the cursor was moved to last in a run, if it was moved. -/
def lastSelection? (ops : List Op) : Option Range := (ops.filterMap Op.selection?).getLast?

/-- A session remembers the last movement, whether it was followed or not. -/
theorem selection_run (e : Engine) (h : Host) (ops : List Op) :
    (h.run e ops).session.selection = (lastSelection? ops).or h.session.selection := by
  induction ops generalizing h with
  | nil => rfl
  | cons op ops ih =>
    rw [run_cons, ih, selection_step, lastSelection?, lastSelection?]
    cases hmoved : op.selection? with
    | none => simp [hmoved]
    | some selection =>
      -- a movement counts unless another one follows
      cases hlast : (ops.filterMap Op.selection?).getLast? <;>
        simp [hmoved, List.getLast?_cons, hlast]

theorem selection_opened (document : Document) (nextTree : Nat) (snapshot : Snapshot)
    (options : SessionOptions) :
    (opened document nextTree snapshot options).session.selection = none := by
  obtain ⟨visible, hstart⟩ := exists_session_opened_eq document nextTree snapshot options
  rw [hstart]

/-- Rows are handed to a session that has a tree. -/
theorem Tracked.exists_tree_receiving {started : List Job} (ht : Tracked started h)
    (hmem : rows ∈ h.takenBy e op) : ∃ t, (h.receiving op).activeTree? = some t := by
  obtain ⟨-, t, htree, -⟩ := ht.rows_eq_of_mem_takenBy hmem
  rw [session_eq_takeOver hmem, Session.activeTree?_takeOver] at htree
  exact ⟨t, htree⟩

/-- **Taking rows over brings everything up to date.** After any run of a host, if an operation
takes rows over then:

* the active layer has a tree, so running the query on it does not fail, and the highlights are
  those of what the engine captures in that tree and the text as it is, over the whole of that text;
* the text as it is is that of the last snapshot that the session was told of;
* if the cursor was ever moved, the active node is the node at its last position in that tree,
  whether the movement was followed, passed over or taken for an echo; otherwise it is the active
  node of before;
* the highlighted row is the row of the active node among the new rows, if it has one;
* the ranges of the active layer are marked as the options say. -/
theorem taking_over_refreshes (e : Engine) (document : Document) (nextTree : Nat)
    (snapshot : Snapshot) (options : SessionOptions) (ops : List Op) (op : Op) (rows : RowSequence)
    (hmem : rows ∈ ((opened document nextTree snapshot options).run e ops).takenBy e op) :
    let h := (opened document nextTree snapshot options).run e ops
    let s := (h.step e op).1.session
    s.rows = rows ∧
    s = (((h.receiving op).staged rows).rerunQuery e).refreshOverlay.emit
      (.renderComplete rows.generation rows.size) ∧
    ∃ t, s.activeTree? = some t ∧
      (∃ highlights, (((h.receiving op).staged rows).runQuery e none).2 = .ok highlights) ∧
      (∀ q, s.query = some q →
        s.highlights =
          (resolveHighlights q t s.text {} (q.execute e t s.text (some (extentOf s.text)))).1 ∧
        q.execute e t s.text (some (extentOf s.text)) =
          (e.captures q.grammar q.source ⟨t, s.text⟩ (extentOf s.text)).filterMap fun raw =>
            (t.node? raw.node).map (⟨raw.pattern, raw.capture, ·⟩)) ∧
      s.text = (((opened document nextTree snapshot options).snapshotsIn e ops).getLastD
        snapshot).text ∧
      (∀ selection, lastSelection? ops = some selection →
        s.activeNode = some (t.root.atRange selection s.options.showAnonymous)) ∧
      (lastSelection? ops = none → s.activeNode = h.session.activeNode) ∧
      s.highlightedRow = s.activeNode.bind (fun n => rows.rowOf? n.id) ∧
      s.overlay =
        if s.options.showInjectionRanges && !s.activeLayer.isRoot then
          s.activeLayer.ranges.map (⟨·, .injection⟩)
        else [] := by
  intro h s
  have htracked : Tracked _ h := (tracked_opened document nextTree snapshot options).run ops
  obtain ⟨t, htree⟩ := htracked.exists_tree_receiving hmem
  obtain ⟨hselection, hnode⟩ := cursor_receiving h op
  have hlast : (h.receiving op).selection = lastSelection? ops := by
    rw [hselection, selection_run, selection_opened, Option.or_none]
  have hs : s = (h.receiving op).takeOver e rows := session_eq_takeOver hmem
  have hparts := Session.takeOver_eq (e := e) htree rows
  rw [← hs] at hparts
  refine ⟨by rw [hparts], hs, t, by rw [hparts]; exact htree, ?_, ?_, ?_, ?_, ?_, ?_, ?_⟩
  · have hstaged : ((h.receiving op).staged rows).activeTree? = some t := by
      rw [Session.staged_eq htree]
      exact htree
    exact ⟨_, Session.runQuery_of_tree hstaged none⟩
  · intro q hq
    refine ⟨?_, ?_⟩
    · rw [hparts] at hq ⊢
      have hquery : (h.receiving op).query = some q := hq
      simp only [hquery]
      rfl
    · have hbounds : CompiledQuery.effectiveBounds s.text (some (extentOf s.text)) =
          extentOf s.text := CompiledQuery.effectiveBounds_none s.text
      rw [CompiledQuery.execute, hbounds]
      rfl
  · rw [hs, Session.text_takeOver, text_receiving]
    exact text_run (text_opened document nextTree snapshot options)
  · intro selection hmoved
    rw [hparts]
    simp only [Session.nodeIn, hlast, hmoved]
  · intro hmoved
    rw [hparts]
    simp only [Session.nodeIn, hlast, hmoved, hnode]
  · rw [hparts]
  · rw [hparts]
    rfl

/-- An engine that captures the number of an array, if it reads a two in the text. -/
def twoEngine : Engine :=
  { arrayEngine with
    captures := fun _ _ subject _ => if subject.text = "[2]" then [⟨0, 0, 3⟩] else [] }

/-- A query is run, the number becomes a two, and the cursor is moved while a render goes on. -/
def movedMeanwhile : List Op :=
  [.compileQuery "(number) @n",
    .change { arrayDocument with text := "[2]", tree := some (arrayTree 1) }.snapshot,
    .begin, .moveCursor ⟨⟨0, 1⟩, ⟨0, 2⟩⟩, .finish 0]

/-- The movement that was passed over counts once the rows are taken over, and the query is run on
the new text. -/
theorem taking_over_refreshes_arrayDocument :
    let h := (Host.start arrayDocument 2 {}).run twoEngine movedMeanwhile
    let s := (h.step twoEngine (.commit 0)).1.session
    ∃ rows ∈ h.takenBy twoEngine (.commit 0),
      rows.rowOf? (.inner 1 3) = some 2 ∧ h.session.highlights = [] ∧
      ∃ t, s.activeTree? = some t ∧
        s.activeNode = some (t.root.atRange ⟨⟨0, 1⟩, ⟨0, 2⟩⟩ false) ∧
        s.text = "[2]" ∧ s.highlights = [⟨⟨⟨0, 1⟩, ⟨0, 2⟩⟩, .ofIndex 0, "n", .inner 1 3⟩] := by
  intro h s
  obtain ⟨-, -, t, htree, -, hquery, htext, hmoved, -⟩ := taking_over_refreshes twoEngine
    arrayDocument 2 arrayDocument.snapshot {} movedMeanwhile (.commit 0) _ (List.Mem.head _)
  refine ⟨_, List.Mem.head _, by decide, by decide, t, htree, hmoved ⟨⟨0, 1⟩, ⟨0, 2⟩⟩ rfl, htext,
    ?_⟩
  obtain rfl : arrayTree 1 = t := Option.some.inj htree
  obtain ⟨hhighlights, hcaptured⟩ := hquery ⟨"json", "(number) @n", ["n"], [{}]⟩ rfl
  rw [hcaptured] at hhighlights
  exact hhighlights.trans (by decide)

end Host

end SyntaxInspector
