import SyntaxInspector.Proofs.Session.Layers

/-!
# Echoes of selected rows

A selected row hands a range out, and the movement of the cursor that this causes is not to be
followed. All that is remembered of it is one range, set by one operation and cleared by four kinds
of them. So it is always the range that the last of these handed out, if that was a selection.

* `Host.Settles` — the operations that say which echo is awaited;
* `Host.LastSettling` — the last of them in a run;
* `Host.Awaits` — the echo awaited after a run, told from its operations;
* `Host.pendingEcho_run` — it is the one remembered;
* `Host.echoes_alone_are_passed_over` — all runs of a host.
-/

namespace SyntaxInspector

/-- A row that is selected leaves the range it hands out, or nothing. -/
theorem Session.pendingEcho_selectRow (s : Session) (index : Nat) (range : Range) :
    (s.selectRow index).1.pendingEcho = some range ↔ (s.selectRow index).2 = .ok range := by
  unfold selectRow
  dsimp only
  split
  · simp
  · split
    · simp
    · split <;> simp

namespace Host

/-- Whether an operation says which echo is awaited: the cursor is moved, a row is selected, rows
are taken over, or the active layer is left. -/
def Settles (e : Engine) (h : Host) (op : Op) : Prop :=
  op.IsCursor ∨ h.takenBy e op ≠ [] ∨
    ∃ c, h.layerChange? e op = some c ∧ c.Moves h.session.registry

/-- No operation of a run says which echo is awaited. -/
def Unsettled (e : Engine) : Host → List Op → Prop
  | _, [] => True
  | h, op :: ops => ¬ h.Settles e op ∧ Unsettled e (h.step e op).1 ops

/-- The last operation of a run that says which echo is awaited, and the host it is carried out
on. -/
inductive LastSettling (e : Engine) : Host → List Op → Host → Op → Prop where
  /-- It is the first, and none follows. -/
  | here {h : Host} {op : Op} {ops : List Op} (hsettles : h.Settles e op)
    (hlater : (h.step e op).1.Unsettled e ops) : LastSettling e h (op :: ops) h op
  /-- It comes later. -/
  | later {h h' : Host} {op op' : Op} {ops : List Op}
    (hlast : LastSettling e (h.step e op).1 ops h' op') : LastSettling e h (op :: ops) h' op'

/-- The last operation of a run that says which echo is awaited selects a row, and hands this range
out. -/
def Awaits (e : Engine) (h : Host) (ops : List Op) (range : Range) : Prop :=
  ∃ h' index, LastSettling e h ops h' (.selectRow index) ∧
    (h'.step e (.selectRow index)).2 = .range range

variable {e : Engine} {h : Host} {op : Op} {ops : List Op} {range : Range}

theorem not_isCursor_of_layerChange {c : LayerChange} (hc : h.layerChange? e op = some c) :
    ¬ op.IsCursor := by
  cases op with
  | moveCursor selection => cases hc
  | selectRow index => cases hc
  | _ => exact id

theorem not_isCursor_of_mem_takenBy {rows : RowSequence} (hmem : rows ∈ h.takenBy e op) :
    ¬ op.IsCursor := by
  rcases mem_takenBy hmem with ⟨number, rfl, -⟩ | ⟨rfl, -⟩
  · exact id
  · exact id

theorem pendingEcho_selectRow_step (e : Engine) (h : Host) (index : Nat) (range : Range) :
    (h.step e (.selectRow index)).1.session.pendingEcho = some range ↔
      (h.step e (.selectRow index)).2 = .range range := by
  refine (Session.pendingEcho_selectRow h.session index range).trans ?_
  simp only [step]
  cases (h.session.selectRow index).2 <;> simp [replyOf]

/-- An operation that says which echo is awaited leaves one only if it selects a row. -/
theorem pendingEcho_step_of_settles (hsettles : h.Settles e op) :
    (h.step e op).1.session.pendingEcho = some range ↔
      ∃ index, op = .selectRow index ∧ (h.step e (.selectRow index)).2 = .range range := by
  -- unless a row is selected, no echo is awaited
  have hcleared : (h.step e op).1.session.pendingEcho = none → (∀ index, op ≠ .selectRow index) →
      ((h.step e op).1.session.pendingEcho = some range ↔
        ∃ index, op = .selectRow index ∧ (h.step e (.selectRow index)).2 = .range range) := by
    intro hnone hother
    rw [hnone]
    exact iff_of_false nofun fun ⟨index, hop, _⟩ => hother index hop
  cases stepKind e h op with
  | changes c change taken session =>
    have hcursor := not_isCursor_of_layerChange change
    refine hcleared ?_ fun index hop => hcursor (hop ▸ trivial)
    rcases hsettles with hop | htaken | ⟨c', hc', hmoves⟩
    · exact absurd hop hcursor
    · exact absurd taken htaken
    · obtain rfl : c = c' := Option.some.inj (change.symm.trans hc')
      obtain ⟨options, overlay, heq⟩ := Session.exists_apply_eq_of_moves hmoves
      rw [session, heq]
  | takes rows change taken session =>
    have hmem : rows ∈ h.takenBy e op := by rw [taken]; exact List.mem_cons_self
    refine hcleared ?_ fun index hop => not_isCursor_of_mem_takenBy hmem (hop ▸ trivial)
    obtain ⟨node, row, highlights, resolver, heq⟩ :=
      Session.exists_takeOver_eq (h.receiving op) e rows
    rw [session, heq]
  | aside change taken session =>
    have hcursor : op.IsCursor := by
      rcases hsettles with hop | htaken | ⟨c, hc, -⟩
      · exact hop
      · exact absurd taken htaken
      · rw [change] at hc
        cases hc
    cases op with
    | moveCursor selection =>
      obtain ⟨node, row, heq⟩ := Session.exists_moveCursor_eq h.session selection
      exact hcleared (congrArg Session.pendingEcho heq) nofun
    | selectRow index =>
      rw [pendingEcho_selectRow_step]
      simp
    | _ => cases hcursor

/-- All other operations leave the echo that is awaited as it is. -/
theorem pendingEcho_step_of_not_settles (hsettles : ¬ h.Settles e op) :
    (h.step e op).1.session.pendingEcho = h.session.pendingEcho := by
  obtain ⟨hcursor, htaken, hmoves⟩ : ¬ op.IsCursor ∧ h.takenBy e op = [] ∧
      ∀ c, h.layerChange? e op = some c → ¬ c.Moves h.session.registry := by
    simpa [Settles] using hsettles
  cases stepKind e h op with
  | changes c change _ session =>
    rw [session]
    rcases Session.apply_of_not_moves h.session (hmoves c change) with ⟨heq, -⟩ | ⟨told, -, heq⟩ <;>
      rw [heq]
    rfl
  | takes rows _ taken _ =>
    rw [taken] at htaken
    cases htaken
  | aside _ _ session =>
    generalize (h.step e op).1.session = s' at session
    cases session with
    | undisturbed _ hsame => exact hsame.pendingEcho
    | showInjectionRanges shown =>
      obtain ⟨visible, overlay, heq⟩ := Session.exists_setShowInjectionRanges_eq h.session shown
      rw [heq]
    | moveCursor selection => exact absurd trivial hcursor
    | selectRow index => exact absurd trivial hcursor

/-- The echo remembered after a run is the one awaited, or the one remembered before if nothing was
said of echoes. -/
theorem pendingEcho_run_iff (e : Engine) (h : Host) (ops : List Op) (range : Range) :
    (h.run e ops).session.pendingEcho = some range ↔
      h.Awaits e ops range ∨ h.Unsettled e ops ∧ h.session.pendingEcho = some range := by
  induction ops generalizing h with
  | nil =>
    constructor
    · exact fun hecho => .inr ⟨trivial, hecho⟩
    · rintro (⟨h', index, hlast, -⟩ | ⟨-, hecho⟩)
      · cases hlast
      · exact hecho
  | cons op ops ih =>
    rw [run_cons, ih]
    by_cases hsettles : h.Settles e op
    · rw [pendingEcho_step_of_settles hsettles]
      constructor
      · rintro (⟨h', index, hlast, hrange⟩ | ⟨hlater, index, rfl, hrange⟩)
        · exact .inl ⟨h', index, .later hlast, hrange⟩
        · exact .inl ⟨h, index, .here hsettles hlater, hrange⟩
      · rintro (⟨h', index, hlast, hrange⟩ | ⟨⟨hnot, -⟩, -⟩)
        · cases hlast with
          | here _ hlater => exact .inr ⟨hlater, index, rfl, hrange⟩
          | later hlast => exact .inl ⟨h', index, hlast, hrange⟩
        · exact absurd hsettles hnot
    · rw [pendingEcho_step_of_not_settles hsettles]
      constructor
      · rintro (⟨h', index, hlast, hrange⟩ | ⟨hlater, hecho⟩)
        · exact .inl ⟨h', index, .later hlast, hrange⟩
        · exact .inr ⟨⟨hsettles, hlater⟩, hecho⟩
      · rintro (⟨h', index, hlast, hrange⟩ | ⟨⟨-, hlater⟩, hecho⟩)
        · cases hlast with
          | here hthere _ => exact absurd hthere hsettles
          | later hlast => exact .inl ⟨h', index, hlast, hrange⟩
        · exact .inr ⟨hlater, hecho⟩

/-- A session remembers the echo that is awaited, and no other. -/
theorem pendingEcho_run (hnone : h.session.pendingEcho = none) :
    (h.run e ops).session.pendingEcho = some range ↔ h.Awaits e ops range := by
  rw [pendingEcho_run_iff, hnone]
  simp

/-- **The session passes over the echoes of its own selections, and over no other movement.** Take
any run of a host whose session has just been started, with rows of any origin to hand to it, and
then a movement of the cursor while no render is in progress and the active layer has a tree. Look
at the last operation before it that moved the cursor, selected a row, took rows over or left the
active layer.

* If it selected a row and handed out the very range that the cursor moves to, then the active node
  and the highlighted row stay as they are.
* In all other cases, and if there was no such operation, the active node becomes the node at that
  range in the tree, and the highlighted row is its row, if it has one. -/
theorem echoes_alone_are_passed_over (e : Engine) (h₀ : Host) (snapshot : Snapshot)
    (options : SessionOptions) (ops : List Op) (selection : Range) (t : SyntaxTree)
    (hstart : h₀.session = .start snapshot options) :
    let h := h₀.run e ops
    let s := h.session
    let s' := (h.step e (.moveCursor selection)).1.session
    s.inFlight = none → s.activeTree? = some t →
    (h₀.Awaits e ops selection →
      s'.activeNode = s.activeNode ∧ s'.highlightedRow = s.highlightedRow) ∧
    (¬ h₀.Awaits e ops selection →
      let node := t.root.atRange selection s.options.showAnonymous
      s'.activeNode = some node ∧ s'.highlightedRow = s.rows.rowOf? node.id) := by
  intro h s s' hflight htree
  have hnone : h₀.session.pendingEcho = none := by rw [hstart, Session.start_eq]
  have hmoved : s' = (s.moveCursor selection).1 := rfl
  refine ⟨?_, ?_⟩
  · intro hawaits
    rw [hmoved, Session.moveCursor_of_echo ((pendingEcho_run hnone).2 hawaits)]
    exact ⟨rfl, rfl⟩
  · intro hother node
    have hecho : s.pendingEcho ≠ some selection := fun hecho =>
      hother ((pendingEcho_run hnone).1 hecho)
    rw [hmoved, Session.moveCursor_of_tree hecho hflight htree]
    exact ⟨rfl, rfl⟩

/-- The row of the opening bracket is selected, and anonymous nodes are to be hidden from then
on. -/
def bracketOps : List Op :=
  [.showAnonymous true, .update, .selectRow 2, .showAnonymous false]

/-- The range of the bracket. -/
def bracketRange : Range := ⟨⟨0, 0⟩, ⟨0, 1⟩⟩

/-- A movement to the bracket is passed over, so that its row stays highlighted. The same movement
once more is followed, to the array around it. -/
theorem echoes_alone_are_passed_over_arrayDocument :
    let h₀ := Host.start arrayDocument 1 {}
    let h := h₀.run arrayEngine bracketOps
    let h' := h₀.run arrayEngine (bracketOps ++ [.moveCursor bracketRange])
    h₀.session = .start arrayDocument.snapshot {} ∧
    (h.session.inFlight = none ∧ h.session.activeTree? = some (arrayTree 0) ∧
      h₀.Awaits arrayEngine bracketOps bracketRange ∧
      (h.step arrayEngine (.moveCursor bracketRange)).1.session.highlightedRow = some 2) ∧
    h'.session.inFlight = none ∧ h'.session.activeTree? = some (arrayTree 0) ∧
      ¬ h₀.Awaits arrayEngine (bracketOps ++ [.moveCursor bracketRange]) bracketRange ∧
      (h'.step arrayEngine (.moveCursor bracketRange)).1.session.highlightedRow = some 1 := by
  intro h₀ h h'
  have hawaits : h₀.Awaits arrayEngine bracketOps bracketRange :=
    (pendingEcho_run rfl).1 (by rfl)
  have hother : ¬ h₀.Awaits arrayEngine (bracketOps ++ [.moveCursor bracketRange]) bracketRange :=
    fun hawaits => absurd ((pendingEcho_run rfl).2 hawaits) (by decide)
  have hpassed := ((echoes_alone_are_passed_over arrayEngine h₀ arrayDocument.snapshot {}
    bracketOps bracketRange (arrayTree 0) rfl (by rfl) (by rfl)).1 hawaits).2
  have hfollowed := ((echoes_alone_are_passed_over arrayEngine h₀ arrayDocument.snapshot {}
    (bracketOps ++ [.moveCursor bracketRange]) bracketRange (arrayTree 0) rfl (by rfl)
    (by rfl)).2 hother).2
  refine ⟨rfl, ⟨by rfl, by rfl, hawaits, ?_⟩, by rfl, by rfl, hother, ?_⟩
  · rw [hpassed]
    decide
  · rw [hfollowed]
    decide

end Host

end SyntaxInspector
