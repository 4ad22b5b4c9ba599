import SyntaxInspector.Proofs.Session.Currency

/-!
# What an operation of a host does to the session

An operation of a host either takes rows over or leaves them to one of the session's own functions.
The lemmas here say so once, so that an invariant of a session has one case for each function, and
none for the ways in which an operation can come to nothing.

* `Session.Turn` — what an operation that takes no rows over may do, function by function;
* `Session.Effect` — the same for those who ask about rows, query and cursor only;
* `Host.receiving` — the session that rows are handed to;
* `Host.session_step_cases` — the two kinds of operations.
-/

namespace SyntaxInspector

namespace Op

/-- Whether an operation is about the document or a render, and not a call of the session's own. -/
def IsOutside : Op → Prop
  | .setText _ | .refresh | .change _ | .describe .. => True
  | .update | .begin | .resume _ | .finish _ | .commit _ => True
  | _ => False

/-- Where an operation moves the cursor to, if it does. -/
def selection? : Op → Option Range
  | .moveCursor selection => some selection
  | _ => none

theorem IsOutside.selection? {op : Op} (h : op.IsOutside) : op.selection? = none := by
  cases op with
  | moveCursor selection => cases h
  | _ => rfl

end Op

namespace Session

/-- What an operation that takes no rows over does to a session. -/
inductive Turn (e : Engine) (s : Session) : Op → Session → Prop where
  /-- Nothing. -/
  | rest {op : Op} (hop : op.IsOutside) : Turn e s op s
  /-- A render begins. -/
  | begin : Turn e s .begin s.begun
  /-- The document changes. -/
  | documentChanged {op : Op} (hop : op.IsOutside) (snapshot : Snapshot) :
    Turn e s op (s.documentChanged snapshot)
  /-- A layer is made the active one. -/
  | activate (id : LayerId) : Turn e s (.activate id) (s.setActiveLayer id).1
  /-- Anonymous nodes are shown or not. -/
  | showAnonymous (shown : Bool) : Turn e s (.showAnonymous shown) (s.setShowAnonymous shown)
  /-- Injected ranges are marked or not. -/
  | showInjectionRanges (shown : Bool) :
    Turn e s (.showInjectionRanges shown) (s.setShowInjectionRanges shown).1
  /-- A query text is taken into use. -/
  | compileQuery (source : String) : Turn e s (.compileQuery source) (s.compileQuery e source).1
  /-- The query is run again. -/
  | runQuery (bounds : Option Range) : Turn e s (.runQuery bounds) (s.runQuery e bounds).1
  /-- The query is forgotten. -/
  | clearQuery : Turn e s .clearQuery s.clearQuery
  /-- The cursor moves. -/
  | moveCursor (selection : Range) :
    Turn e s (.moveCursor selection) (s.moveCursor selection).1
  /-- A row is selected. -/
  | selectRow (index : Nat) : Turn e s (.selectRow index) (s.selectRow index).1
  /-- A subscription starts. -/
  | subscribe : Turn e s .subscribe s.subscribe.1
  /-- A subscription ends. -/
  | unsubscribe (handle : Nat) : Turn e s (.unsubscribe handle) (s.unsubscribe handle).1

/-! ### Changes of the document and of the active layer -/

/-- The layer that was active is left, with all that comes from it. -/
def Leaves (s s' : Session) : Prop :=
  ∃ text registry options overlay events, s' =
    { s.clearLayerState with
      text, registry, options, overlay, events, counter := s.counter.next, inFlight := none }

variable (s : Session)

/-- A change of the document keeps the active layer or leaves it. -/
theorem documentChanged_cases (snapshot : Snapshot) :
    (∃ registry overlay, s.documentChanged snapshot =
      { s with
        text := snapshot.text, registry, overlay, counter := s.counter.next, inFlight := none }) ∨
    s.Leaves (s.documentChanged snapshot) := by
  unfold documentChanged
  dsimp only
  split
  · exact .inl ⟨_, _, rfl⟩
  · rename_i registry previous _
    obtain ⟨visible, heq⟩ := exists_hideOverlayAtRoot_eq
      { { s with text := snapshot.text }.invalidateRender with registry }.clearLayerState
    rw [heq]
    exact .inr ⟨_, _, _, _, _, rfl⟩

theorem setActiveLayer_eq_or_leaves (id : LayerId) :
    (s.setActiveLayer id).1 = s ∨ s.Leaves (s.setActiveLayer id).1 := by
  unfold setActiveLayer
  split_ifs
  · exact .inl rfl
  · exact .inl rfl
  · obtain ⟨visible, heq⟩ := exists_hideOverlayAtRoot_eq
      { s with registry := { s.registry with active := id } }.invalidateRender.clearLayerState
    dsimp only
    rw [heq]
    exact .inr ⟨_, _, _, _, _, rfl⟩

/-- Anonymous nodes are shown from the next render on. -/
theorem exists_setShowAnonymous_eq (shown : Bool) :
    ∃ options counter inFlight,
      s.setShowAnonymous shown = { s with options, counter, inFlight } := by
  unfold setShowAnonymous
  split
  · exact ⟨s.options, s.counter, s.inFlight, rfl⟩
  · exact ⟨_, _, _, rfl⟩

/-! ### Rows, query and cursor -/

/-- Rows, query and cursor are as before. -/
def Spares (s s' : Session) : Prop :=
  ∃ text registry options counter inFlight overlay events, s' =
    { s with text, registry, options, counter, inFlight, overlay, events }

/-- What an operation that takes no rows over does to rows, query and cursor. -/
inductive Effect (e : Engine) (s : Session) : Op → Session → Prop where
  /-- Nothing. -/
  | spares {op : Op} {s' : Session} (hop : op.selection? = none) (h : s.Spares s') :
    Effect e s op s'
  /-- They are lost with their layer. -/
  | leaves {op : Op} {s' : Session} (hop : op.selection? = none) (h : s.Leaves s') :
    Effect e s op s'
  /-- A query text is taken into use. -/
  | compileQuery (source : String) : Effect e s (.compileQuery source) (s.compileQuery e source).1
  /-- The query is run again. -/
  | runQuery (bounds : Option Range) : Effect e s (.runQuery bounds) (s.runQuery e bounds).1
  /-- The query is forgotten. -/
  | clearQuery : Effect e s .clearQuery s.clearQuery
  /-- The cursor moves. -/
  | moveCursor (selection : Range) :
    Effect e s (.moveCursor selection) (s.moveCursor selection).1
  /-- A row is selected. -/
  | selectRow (index : Nat) : Effect e s (.selectRow index) (s.selectRow index).1

variable {s} in
theorem Turn.effect {e : Engine} {op : Op} {s' : Session} (h : s.Turn e op s') :
    s.Effect e op s' := by
  cases h with
  | rest hop => exact .spares hop.selection? ⟨_, _, _, _, _, _, _, rfl⟩
  | begin => exact .spares rfl ⟨_, _, _, _, _, _, _, rfl⟩
  | documentChanged hop snapshot =>
    rcases documentChanged_cases s snapshot with ⟨registry, overlay, heq⟩ | hleaves
    · exact .spares hop.selection? ⟨_, _, _, _, _, _, _, heq⟩
    · exact .leaves hop.selection? hleaves
  | activate id =>
    rcases setActiveLayer_eq_or_leaves s id with heq | hleaves
    · exact .spares rfl ⟨_, _, _, _, _, _, _, heq⟩
    · exact .leaves rfl hleaves
  | showAnonymous shown =>
    obtain ⟨options, counter, inFlight, heq⟩ := exists_setShowAnonymous_eq s shown
    exact .spares rfl ⟨_, _, _, _, _, _, _, heq⟩
  | showInjectionRanges shown =>
    obtain ⟨visible, overlay, heq⟩ := exists_setShowInjectionRanges_eq s shown
    exact .spares rfl ⟨_, _, _, _, _, _, _, heq⟩
  | compileQuery source => exact .compileQuery source
  | runQuery bounds => exact .runQuery bounds
  | clearQuery => exact .clearQuery
  | moveCursor selection => exact .moveCursor selection
  | selectRow index => exact .selectRow index
  | subscribe => exact .spares rfl ⟨_, _, _, _, _, _, _, rfl⟩
  | unsubscribe handle => exact .spares rfl ⟨_, _, _, _, _, _, _, rfl⟩

end Session

/-! ### Operations -/

namespace Host

/-- The session that an operation hands rows to: a whole render begins first. -/
def receiving (h : Host) : Op → Session
  | .update => h.session.begun
  | _ => h.session

theorem run_concat (e : Engine) (h : Host) (ops : List Op) (op : Op) :
    h.run e (ops ++ [op]) = ((h.run e ops).step e op).1 := run_append e h ops [op]

/-- The session of a host that has done nothing yet. -/
theorem exists_session_opened_eq (document : Document) (nextTree : Nat) (snapshot : Snapshot)
    (options : SessionOptions) :
    ∃ showInjectionRanges, (opened document nextTree snapshot options).session =
      { registry := .ofSnapshot snapshot
        text := snapshot.text
        options := { options with showInjectionRanges } } :=
  Session.exists_hideOverlayAtRoot_eq
    { registry := .ofSnapshot snapshot, text := snapshot.text, options }

theorem receiving_cases (h : Host) (op : Op) :
    h.receiving op = h.session ∨ h.receiving op = h.session.begun := by
  unfold receiving
  split
  · exact .inr rfl
  · exact .inl rfl

variable {e : Engine} {h : Host} {op : Op} {rows : RowSequence}

theorem session_eq_takeOver (hmem : rows ∈ h.takenBy e op) :
    (h.step e op).1.session = (h.receiving op).takeOver e rows := by
  rcases mem_takenBy hmem with ⟨number, rfl, hrows, hcurrent⟩ | ⟨rfl, t, htree, rfl⟩
  · rw [step_commit hrows, if_pos hcurrent]
    rfl
  · simp only [step, Session.update_eq htree]
    rfl

theorem rows_of_mem_takenBy (hmem : rows ∈ h.takenBy e op) :
    (h.step e op).1.session.rows = rows := by
  rw [session_eq_takeOver hmem, Session.rows_takeOver]

/-- Rows are taken over by operations on a render only. -/
theorem isOutside_of_mem_takenBy (hmem : rows ∈ h.takenBy e op) : op.IsOutside := by
  rcases mem_takenBy hmem with ⟨number, rfl, -⟩ | ⟨rfl, -⟩ <;> trivial

/-- An operation that takes no rows over is a turn of the session. -/
theorem turn_of_takenBy_eq_nil (hnone : h.takenBy e op = []) :
    h.session.Turn e op (h.step e op).1.session := by
  cases op with
  | setText text =>
    unfold step
    dsimp only
    split <;> exact .rest trivial
  | refresh => exact .documentChanged (by trivial) _
  | change snapshot => exact .documentChanged (by trivial) snapshot
  | describe text languageName parsed layers =>
    unfold step
    dsimp only
    split
    · exact .documentChanged (by trivial) _
    · exact .rest trivial
  | update =>
    cases htree : h.session.activeTree? with
    | none =>
      simp only [step, Session.update_of_none htree]
      exact .rest trivial
    | some t =>
      -- with a tree there are rows to take over
      simp [takenBy, step, Session.update_eq htree, replyOf] at hnone
  | begin =>
    cases htree : h.session.activeTree? with
    | none =>
      simp only [step, Session.beginRender_of_none htree]
      exact .rest trivial
    | some t =>
      rw [(begins_of_tree htree).session]
      exact .begin
  | resume number =>
    rw [show (h.step e (.resume number)).1.session = h.session from session_resume h number]
    exact .rest trivial
  | finish number =>
    rw [show (h.step e (.finish number)).1.session = h.session from session_finish h number]
    exact .rest trivial
  | commit number =>
    cases hrows : (h.ticket? number).bind Ticket.rows with
    | none =>
      rw [step_commit_of_none hrows]
      exact .rest trivial
    | some rows =>
      -- rows that nobody takes over are stale, and stale rows change nothing
      unfold takenBy at hnone
      rw [step_commit hrows] at hnone ⊢
      cases hcurrent : h.session.isCurrent rows with
      | true => simp [hcurrent] at hnone
      | false => exact .rest trivial
  | activate id => exact .activate id
  | showAnonymous shown => exact .showAnonymous shown
  | showInjectionRanges shown => exact .showInjectionRanges shown
  | compileQuery source => exact .compileQuery source
  | runQuery bounds => exact .runQuery bounds
  | clearQuery => exact .clearQuery
  | moveCursor selection => exact .moveCursor selection
  | selectRow index => exact .selectRow index
  | subscribe => exact .subscribe
  | unsubscribe handle => exact .unsubscribe handle

/-- An operation takes rows over, or it is a turn of the session. -/
theorem session_step_cases (e : Engine) (h : Host) (op : Op) :
    (∃ rows ∈ h.takenBy e op, (h.step e op).1.session = (h.receiving op).takeOver e rows) ∨
    h.takenBy e op = [] ∧ h.session.Turn e op (h.step e op).1.session := by
  cases htaken : h.takenBy e op with
  | nil => exact .inr ⟨rfl, turn_of_takenBy_eq_nil htaken⟩
  | cons rows rest =>
    have hmem : rows ∈ h.takenBy e op := by rw [htaken]; exact List.mem_cons_self
    exact .inl ⟨rows, List.mem_cons_self, session_eq_takeOver hmem⟩

end Host

end SyntaxInspector
