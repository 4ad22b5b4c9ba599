import SyntaxInspector.Proofs.Layer.Identity
import SyntaxInspector.Proofs.Session.LayerChange

/-!
# The layers of a session

The layers of a session are those of the snapshot that it was told of last, whichever of them is
active. An operation tells the session of other layers, or takes rows over, or does neither; what
is then done to the layers, their marks and the log of events is said once, for each of the three.

* `Snapshot.Rooted` — a root layer and injected layers, told apart by their ids and by their kinds;
* `Session.Aside` — what an operation of the third kind does;
* `Host.StepKind`, `Host.stepKind` — the three kinds of operations;
* `Host.snapshotsIn` — the snapshots that a run tells the session of;
* `Session.Shows`, `Host.shows_run` — the layers after a run are those of the last of them;
* `Host.text_run` — and so is the text.
-/

namespace SyntaxInspector

/-! ### Root layers and injected layers -/

/-- A root layer and injected layers beside it, told apart by their ids and by their kinds. -/
structure Snapshot.Rooted (snapshot : Snapshot) : Prop where
  rootId : snapshot.root.id = .root
  rootKind : snapshot.root.isRoot = true
  injected : ∀ l ∈ snapshot.injections, l.id ≠ .root ∧ l.isRoot = false

/-- Both ways of telling them apart agree. -/
theorem Snapshot.Rooted.isRoot_eq {snapshot : Snapshot} (h : snapshot.Rooted) {l : Layer}
    (hmem : l ∈ snapshot.layers) : l.isRoot = l.id.isRoot := by
  rcases List.mem_cons.1 hmem with rfl | hinjected
  · rw [h.rootKind, h.rootId]
    rfl
  · obtain ⟨hid, hkind⟩ := h.injected l hinjected
    rw [hkind]
    exact (beq_eq_false_iff_ne.2 hid).symm

namespace Document

theorem isRoot_of_mem_buildLayers (e : Engine) (text : String)
    (known : List (InjectionKey × LayerId)) (nextId nextTree : Nat) (found : List Injection) :
    ∀ l ∈ (buildLayers e text known nextId nextTree found).layers, l.isRoot = false := by
  induction found using List.reverseRecOn with
  | nil => simp [buildLayers]
  | append_singleton found i ih =>
    intro l hmem
    rw [buildLayers, List.foldl_append] at hmem
    rcases List.mem_append.1 hmem with hold | hnew
    · exact ih l hold
    · rw [List.mem_singleton.1 hnew]
      rfl

theorem isRoot_of_mem_injections {d : Document} (hd : ∀ l ∈ d.injections, l.isRoot = false)
    (xs : List Edit) : ∀ l ∈ (d.edits xs).injections, l.isRoot = false := by
  induction xs generalizing d with
  | nil => exact hd
  | cons x xs ih =>
    refine ih ?_
    rcases edit_cases d x with heq | ⟨t, next, -, heq⟩
    · rw [heq]
      exact hd
    · rw [heq]
      exact isRoot_of_mem_buildLayers _ _ _ _ _ _

/-- Documents give no other snapshots, whatever texts they have had. -/
theorem rooted_snapshot_edits (language : Language) (points : List InjectionPoint)
    (xs : List Edit) : ((unparsed language points).edits xs).snapshot.Rooted where
  rootId := rfl
  rootKind := rfl
  injected := by
    have hsound : ((unparsed language points).edits xs).Sound fun _ _ => True :=
      (sound_unparsed language points).edits fun _ _ _ _ _ => trivial
    intro l hmem
    refine ⟨?_, isRoot_of_mem_injections (by simp [unparsed]) xs l hmem⟩
    intro hroot
    have hpos := (hsound.bounds_of_mem_layerIds (List.mem_map_of_mem hmem)).1
    rw [hroot] at hpos
    exact Nat.lt_irrefl 0 hpos

end Document

namespace Registry

theorem mem_of_find? {r : Registry} {id : LayerId} {l : Layer} (h : r.find? id = some l) :
    l ∈ r.layers ∧ l.id = id :=
  ⟨List.mem_of_find?_eq_some h, by simpa using List.find?_some h⟩

theorem activeLayer_mem {r : Registry} (h : ∃ l ∈ r.layers, l.id = r.active) :
    r.activeLayer ∈ r.layers ∧ r.activeLayer.id = r.active := by
  obtain ⟨l, hmem, hid⟩ := h
  have hfound : (r.find? r.active).isSome = true := by
    rw [find?, List.find?_isSome]
    exact ⟨l, hmem, by simp [hid]⟩
  obtain ⟨l', hl'⟩ := Option.isSome_iff_exists.1 hfound
  rw [activeLayer, hl', Option.getD_some]
  exact mem_of_find? hl'

end Registry

/-! ### Kinds of operations -/

/-- Whether an operation moves the cursor or selects a row. -/
def Op.IsCursor : Op → Prop
  | .moveCursor _ | .selectRow _ => True
  | _ => False

namespace Session

/-- Text, layers, their marks, the log of events and the echo awaited are as before. -/
structure Undisturbed (s s' : Session) : Prop where
  text : s'.text = s.text
  registry : s'.registry = s.registry
  visible : s'.options.showInjectionRanges = s.options.showInjectionRanges
  overlay : s'.overlay = s.overlay
  log : s'.events.log = s.events.log
  pendingEcho : s'.pendingEcho = s.pendingEcho

theorem Undisturbed.refl (s : Session) : s.Undisturbed s := ⟨rfl, rfl, rfl, rfl, rfl, rfl⟩

/-- What an operation does that neither tells the session of other layers nor takes rows over. -/
inductive Aside (s : Session) : Op → Session → Prop where
  /-- Nothing that is of interest here. -/
  | undisturbed {op : Op} {s' : Session} (hop : ¬ op.IsCursor) (h : s.Undisturbed s') :
    Aside s op s'
  /-- Injected ranges are marked or not. -/
  | showInjectionRanges (shown : Bool) :
    Aside s (.showInjectionRanges shown) (s.setShowInjectionRanges shown).1
  /-- The cursor moves. -/
  | moveCursor (selection : Range) : Aside s (.moveCursor selection) (s.moveCursor selection).1
  /-- A row is selected. -/
  | selectRow (index : Nat) : Aside s (.selectRow index) (s.selectRow index).1

/-- None of this changes the text or the layers, or adds to the log. -/
theorem Aside.kept {s s' : Session} {op : Op} (h : s.Aside op s') :
    s'.text = s.text ∧ s'.registry = s.registry ∧ s'.events.log = s.events.log := by
  cases h with
  | undisturbed _ h => exact ⟨h.text, h.registry, h.log⟩
  | showInjectionRanges shown =>
    obtain ⟨visible, overlay, heq⟩ := exists_setShowInjectionRanges_eq s shown
    rw [heq]
    exact ⟨rfl, rfl, rfl⟩
  | moveCursor selection =>
    obtain ⟨node, row, heq⟩ := exists_moveCursor_eq s selection
    rw [heq]
    exact ⟨rfl, rfl, rfl⟩
  | selectRow index =>
    obtain ⟨node, row, echo, heq⟩ := exists_selectRow_eq s index
    rw [heq]
    exact ⟨rfl, rfl, rfl⟩

theorem registry_takeOver (s : Session) (e : Engine) (rows : RowSequence) :
    (s.takeOver e rows).registry = s.registry := by
  obtain ⟨node, row, highlights, resolver, heq⟩ := exists_takeOver_eq s e rows
  rw [heq]

theorem text_takeOver (s : Session) (e : Engine) (rows : RowSequence) :
    (s.takeOver e rows).text = s.text := by
  obtain ⟨node, row, highlights, resolver, heq⟩ := exists_takeOver_eq s e rows
  rw [heq]

theorem undisturbed_setShowAnonymous (s : Session) (shown : Bool) :
    s.Undisturbed (s.setShowAnonymous shown) := by
  unfold setShowAnonymous
  split
  · exact .refl s
  · exact ⟨rfl, rfl, rfl, rfl, rfl, rfl⟩

theorem undisturbed_compileQuery (e : Engine) (s : Session) (source : String) :
    s.Undisturbed (s.compileQuery e source).1 := by
  obtain ⟨status, marks, query, highlights, resolver, heq⟩ := exists_compileQuery_eq s e source
  rw [heq]
  exact ⟨rfl, rfl, rfl, rfl, rfl, rfl⟩

theorem undisturbed_runQuery (e : Engine) (s : Session) (bounds : Option Range) :
    s.Undisturbed (s.runQuery e bounds).1 := by
  obtain ⟨highlights, resolver, heq⟩ := exists_runQuery_eq s e bounds
  rw [heq]
  exact ⟨rfl, rfl, rfl, rfl, rfl, rfl⟩

end Session

namespace Host

/-- An operation tells the session of other layers, takes rows over, or does neither. -/
inductive StepKind (e : Engine) (h : Host) (op : Op) : Prop where
  /-- The session is told of a change. -/
  | changes (c : LayerChange) (change : h.layerChange? e op = some c) (taken : h.takenBy e op = [])
    (session : (h.step e op).1.session = (c.apply h.session).1)
  /-- Rows are taken over. -/
  | takes (rows : RowSequence) (change : h.layerChange? e op = none)
    (taken : h.takenBy e op = [rows])
    (session : (h.step e op).1.session = (h.receiving op).takeOver e rows)
  /-- Neither. -/
  | aside (change : h.layerChange? e op = none) (taken : h.takenBy e op = [])
    (session : h.session.Aside op (h.step e op).1.session)

variable {e : Engine} {h : Host} {op : Op} {c : LayerChange}

theorem takenBy_of_layerChange (hc : h.layerChange? e op = some c) : h.takenBy e op = [] := by
  cases op with
  | refresh => rfl
  | change snapshot => rfl
  | describe text languageName parsed layers => rfl
  | activate id => rfl
  | _ => cases hc

/-- An operation takes over one sequence of rows at most. -/
theorem takenBy_eq_singleton {rows : RowSequence} (hmem : rows ∈ h.takenBy e op) :
    h.takenBy e op = [rows] := by
  unfold takenBy at hmem ⊢
  split at hmem
  · rw [List.mem_singleton.1 hmem]
  · rw [List.mem_singleton.1 hmem]
  · cases hmem

theorem aside_of_layerChange_eq_none (hc : h.layerChange? e op = none)
    (hnone : h.takenBy e op = []) : h.session.Aside op (h.step e op).1.session := by
  cases op with
  | refresh => cases hc
  | change snapshot => cases hc
  | activate id => cases hc
  | describe text languageName parsed layers =>
    unfold layerChange? at hc
    unfold step
    dsimp only at hc ⊢
    cases hbuild : Snapshot.build e h.nextTree text languageName parsed layers with
    | mk result next =>
      rw [hbuild] at hc
      cases result with
      | ok snapshot => cases hc
      | error err => exact .undisturbed id (.refl _)
  | setText text =>
    unfold step
    dsimp only
    split <;> exact .undisturbed id (.refl _)
  | update =>
    cases htree : h.session.activeTree? with
    | none =>
      simp only [step, Session.update_of_none htree]
      exact .undisturbed id (.refl _)
    | some t => simp [takenBy, step, Session.update_eq htree, replyOf] at hnone
  | begin =>
    cases htree : h.session.activeTree? with
    | none =>
      simp only [step, Session.beginRender_of_none htree]
      exact .undisturbed id (.refl _)
    | some t =>
      rw [(begins_of_tree htree).session]
      exact .undisturbed id ⟨rfl, rfl, rfl, rfl, rfl, rfl⟩
  | resume number =>
    rw [show (h.step e (.resume number)).1.session = h.session from session_resume h number]
    exact .undisturbed id (.refl _)
  | finish number =>
    rw [show (h.step e (.finish number)).1.session = h.session from session_finish h number]
    exact .undisturbed id (.refl _)
  | commit number =>
    cases hrows : (h.ticket? number).bind Ticket.rows with
    | none =>
      rw [step_commit_of_none hrows]
      exact .undisturbed id (.refl _)
    | some rows =>
      unfold takenBy at hnone
      rw [step_commit hrows] at hnone ⊢
      cases hcurrent : h.session.isCurrent rows with
      | true => simp [hcurrent] at hnone
      | false => exact .undisturbed id (.refl _)
  | showAnonymous shown => exact .undisturbed id (Session.undisturbed_setShowAnonymous _ shown)
  | showInjectionRanges shown => exact .showInjectionRanges shown
  | compileQuery source => exact .undisturbed id (Session.undisturbed_compileQuery e _ source)
  | runQuery bounds => exact .undisturbed id (Session.undisturbed_runQuery e _ bounds)
  | clearQuery => exact .undisturbed id ⟨rfl, rfl, rfl, rfl, rfl, rfl⟩
  | moveCursor selection => exact .moveCursor selection
  | selectRow index => exact .selectRow index
  | subscribe => exact .undisturbed id ⟨rfl, rfl, rfl, rfl, rfl, rfl⟩
  | unsubscribe handle => exact .undisturbed id ⟨rfl, rfl, rfl, rfl, rfl, rfl⟩

/-- Every operation is of one of the three kinds. -/
theorem stepKind (e : Engine) (h : Host) (op : Op) : h.StepKind e op := by
  cases hc : h.layerChange? e op with
  | some c => exact .changes c hc (takenBy_of_layerChange hc) (session_of_layerChange hc)
  | none =>
    rcases session_step_cases e h op with ⟨rows, hmem, hsession⟩ | ⟨hnone, -⟩
    · exact .takes rows hc (takenBy_eq_singleton hmem) hsession
    · exact .aside hc hnone (aside_of_layerChange_eq_none hc hnone)

/-- A session that rows are handed to has the layers of before. -/
theorem registry_receiving (h : Host) (op : Op) :
    (h.receiving op).registry = h.session.registry := by
  rcases receiving_cases h op with heq | heq
  · rw [heq]
  · rw [heq]
    rfl

/-- The layers stay as they are unless the session is told of a change. -/
theorem registry_eq_of_layerChange_eq_none (hc : h.layerChange? e op = none) :
    (h.step e op).1.session.registry = h.session.registry := by
  cases stepKind e h op with
  | changes c change => rw [hc] at change; cases change
  | takes rows _ _ session =>
    rw [session, Session.registry_takeOver, registry_receiving]
  | aside _ _ session => exact session.kept.2.1

/-! ### The snapshots that a session is told of -/

/-- The snapshot that an operation tells the session of, if it does. -/
def snapshotBy? (e : Engine) (h : Host) (op : Op) : Option Snapshot :=
  match h.layerChange? e op with
  | some (.document snapshot) => some snapshot
  | _ => none

/-- The snapshots that a run tells the session of, in order. -/
def snapshotsIn (e : Engine) : Host → List Op → List Snapshot
  | _, [] => []
  | h, op :: ops => (h.snapshotBy? e op).toList ++ snapshotsIn e (h.step e op).1 ops

/-- The last snapshot of a run is the last of the operations to come, if they tell of any. -/
theorem getLastD_snapshotsIn_cons (e : Engine) (h : Host) (op : Op) (ops : List Op)
    (current : Snapshot) :
    (h.snapshotsIn e (op :: ops)).getLastD current =
      ((h.step e op).1.snapshotsIn e ops).getLastD ((h.snapshotBy? e op).getD current) := by
  cases hby : h.snapshotBy? e op with
  | none => simp [snapshotsIn, hby]
  | some snapshot =>
    rw [snapshotsIn, hby]
    exact List.getLastD_cons

end Host

/-! ### The layers after a run -/

namespace Session

/-- The layers are those of a snapshot, and one of them is active. -/
structure Shows (s : Session) (snapshot : Snapshot) : Prop where
  registry : s.registry = snapshot.registry s.registry.active
  active : ∃ l ∈ snapshot.layers, l.id = s.registry.active

variable {s s' : Session} {snapshot : Snapshot}

theorem Shows.of_registry_eq (h : s.Shows snapshot) (hregistry : s'.registry = s.registry) :
    s'.Shows snapshot := by
  refine ⟨?_, ?_⟩ <;> rw [hregistry]
  · exact h.registry
  · exact h.active

/-- The active layer is one of the snapshot's. -/
theorem Shows.activeLayer_mem (h : s.Shows snapshot) :
    s.activeLayer ∈ snapshot.layers ∧ s.activeLayer.id = s.registry.active := by
  have hlayers : s.registry.layers = snapshot.layers := congrArg Registry.layers h.registry
  rw [← hlayers]
  exact Registry.activeLayer_mem (hlayers ▸ h.active)

theorem Shows.isRoot_activeLayer (h : s.Shows snapshot) (hrooted : snapshot.Rooted) :
    s.activeLayer.isRoot = s.registry.active.isRoot := by
  obtain ⟨hmem, hid⟩ := h.activeLayer_mem
  rw [hrooted.isRoot_eq hmem, hid]

/-- The root layer is there to be active. -/
theorem shows_moved_root (s : Session) (hrooted : snapshot.Rooted) (text : String) (event : Event) :
    (s.moved text (snapshot.registry .root) event).Shows snapshot := by
  obtain ⟨options, overlay, heq⟩ := moved_eq s text (snapshot.registry .root) event
  rw [heq]
  exact ⟨rfl, snapshot.root, List.mem_cons_self, hrooted.rootId⟩

/-- The root is active at the start, so injected ranges are not marked then. -/
theorem start_eq (snapshot : Snapshot) (options : SessionOptions) :
    start snapshot options =
      { registry := snapshot.registry .root
        text := snapshot.text
        options := { options with showInjectionRanges := false } } := rfl

theorem shows_start (hrooted : snapshot.Rooted) (options : SessionOptions) :
    (start snapshot options).Shows snapshot :=
  ⟨rfl, snapshot.root, List.mem_cons_self, hrooted.rootId⟩

theorem Shows.setActiveLayer (h : s.Shows snapshot) (id : LayerId) :
    (s.setActiveLayer id).1.Shows snapshot := by
  by_cases hunchanged : id = s.registry.active ∨ s.registry.find? id = none
  · rw [setActiveLayer_of_unchanged s hunchanged]
    exact h
  · obtain ⟨hne, hfound⟩ := not_or.1 hunchanged
    obtain ⟨l, hl⟩ := Option.ne_none_iff_exists'.1 hfound
    obtain ⟨hmem, hid⟩ := Registry.mem_of_find? hl
    obtain ⟨options, overlay, heq⟩ := moved_eq s s.text { s.registry with active := id }
      (.activeLayerChanged s.registry.active id false)
    have hlayers : s.registry.layers = snapshot.layers := congrArg Registry.layers h.registry
    rw [setActiveLayer_of_other s hne (by rw [hl]; rfl), heq]
    refine ⟨?_, l, hlayers ▸ hmem, hid⟩
    exact congrArg (fun r : Registry => { r with active := id }) h.registry

theorem shows_documentChanged (s : Session) (hrooted : snapshot.Rooted) :
    (s.documentChanged snapshot).Shows snapshot := by
  by_cases hkept : ∃ l ∈ snapshot.layers, l.id = s.registry.active
  · rw [documentChanged_of_kept s hkept]
    exact ⟨rfl, hkept⟩
  · have hlost : ∀ l ∈ snapshot.layers, l.id ≠ s.registry.active :=
      fun l hmem hid => hkept ⟨l, hmem, hid⟩
    rw [documentChanged_of_lost s hlost]
    exact shows_moved_root s hrooted _ _

end Session

namespace Host

variable {e : Engine} {h : Host} {op : Op} {current : Snapshot}

theorem shows_step (hs : h.session.Shows current)
    (hrooted : ∀ told, h.snapshotBy? e op = some told → told.Rooted) :
    (h.step e op).1.session.Shows ((h.snapshotBy? e op).getD current) := by
  cases hc : h.layerChange? e op with
  | none =>
    have hnone : h.snapshotBy? e op = none := by rw [snapshotBy?, hc]
    rw [hnone]
    exact hs.of_registry_eq (registry_eq_of_layerChange_eq_none hc)
  | some c =>
    rw [session_of_layerChange hc]
    cases c with
    | activate id =>
      have hnone : h.snapshotBy? e op = none := by rw [snapshotBy?, hc]
      rw [hnone]
      exact hs.setActiveLayer id
    | document told =>
      have htold : h.snapshotBy? e op = some told := by rw [snapshotBy?, hc]
      rw [htold]
      exact Session.shows_documentChanged h.session (hrooted told htold)

theorem text_step (e : Engine) (h : Host) (op : Op) :
    (h.step e op).1.session.text =
      ((h.snapshotBy? e op).map Snapshot.text).getD h.session.text := by
  rw [snapshotBy?]
  cases stepKind e h op with
  | changes c change _ session =>
    rw [session, change, Session.text_apply]
    cases c <;> rfl
  | takes rows change _ session =>
    rw [session, change, Session.text_takeOver]
    rcases receiving_cases h op with heq | heq <;> rw [heq] <;> rfl
  | aside change _ session =>
    rw [change]
    exact session.kept.1

/-- After a run the text is that of the last snapshot. -/
theorem text_run {ops : List Op} (hs : h.session.text = current.text) :
    (h.run e ops).session.text = ((h.snapshotsIn e ops).getLastD current).text := by
  induction ops generalizing h current with
  | nil => exact hs
  | cons op ops ih =>
    rw [run_cons, getLastD_snapshotsIn_cons]
    refine ih ?_
    rw [text_step, hs]
    cases h.snapshotBy? e op <;> rfl

/-- After a run the layers are those of the last snapshot, and one of them is active. -/
theorem shows_run {ops : List Op} (hs : h.session.Shows current)
    (hrooted : ∀ told ∈ h.snapshotsIn e ops, told.Rooted) :
    (h.run e ops).session.Shows ((h.snapshotsIn e ops).getLastD current) := by
  induction ops generalizing h current with
  | nil => exact hs
  | cons op ops ih =>
    rw [run_cons, getLastD_snapshotsIn_cons]
    refine ih (shows_step hs ?_) ?_
    · intro told htold
      exact hrooted told (List.mem_append_left _ (by simp [htold]))
    · intro told htold
      exact hrooted told (List.mem_append_right _ htold)

end Host

end SyntaxInspector
