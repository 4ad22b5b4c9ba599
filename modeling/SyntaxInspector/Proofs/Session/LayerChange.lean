import SyntaxInspector.Proofs.Session.Highlights

/-!
# Changes of the active layer

The active layer changes because the host chooses another one, or because the document has changed
and the layer is gone. Either way the session starts afresh: what it is then depends on the layers,
the text, the options, the number of passes, the cursor and the subscribers alone.

* `LayerChange` — the two ways in which a layer may be left;
* `Session.moved` — the session afterwards, written down without what is forgotten;
* `Session.setActiveLayer_of_other`, `Session.documentChanged_of_lost` — both ways lead there;
* `Host.layerChange?`, `Host.session_of_layerChange` — the operations of a host that change layers;
* `Host.Reached` — the sessions of runs, which have no claims;
* `Host.layer_changes_forget` — two sessions, and the renders begun before.
-/

namespace SyntaxInspector

/-- What may make another layer the active one. -/
inductive LayerChange where
  /-- A layer is chosen. -/
  | activate (id : LayerId)
  /-- The document is as a snapshot shows it. -/
  | document (snapshot : Snapshot)

namespace LayerChange

/-- The session after a change. -/
def apply (s : Session) : LayerChange → Session × Except SessionError Unit
  | .activate id => s.setActiveLayer id
  | .document snapshot => (s.documentChanged snapshot, .ok ())

/-- Whether the layer that is active is left: another layer is chosen, which there is, or the
snapshot does not have it any more. -/
def Moves (r : Registry) : LayerChange → Prop
  | .activate id => id ≠ r.active ∧ (r.find? id).isSome = true
  | .document snapshot => ∀ l ∈ snapshot.layers, l.id ≠ r.active

end LayerChange

/-- The layers of a snapshot, one of which is active. -/
def Snapshot.registry (snapshot : Snapshot) (active : LayerId) : Registry :=
  ⟨snapshot.root, snapshot.injections, active⟩

namespace LayerChange

/-- The text once the active layer is left. -/
def textAfter (text : String) : LayerChange → String
  | .activate _ => text
  | .document snapshot => snapshot.text

/-- The layers once the active one is left. -/
def registryAfter (r : Registry) : LayerChange → Registry
  | .activate id => { r with active := id }
  | .document snapshot => snapshot.registry .root

/-- What subscribers are told when the active layer is left. -/
def event (r : Registry) : LayerChange → Event
  | .activate id => .activeLayerChanged r.active id false
  | .document _ => .activeLayerChanged r.active .root true

end LayerChange

/-! ### The session afterwards -/

namespace Session

theorem hideOverlayAtRoot_eq (s : Session) :
    s.hideOverlayAtRoot =
      { s with
        options := { s.options with
          showInjectionRanges :=
            s.options.showInjectionRanges && !s.registry.active.isRoot } } := by
  unfold hideOverlayAtRoot
  cases s.registry.active.isRoot with
  | true => simp
  | false => simp

/-- The session in which another layer has become active. -/
def moved (s : Session) (text : String) (registry : Registry) (event : Event) : Session :=
  (hideOverlayAtRoot
    { registry, text
      options := s.options
      counter := s.counter.next
      selection := s.selection
      resolver := s.resolver
      events := s.events.emit event }).refreshOverlay

/-- Sessions that agree in what a change of the layer does not forget. -/
structure SameGround (s₁ s₂ : Session) : Prop where
  registry : s₁.registry = s₂.registry
  text : s₁.text = s₂.text
  options : s₁.options = s₂.options
  counter : s₁.counter = s₂.counter
  selection : s₁.selection = s₂.selection
  subscribers : s₁.events.subscribers = s₂.events.subscribers
  nextHandle : s₁.events.nextHandle = s₂.events.nextHandle

theorem SameGround.refl (s : Session) : s.SameGround s := ⟨rfl, rfl, rfl, rfl, rfl, rfl, rfl⟩

/-- The session without the record of what it has told its subscribers. -/
def forgetLog (s : Session) : Session := { s with events := { s.events with log := [] } }

section

variable (s : Session) {id : LayerId} {snapshot : Snapshot}

/-- A layer that was not active is chosen. -/
theorem setActiveLayer_of_other (hne : id ≠ s.registry.active)
    (hfound : (s.registry.find? id).isSome = true) :
    s.setActiveLayer id = (s.moved s.text { s.registry with active := id }
      (.activeLayerChanged s.registry.active id false), .ok ()) := by
  have hsome : ¬ (s.registry.find? id).isNone = true := by
    rw [Option.isNone_iff_eq_none]
    intro hnone
    rw [hnone] at hfound
    cases hfound
  unfold setActiveLayer
  rw [if_neg hsome, if_neg (Ne.symm hne)]
  refine Prod.ext ?_ rfl
  rw [moved, hideOverlayAtRoot_eq]
  dsimp only
  rw [hideOverlayAtRoot_eq]
  rfl

/-- The document has changed and does not have the active layer any more. -/
theorem documentChanged_of_lost (hlost : ∀ l ∈ snapshot.layers, l.id ≠ s.registry.active) :
    s.documentChanged snapshot = s.moved snapshot.text (snapshot.registry .root)
      (.activeLayerChanged s.registry.active .root true) := by
  have hfind : (snapshot.registry s.registry.active).find? s.registry.active = none := by
    rw [Registry.find?, List.find?_eq_none]
    intro l hmem
    simpa using hlost l hmem
  have hrefresh : s.registry.refresh snapshot =
      (snapshot.registry .root, some s.registry.active) := by
    unfold Registry.refresh
    dsimp only [Snapshot.registry] at hfind ⊢
    rw [hfind]
    rfl
  unfold documentChanged
  dsimp only [invalidateRender]
  rw [hrefresh]
  rfl

/-- The document has changed and still has the active layer. -/
theorem documentChanged_of_kept (hkept : ∃ l ∈ snapshot.layers, l.id = s.registry.active) :
    s.documentChanged snapshot =
      { s with
        text := snapshot.text
        registry := snapshot.registry s.registry.active
        counter := s.counter.next
        inFlight := none }.refreshOverlay := by
  have hfind : ((snapshot.registry s.registry.active).find? s.registry.active).isSome = true := by
    rw [Registry.find?, List.find?_isSome]
    obtain ⟨l, hmem, hid⟩ := hkept
    exact ⟨l, hmem, by simp [hid]⟩
  have hrefresh : s.registry.refresh snapshot =
      (snapshot.registry s.registry.active, none) := by
    unfold Registry.refresh
    dsimp only [Snapshot.registry] at hfind ⊢
    rw [if_pos hfind]
  unfold documentChanged
  dsimp only [invalidateRender]
  rw [hrefresh]

variable {c : LayerChange}

/-- A change that leaves the active layer. -/
theorem apply_of_moves (hmoves : c.Moves s.registry) :
    c.apply s = (s.moved (c.textAfter s.text) (c.registryAfter s.registry)
      (c.event s.registry), .ok ()) := by
  cases c with
  | activate id => exact setActiveLayer_of_other s hmoves.1 hmoves.2
  | document snapshot => exact Prod.ext (documentChanged_of_lost s hmoves) rfl

/-- A change that does not leave the active layer: the layer is chosen again, or there is none to
choose, or the document has changed around it. -/
theorem apply_of_not_moves (hstays : ¬ c.Moves s.registry) :
    ((c.apply s).1 = s ∧ c.textAfter s.text = s.text) ∨
    ∃ snapshot : Snapshot,
      ((∃ l ∈ snapshot.layers, l.id = s.registry.active) ∧ c.textAfter s.text = snapshot.text) ∧
      (c.apply s).1 =
        { s with
          text := snapshot.text
          registry := snapshot.registry s.registry.active
          counter := s.counter.next
          inFlight := none }.refreshOverlay := by
  cases c with
  | activate id =>
    refine .inl ⟨setActiveLayer_of_unchanged s ?_, rfl⟩
    by_cases hne : id = s.registry.active
    · exact .inl hne
    · exact .inr (by simpa using not_and.1 hstays hne)
  | document snapshot =>
    have hkept : ∃ l ∈ snapshot.layers, l.id = s.registry.active := by
      simpa [LayerChange.Moves] using hstays
    exact .inr ⟨snapshot, ⟨hkept, rfl⟩, documentChanged_of_kept s hkept⟩

end

/-- Hiding and refreshing the overlay is of no account for the events. -/
theorem moved_eq (s : Session) (text : String) (registry : Registry) (event : Event) :
    ∃ options overlay, s.moved text registry event =
      { registry, text, options, overlay
        counter := s.counter.next
        selection := s.selection
        resolver := s.resolver
        events := s.events.emit event } := by
  obtain ⟨visible, hhide⟩ := exists_hideOverlayAtRoot_eq
    { registry, text
      options := s.options
      counter := s.counter.next
      selection := s.selection
      resolver := s.resolver
      events := s.events.emit event }
  rw [moved, hhide]
  exact ⟨_, _, rfl⟩

/-- A change that leaves the active layer, part by part. -/
theorem exists_apply_eq_of_moves {s : Session} {c : LayerChange} (hmoves : c.Moves s.registry) :
    ∃ options overlay, (c.apply s).1 =
      { registry := c.registryAfter s.registry, text := c.textAfter s.text, options, overlay
        counter := s.counter.next
        selection := s.selection
        resolver := s.resolver
        events := s.events.emit (c.event s.registry) } := by
  rw [apply_of_moves s hmoves]
  exact moved_eq s _ _ _

/-- The text is the one that the change comes with, if it comes with one. -/
theorem text_apply (s : Session) (c : LayerChange) :
    (c.apply s).1.text = c.textAfter s.text := by
  by_cases hmoves : c.Moves s.registry
  · obtain ⟨options, overlay, heq⟩ := exists_apply_eq_of_moves hmoves
    rw [heq]
  · rcases apply_of_not_moves s hmoves with ⟨heq, htext⟩ | ⟨snapshot, ⟨-, htext⟩, heq⟩
    · rw [heq, htext]
    · rw [heq, htext]
      rfl

/-- What another layer starts with is the same for sessions that agree in what is not forgotten, but
for claims. -/
theorem SameGround.moved_eq {s₁ s₂ : Session} (h : s₁.SameGround s₂) (text : String)
    (registry : Registry) (event : Event) :
    (s₁.moved text registry event).forgetLog =
      { (s₂.moved text registry event).forgetLog with resolver := s₁.resolver } := by
  obtain ⟨-, -, hoptions, hcounter, hselection, hsubscribers, hhandle⟩ := h
  rw [moved, moved, hideOverlayAtRoot_eq, hideOverlayAtRoot_eq, hoptions, hcounter, hselection,
    Emitter.emit, Emitter.emit, hsubscribers, hhandle]
  rfl

/-- The claims stay as they are. -/
theorem resolver_moved (s : Session) (text : String) (registry : Registry) (event : Event) :
    (s.moved text registry event).resolver = s.resolver := by
  obtain ⟨options, overlay, heq⟩ := moved_eq s text registry event
  rw [heq]

/-- A change that leaves the active layer leads to the same layers and the same event. -/
theorem SameGround.exists_apply_eq {s₁ s₂ : Session} (h : s₁.SameGround s₂) {c : LayerChange}
    (hmoves : c.Moves s₁.registry) :
    ∃ text registry event, c.apply s₁ = (s₁.moved text registry event, .ok ()) ∧
      c.apply s₂ = (s₂.moved text registry event, .ok ()) := by
  have hmoves₂ : c.Moves s₂.registry := h.registry ▸ hmoves
  refine ⟨_, _, _, apply_of_moves s₁ hmoves, ?_⟩
  rw [h.text, h.registry]
  exact apply_of_moves s₂ hmoves₂

end Session

/-! ### Operations of a host -/

namespace Host

/-- The change of the document or of the active layer that an operation tells the session of. -/
def layerChange? (e : Engine) (h : Host) : Op → Option LayerChange
  | .activate id => some (.activate id)
  | .refresh => some (.document h.document.snapshot)
  | .change snapshot => some (.document snapshot)
  | .describe text languageName parsed layers =>
    (Snapshot.build e h.nextTree text languageName parsed layers).1.toOption.map .document
  | _ => none

variable {e : Engine} {h : Host} {op : Op} {c : LayerChange} {started : List Job}

theorem session_of_layerChange (hc : h.layerChange? e op = some c) :
    (h.step e op).1.session = (c.apply h.session).1 := by
  unfold layerChange? at hc
  cases op with
  | activate id =>
    cases hc
    rfl
  | refresh =>
    cases hc
    rfl
  | change snapshot =>
    cases hc
    rfl
  | describe text languageName parsed layers =>
    unfold step
    dsimp only at hc ⊢
    cases hbuild : Snapshot.build e h.nextTree text languageName parsed layers with
    | mk result next =>
      rw [hbuild] at hc
      cases result with
      | error err => cases hc
      | ok snapshot =>
        cases hc
        rfl
  | _ => cases hc

/-! ### Renders begun before -/

theorem counter_le_step (e : Engine) (h : Host) (op : Op) :
    h.session.counter.current ≤ (h.step e op).1.session.counter.current := by
  rcases step_cases e h op with hplain | ⟨number, rfl⟩ | ⟨number, rfl⟩ | ⟨t, hbegins⟩
  · rcases hplain.session with hsame | hlapsed
    · exact Nat.le_of_eq (congrArg Counter.current hsame.counter.symm)
    · exact hlapsed.counter
  · exact Nat.le_of_eq (congrArg (·.counter.current) (session_resume h number).symm)
  · exact Nat.le_of_eq (congrArg (·.counter.current) (session_finish h number).symm)
  · rw [hbegins.session]
    exact Nat.le_succ _

/-- Passes are only ever added. -/
theorem counter_le_run (e : Engine) (h : Host) (ops : List Op) :
    h.session.counter.current ≤ (h.run e ops).session.counter.current := by
  induction ops generalizing h with
  | nil => exact Nat.le_refl _
  | cons op ops ih => exact Nat.le_trans (counter_le_step e h op) (ih (h.step e op).1)

/-- The jobs of a host belong to passes of its session. -/
theorem detached_of_mem_begunIn {ops : List Op} {j : Job} (hmem : j ∈ h.begunIn e ops) :
    j.token.detached = false := by
  induction ops generalizing h with
  | nil => cases hmem
  | cons op ops ih =>
    rcases List.mem_append.1 hmem with hnow | hlater
    · cases op with
      | begin =>
        cases htree : h.session.activeTree? with
        | none => simp [begunBy, Session.beginRender_of_none htree, Except.toOption] at hnow
        | some t =>
          rw [(begins_of_tree (e := e) htree).begunBy] at hnow
          rw [List.mem_singleton.1 hnow]
          rfl
      | _ => cases hnow
    · exact ih hlater

/-- A render of a pass that is over goes no further, and its rows are refused. -/
theorem Tracked.refused_of_lt (ht : Tracked started h) {number : Nat} {j : Job}
    (hj : started[number]? = some j) (hdetached : j.token.detached = false)
    (hlt : j.generation < h.session.counter.current) :
    (∀ job rows, h.ticket? number = some ⟨some job, rows⟩ →
      (h.step e (.resume number)).2 = .progress .cancelled ∧
      (h.step e (.finish number)).2 = .progress .cancelled) ∧
    (h.step e (.commit number)).1 = h ∧ (h.step e (.commit number)).2 ≠ .flag true := by
  have hsound := ht.holds.sound j (List.mem_of_getElem? hj)
  refine ⟨?_, ?_⟩
  · intro job rows hticket
    obtain ⟨-, w, rfl⟩ := hsound.slices ((ht.holds.tells number j _ hj hticket).job job rfl)
    have hover : (Job.token { j with walk := w }).isCancelled h.session.counter = true := by
      have hne : h.session.counter.current ≠ j.token.stamp := (Nat.ne_of_lt hlt).symm
      simp [Token.isCancelled, hdetached, hne]
    refine ⟨?_, ?_⟩
    · simp only [Host.step, Host.resume, hticket, Job.resume_of_cancelled hover]
    · simp only [Host.step, Host.finish, hticket, Job.finish, Job.finishWithin_of_cancelled hover]
  · cases hrows : (h.ticket? number).bind Ticket.rows with
    | none =>
      rw [step_commit_of_none hrows]
      exact ⟨rfl, by simp⟩
    | some rows =>
      obtain ⟨ticket, hticket, hrows'⟩ := Option.bind_eq_some_iff.1 hrows
      have href := (ht.holds.tells number j ticket hj hticket).rows rows hrows'
      have hstale : ¬ h.session.isCurrent rows = true := by
        rw [Session.isCurrent_iff, href]
        exact fun hcurrent => Nat.ne_of_gt hlt hcurrent.2
      rw [step_commit hrows, if_neg hstale]
      exact ⟨rfl, by simp⟩

/-- When the active layer is left, a new pass begins. -/
theorem counter_lt_of_moves (hc : h.layerChange? e op = some c)
    (hmoves : c.Moves h.session.registry) :
    h.session.counter.current < (h.step e op).1.session.counter.current := by
  obtain ⟨text, registry, event, heq, -⟩ :=
    (Session.SameGround.refl h.session).exists_apply_eq hmoves
  obtain ⟨options, overlay, hparts⟩ := Session.moved_eq h.session text registry event
  rw [session_of_layerChange hc, heq, hparts]
  exact Nat.lt_succ_self _

/-- A session that some run of a host comes to. -/
def Reached (s : Session) : Prop :=
  ∃ e document nextTree snapshot options ops,
    ((opened document nextTree snapshot options).run e ops).session = s

/-- No claims are left between the operations of a host. -/
theorem Reached.resolver_eq {s : Session} (hs : Reached s) : s.resolver = {} := by
  obtain ⟨e, document, nextTree, snapshot, options, ops, rfl⟩ := hs
  exact resolver_opened_run e document nextTree snapshot options ops

/-- **A change of the active layer forgets everything that comes from the old one.**

* Take any two sessions that agree in layers, text, options, passes, cursor and subscribers, and
  differ as they may in all else. The same change of the active layer makes them the same but for
  claims of captures and what they told their subscribers before, and both tell the same. There is
  no row, no highlight, no mark and no query then. If a host comes to have these sessions, the
  claims are the same too.
* The claims that one run of a query has made are not handed on to the next, and no session that a
  host comes to has any.
* The operations of a host that change the active layer are such changes. No render that was begun
  before, whatever happens afterwards, runs another slice or has its rows taken over. -/
theorem layer_changes_forget :
    (∀ (s₁ s₂ : Session) (c : LayerChange), s₁.SameGround s₂ → c.Moves s₁.registry →
      let s₁' := (c.apply s₁).1
      let s₂' := (c.apply s₂).1
      (c.apply s₁).2 = .ok () ∧ (c.apply s₂).2 = .ok () ∧
      s₁'.forgetLog = { s₂'.forgetLog with resolver := s₁.resolver } ∧
      (Reached s₁ → Reached s₂ → s₁'.forgetLog = s₂'.forgetLog) ∧
      (∃ m, s₁'.events.log = s₁.events.log ++ [m] ∧ s₂'.events.log = s₂.events.log ++ [m]) ∧
      s₁'.rows = {} ∧ s₁'.highlights = [] ∧ s₁'.marks = [] ∧ s₁'.query = none) ∧
    (∀ q t text captures (r : Resolver), resolveHighlights q t text r captures =
      ((resolveHighlights q t text {} captures).1, {})) ∧
    (∀ s, Reached s → s.resolver = {}) ∧
    (∀ e document nextTree snapshot options ops op c,
      let h := (opened document nextTree snapshot options).run e ops
      h.layerChange? e op = some c → c.Moves h.session.registry →
      (h.step e op).1.session = (c.apply h.session).1 ∧
      ∀ later number, number < h.tickets.length →
        let h' := (h.step e op).1.run e later
        (∀ job rows, h'.ticket? number = some ⟨some job, rows⟩ →
          (h'.step e (.resume number)).2 = .progress .cancelled ∧
          (h'.step e (.finish number)).2 = .progress .cancelled) ∧
        (h'.step e (.commit number)).1 = h' ∧
        (h'.step e (.commit number)).2 ≠ .flag true) := by
  refine ⟨?_, fun q t text captures r => rfl, fun s => Reached.resolver_eq, ?_⟩
  · intro s₁ s₂ c hsame hmoves s₁' s₂'
    obtain ⟨text, registry, event, heq₁, heq₂⟩ := hsame.exists_apply_eq hmoves
    have hs₁ : s₁' = s₁.moved text registry event := congrArg Prod.fst heq₁
    have hs₂ : s₂' = s₂.moved text registry event := congrArg Prod.fst heq₂
    obtain ⟨options₁, overlay₁, hparts₁⟩ := Session.moved_eq s₁ text registry event
    obtain ⟨options₂, overlay₂, hparts₂⟩ := Session.moved_eq s₂ text registry event
    have hsession : s₁'.forgetLog = { s₂'.forgetLog with resolver := s₁.resolver } := by
      rw [hs₁, hs₂, hsame.moved_eq]
    refine ⟨congrArg Prod.snd heq₁, congrArg Prod.snd heq₂, hsession, fun hreached₁ hreached₂ => ?_,
      ⟨⟨event, s₁.events.subscribers⟩, ?_, ?_⟩, ?_⟩
    · have hclaims : s₂'.forgetLog.resolver = s₁.resolver := by
        rw [hs₂, hreached₁.resolver_eq, ← hreached₂.resolver_eq]
        exact Session.resolver_moved s₂ text registry event
      rw [hsession, ← hclaims]
    · rw [hs₁, hparts₁]
      rfl
    · rw [hs₂, hparts₂, hsame.subscribers]
      rfl
    · rw [hs₁, hparts₁]
      exact ⟨rfl, rfl, rfl, rfl⟩
  · intro e document nextTree snapshot options ops op c h hc hmoves
    refine ⟨session_of_layerChange hc, ?_⟩
    intro later number hnumber h'
    have ht : Tracked _ h := (tracked_opened document nextTree snapshot options).run (e := e) ops
    have ht' : Tracked _ h' := (ht.step (e := e) op).run later
    -- the job that the ticket was given for
    have hlt := hnumber
    rw [← ht.holds.length] at hlt
    have hj := List.getElem?_eq_getElem hlt
    have hdetached := detached_of_mem_begunIn (List.mem_of_getElem? hj)
    refine ht'.refused_of_lt ?_ hdetached ?_
    · rw [List.append_assoc, List.getElem?_append_left hlt]
      exact hj
    · have hbound := ht.current.bounded _ (List.mem_of_getElem? hj)
      have hstep := counter_lt_of_moves hc hmoves
      have hrun : (h.step e op).1.session.counter.current ≤ h'.session.counter.current :=
        counter_le_run e (h.step e op).1 later
      omega

/-- The array, with its number as a layer of its own. -/
def layeredSnapshot : Snapshot :=
  { arrayDocument with
    injections := [.injected ⟨1⟩ arrayDocument.language (some (arrayTree 1))
      [⟨⟨0, 1⟩, ⟨0, 2⟩⟩]] }.snapshot

/-- A host of the array and its number. -/
def layeredHost : Host := opened arrayDocument 2 layeredSnapshot {}

/-- One session has rows and a query, the other a render in progress. In the layer of the number
they are the same, and the render comes to nothing. -/
theorem layer_changes_forget_layeredHost :
    let rendered := (layeredHost.run arrayEngine [.update, .compileQuery "(number) @n"]).session
    let begun := layeredHost.run arrayEngine [.begin]
    rendered.SameGround begun.session ∧
    LayerChange.Moves rendered.registry (.activate ⟨1⟩) ∧
    rendered.rows ≠ {} ∧ rendered.highlights ≠ [] ∧ begun.session.isRendering = true ∧
    (rendered.setActiveLayer ⟨1⟩).1.forgetLog = (begun.session.setActiveLayer ⟨1⟩).1.forgetLog ∧
    (rendered.setActiveLayer ⟨1⟩).1.rows = {} ∧
    (((begun.step arrayEngine (.activate ⟨1⟩)).1.run arrayEngine [.update]).step arrayEngine
      (.resume 0)).2 = .progress .cancelled ∧
    (((begun.step arrayEngine (.activate ⟨1⟩)).1.run arrayEngine [.update]).step arrayEngine
      (.commit 0)).2 ≠ .flag true := by
  intro rendered begun
  have hsame : rendered.SameGround begun.session := ⟨rfl, rfl, rfl, rfl, rfl, rfl, rfl⟩
  have hmoves : LayerChange.Moves rendered.registry (.activate ⟨1⟩) := ⟨by decide, rfl⟩
  obtain ⟨-, -, -, hforget, -, hrows, -⟩ := layer_changes_forget.1 rendered begun.session
    (.activate ⟨1⟩) hsame hmoves
  obtain ⟨-, hover⟩ := layer_changes_forget.2.2.2 arrayEngine arrayDocument 2 layeredSnapshot {}
    [.begin] (.activate ⟨1⟩) (.activate ⟨1⟩) rfl ⟨by decide, rfl⟩
  obtain ⟨hcancelled, -, hrefused⟩ := hover [.update] 0 Nat.one_pos
  have hrendered : Reached rendered := ⟨arrayEngine, arrayDocument, 2, layeredSnapshot, {}, _, rfl⟩
  have hbegun : Reached begun.session :=
    ⟨arrayEngine, arrayDocument, 2, layeredSnapshot, {}, _, rfl⟩
  exact ⟨hsame, hmoves, by decide, by decide, rfl, hforget hrendered hbegun, hrows,
    (hcancelled _ _ rfl).1, hrefused⟩

end Host

end SyntaxInspector
