import SyntaxInspector.Proofs.Session.Layers

/-!
# The log of events

A session tells its subscribers when another layer becomes active and when rows are taken over, and
of nothing else. What there is to tell of an operation is said here without the log; the log of a
run is then all that there was to tell of its operations, one after the other.

* `Event.Leads` — changes of the active layer that follow one another;
* `Host.news`, `Host.newsIn` — what there is to tell of an operation and of a run;
* `Host.told_step`, `Host.told_run` — all of it is told, and nothing else;
* `Host.log_tells_the_truth` — all runs of a host.
-/

namespace SyntaxInspector

/-- The events emitted, oldest first. -/
def Emitter.told (e : Emitter) : List Event := e.log.map Emission.event

theorem Emitter.told_emit (e : Emitter) (event : Event) :
    (e.emit event).told = e.told ++ [event] := by
  simp [told, emit]

namespace Event

/-- The changes of the active layer among some events lead from one layer to another: each is from
the layer that the one before led to, and to another layer than that. -/
inductive Leads : LayerId → List Event → LayerId → Prop where
  /-- Nothing has changed. -/
  | nil (id : LayerId) : Leads id [] id
  /-- A change, and those that follow. -/
  | change {previous current last : LayerId} {events : List Event} (fellBack : Bool)
    (hne : previous ≠ current) (h : Leads current events last) :
    Leads previous (.activeLayerChanged previous current fellBack :: events) last
  /-- A render changes nothing. -/
  | render {first last : LayerId} {events : List Event} (generation rows : Nat)
    (h : Leads first events last) : Leads first (.renderComplete generation rows :: events) last

theorem Leads.append {first middle last : LayerId} {xs ys : List Event}
    (hxs : Leads first xs middle) (hys : Leads middle ys last) : Leads first (xs ++ ys) last := by
  induction hxs with
  | nil id => exact hys
  | change fellBack hne _ ih => exact .change fellBack hne (ih hys)
  | render generation rows _ ih => exact .render generation rows (ih hys)

/-- The generation and the number of rows that an event tells of, if it is about a render. -/
def rendered? : Event → Option (Nat × Nat)
  | .activeLayerChanged .. => none
  | .renderComplete generation rows => some (generation, rows)

end Event

/-! ### What there is to tell -/

namespace LayerChange

instance (r : Registry) : (c : LayerChange) → Decidable (c.Moves r)
  | .activate id => inferInstanceAs (Decidable (id ≠ r.active ∧ (r.find? id).isSome = true))
  | .document snapshot => inferInstanceAs (Decidable (∀ l ∈ snapshot.layers, l.id ≠ r.active))

/-- What there is to tell of a change: that the active layer is left, if it is. -/
def news (r : Registry) (c : LayerChange) : List Event := if c.Moves r then [c.event r] else []

end LayerChange

namespace Session

variable {s : Session}

theorem told_apply (s : Session) (c : LayerChange) :
    (c.apply s).1.events.told = s.events.told ++ c.news s.registry := by
  unfold LayerChange.news
  split_ifs with hmoves
  · obtain ⟨options, overlay, heq⟩ := exists_apply_eq_of_moves hmoves
    rw [heq]
    exact Emitter.told_emit s.events _
  · rw [List.append_nil]
    rcases apply_of_not_moves s hmoves with ⟨heq, -⟩ | ⟨snapshot, -, heq⟩ <;> rw [heq]
    rfl

/-- The root is there to fall back to, so the layer that vanished was another one. -/
theorem leads_apply (s : Session) {c : LayerChange}
    (hrooted : ∀ snapshot, c = .document snapshot → snapshot.Rooted) :
    Event.Leads s.registry.active (c.news s.registry) (c.apply s).1.registry.active := by
  unfold LayerChange.news
  split_ifs with hmoves
  · obtain ⟨options, overlay, heq⟩ := exists_apply_eq_of_moves hmoves
    rw [heq]
    cases c with
    | activate id => exact .change false hmoves.1.symm (.nil id)
    | document snapshot =>
      have hne : snapshot.root.id ≠ s.registry.active := hmoves _ List.mem_cons_self
      rw [(hrooted snapshot rfl).rootId] at hne
      exact .change true hne.symm (.nil .root)
  · rcases apply_of_not_moves s hmoves with ⟨heq, -⟩ | ⟨snapshot, -, heq⟩ <;> rw [heq]
    · exact .nil _
    · exact .nil _

end Session

namespace Host

/-- What there is to tell of an operation. -/
def news (e : Engine) (h : Host) (op : Op) : List Event :=
  match h.layerChange? e op with
  | some c => c.news h.session.registry
  | none => (h.takenBy e op).map fun rows => .renderComplete rows.generation rows.size

/-- What there is to tell of a run, in order. -/
def newsIn (e : Engine) : Host → List Op → List Event
  | _, [] => []
  | h, op :: ops => h.news e op ++ newsIn e (h.step e op).1 ops

variable {e : Engine} {h : Host} {op : Op}

theorem news_of_layerChange {c : LayerChange} (hc : h.layerChange? e op = some c) :
    h.news e op = c.news h.session.registry := by
  rw [news, hc]

theorem news_of_layerChange_eq_none (hc : h.layerChange? e op = none) :
    h.news e op =
      (h.takenBy e op).map fun rows => .renderComplete rows.generation rows.size := by
  rw [news, hc]

/-! ### It is told -/

theorem events_receiving (h : Host) (op : Op) :
    (h.receiving op).events = h.session.events := by
  rcases receiving_cases h op with heq | heq
  · rw [heq]
  · rw [heq]
    rfl

theorem told_step (e : Engine) (h : Host) (op : Op) :
    (h.step e op).1.session.events.told = h.session.events.told ++ h.news e op := by
  cases stepKind e h op with
  | changes c change _ session =>
    rw [news_of_layerChange change, session]
    exact Session.told_apply h.session c
  | takes rows change taken session =>
    obtain ⟨node, row, highlights, resolver, heq⟩ :=
      Session.exists_takeOver_eq (h.receiving op) e rows
    rw [news_of_layerChange_eq_none change, taken, session, heq, events_receiving]
    exact Emitter.told_emit h.session.events _
  | aside change taken session =>
    rw [news_of_layerChange_eq_none change, taken, Emitter.told, session.kept.2.2]
    exact (List.append_nil _).symm

theorem told_run (e : Engine) (h : Host) (ops : List Op) :
    (h.run e ops).session.events.told = h.session.events.told ++ h.newsIn e ops := by
  induction ops generalizing h with
  | nil => exact (List.append_nil _).symm
  | cons op ops ih => rw [run_cons, ih, told_step, newsIn, List.append_assoc]

theorem leads_step (hrooted : ∀ snapshot, h.snapshotBy? e op = some snapshot → snapshot.Rooted) :
    Event.Leads h.session.registry.active (h.news e op)
      (h.step e op).1.session.registry.active := by
  cases stepKind e h op with
  | changes c change _ session =>
    rw [news_of_layerChange change, session]
    refine Session.leads_apply h.session ?_
    rintro snapshot rfl
    exact hrooted snapshot (by rw [snapshotBy?, change])
  | takes rows change taken session =>
    rw [news_of_layerChange_eq_none change, taken, session, Session.registry_takeOver,
      registry_receiving]
    exact .render _ _ (.nil _)
  | aside change taken session =>
    rw [news_of_layerChange_eq_none change, taken, session.kept.2.1]
    exact .nil _

theorem leads_run {ops : List Op} (hrooted : ∀ snapshot ∈ h.snapshotsIn e ops, snapshot.Rooted) :
    Event.Leads h.session.registry.active (h.newsIn e ops)
      (h.run e ops).session.registry.active := by
  induction ops generalizing h with
  | nil => exact .nil _
  | cons op ops ih =>
    refine (leads_step ?_).append (ih ?_)
    · intro snapshot htold
      exact hrooted snapshot (List.mem_append_left _ (by simp [htold]))
    · intro snapshot htold
      exact hrooted snapshot (List.mem_append_right _ htold)

/-- Renders are told of when their rows are taken over. -/
theorem rendered_news (e : Engine) (h : Host) (op : Op) :
    (h.news e op).filterMap Event.rendered? =
      (h.takenBy e op).map fun rows => (rows.generation, rows.size) := by
  cases hc : h.layerChange? e op with
  | none =>
    rw [news_of_layerChange_eq_none hc, List.filterMap_map, ← List.filterMap_eq_map]
    rfl
  | some c =>
    rw [news_of_layerChange hc, takenBy_of_layerChange hc, LayerChange.news]
    split_ifs
    · cases c <;> rfl
    · rfl

theorem rendered_newsIn (e : Engine) (h : Host) (ops : List Op) :
    (h.newsIn e ops).filterMap Event.rendered? =
      (h.takenIn e ops).map fun rows => (rows.generation, rows.size) := by
  induction ops generalizing h with
  | nil => rfl
  | cons op ops ih =>
    rw [newsIn, takenIn, List.filterMap_append, List.map_append, rendered_news, ih]

theorem eq_activate_of_layerChange {id : LayerId} (hc : h.layerChange? e op = some (.activate id)) :
    op = .activate id := by
  cases op with
  | activate id' => cases hc; rfl
  | describe text languageName parsed layers =>
    obtain ⟨snapshot, -, ⟨⟩⟩ := Option.map_eq_some_iff.1 hc
  | _ => cases hc

/-- A layer is said to have vanished exactly when the session is told of a snapshot without it.
Otherwise another layer was chosen. -/
theorem fellBack_news {previous current : LayerId} {fellBack : Bool}
    (hmem : .activeLayerChanged previous current fellBack ∈ h.news e op) :
    previous = h.session.registry.active ∧
    (fellBack = true ↔ ∃ snapshot, h.snapshotBy? e op = some snapshot ∧
      ∀ l ∈ snapshot.layers, l.id ≠ previous) ∧
    (fellBack = true → current = .root) ∧ (fellBack = false → op = .activate current) := by
  cases hc : h.layerChange? e op with
  | none => simp [news_of_layerChange_eq_none hc] at hmem
  | some c =>
    rw [news_of_layerChange hc, LayerChange.news] at hmem
    split_ifs at hmem with hmoves
    · have hevent := List.mem_singleton.1 hmem
      cases c with
      | activate id =>
        cases hevent
        refine ⟨rfl, ?_, by simp, fun _ => eq_activate_of_layerChange hc⟩
        simp [snapshotBy?, hc]
      | document snapshot =>
        cases hevent
        exact ⟨rfl, iff_of_true rfl ⟨snapshot, by rw [snapshotBy?, hc], hmoves⟩, fun _ => rfl,
          by simp⟩
    · cases hmem

/-- **The log of events tells the truth.** Let the session of a host start on a rooted snapshot, and
be told of rooted snapshots only. The host may have rows of any origin to hand to the session. After
any operations:

* the active layer is one of the layers there are;
* the log is all that there was to tell of the operations, one after the other;
* its changes of the active layer lead, each from where the one before led to, from the root layer
  to the layer that is active;
* the generations it tells of increase.

One more operation adds to the log what there is to tell of it. If that is a change of the active
layer, it is from the layer that was active, and it is said to have vanished exactly if the session
is told of a snapshot without it; then the root becomes active, and otherwise the layer chosen. A
render is told of if and only if its rows are taken over, with the generation and the number of the
session's rows. -/
theorem log_tells_the_truth (e : Engine) (h₀ : Host) (snapshot : Snapshot)
    (options : SessionOptions) (ops : List Op) (hstart : h₀.session = .start snapshot options)
    (hrooted : ∀ told ∈ snapshot :: h₀.snapshotsIn e ops, told.Rooted) :
    let h := h₀.run e ops
    let s := h.session
    (∃ l ∈ s.registry.layers, l.id = s.registry.active) ∧
    s.events.told = h₀.newsIn e ops ∧
    Event.Leads .root s.events.told s.registry.active ∧
    (s.events.told.filterMap Event.rendered?).Pairwise (·.1 < ·.1) ∧
    ∀ op,
      let s' := (h.step e op).1.session
      s'.events.told = s.events.told ++ h.news e op ∧
      (∀ previous current fellBack, .activeLayerChanged previous current fellBack ∈ h.news e op →
        previous = s.registry.active ∧
        (fellBack = true ↔ ∃ told, h.snapshotBy? e op = some told ∧
          ∀ l ∈ told.layers, l.id ≠ previous) ∧
        (fellBack = true → current = .root) ∧ (fellBack = false → op = .activate current)) ∧
      (h.news e op).filterMap Event.rendered? =
        (h.takenBy e op).map fun _ => (s'.rows.generation, s'.rows.size) := by
  intro h s
  have hevents : h₀.session.events = {} := by rw [hstart, Session.start_eq]
  have hactive : h₀.session.registry.active = .root := by rw [hstart, Session.start_eq]; rfl
  have hlater : ∀ told ∈ h₀.snapshotsIn e ops, told.Rooted :=
    fun told hmem => hrooted told (List.mem_cons_of_mem _ hmem)
  have hshows : h₀.session.Shows snapshot :=
    hstart ▸ Session.shows_start (hrooted snapshot List.mem_cons_self) options
  have htold : s.events.told = h₀.newsIn e ops := by
    have hrun := told_run e h₀ ops
    rw [hevents] at hrun
    exact hrun
  refine ⟨?_, htold, ?_, ?_, ?_⟩
  · obtain ⟨hregistry, hactive⟩ := shows_run hshows hlater
    rwa [show s.registry.layers = _ from congrArg Registry.layers hregistry]
  · rw [htold, ← hactive]
    exact leads_run hlater
  · rw [htold, rendered_newsIn]
    exact List.pairwise_map.2 (List.pairwise_map.1 (pairwise_takenIn e h₀ ops))
  · intro op s'
    refine ⟨told_step e h op, fun previous current fellBack hmem => fellBack_news hmem, ?_⟩
    rw [rendered_news]
    refine List.map_congr_left fun rows hmem => ?_
    rw [show s'.rows = rows from rows_of_mem_takenBy hmem]

/-- The array is rendered, a render of before comes too late, the number is looked for and found,
and then it is gone. -/
def layeredOps : List Op :=
  [.begin, .finish 0, .update, .commit 0, .activate ⟨7⟩, .activate ⟨1⟩, .activate ⟨1⟩, .update,
    .change (arraySnapshot (some (arrayTree 1)))]

theorem rooted_layeredOps :
    ∀ told ∈ layeredSnapshot :: layeredHost.snapshotsIn arrayEngine layeredOps, told.Rooted := by
  have hsnapshots : layeredHost.snapshotsIn arrayEngine layeredOps =
      [arraySnapshot (some (arrayTree 1))] := rfl
  rw [hsnapshots]
  rintro told (_ | ⟨_, _ | ⟨_, ⟨⟩⟩⟩)
  · exact ⟨rfl, rfl, by decide⟩
  · exact ⟨rfl, rfl, by decide⟩

/-- Two renders are told of, and between them that the number became active; that it is gone comes
last. -/
theorem log_tells_the_truth_layeredHost :
    layeredHost.session = .start layeredSnapshot {} ∧
    (∀ told ∈ layeredSnapshot :: layeredHost.snapshotsIn arrayEngine layeredOps, told.Rooted) ∧
    layeredHost.newsIn arrayEngine layeredOps =
      [.renderComplete 2 3, .activeLayerChanged .root ⟨1⟩ false, .renderComplete 4 3,
        .activeLayerChanged ⟨1⟩ .root true] ∧
    (layeredHost.run arrayEngine layeredOps).session.events.told =
      layeredHost.newsIn arrayEngine layeredOps ∧
    Event.Leads .root (layeredHost.run arrayEngine layeredOps).session.events.told
      (layeredHost.run arrayEngine layeredOps).session.registry.active := by
  obtain ⟨-, htold, hleads, -⟩ := log_tells_the_truth arrayEngine layeredHost layeredSnapshot {}
    layeredOps rfl rooted_layeredOps
  exact ⟨rfl, rooted_layeredOps, by decide +kernel, htold, hleads⟩

end Host

end SyntaxInspector
