import SyntaxInspector.Proofs.Session.Grammars

/-!
# Marks of injected ranges

Whether the ranges of the active layer are marked, and the marks themselves, are kept beside the
layers, and every operation that changes the layers or the options has to bring them up to date. The
root layer is known by its id in one place and by its kind in another.

* `Session.Marked` — the invariant of a session;
* `Session.marked_refreshOverlay` — marking anew restores it, if the root is not to be marked;
* `Host.overlay_marks_active_layer` — all runs of a host.
-/

namespace SyntaxInspector

namespace Session

/-- The ranges of the active layer are marked if they are to be, and those of the root are not to
be. -/
structure Marked (s : Session) : Prop where
  hidden : s.registry.active = .root → s.options.showInjectionRanges = false
  overlay : s.overlay =
    if s.options.showInjectionRanges then s.activeLayer.ranges.map (⟨·, .injection⟩) else []

variable {s s' : Session} {snapshot : Snapshot} {op : Op}

/-- Layers, options and marks are all that counts. -/
theorem Marked.congr (h : s.Marked) (hregistry : s'.registry = s.registry)
    (hvisible : s'.options.showInjectionRanges = s.options.showInjectionRanges)
    (hoverlay : s'.overlay = s.overlay) : s'.Marked := by
  have hlayer : s'.activeLayer = s.activeLayer := congrArg Registry.activeLayer hregistry
  refine ⟨?_, ?_⟩
  · rw [hregistry, hvisible]
    exact h.hidden
  · rw [hoverlay, hvisible, hlayer]
    exact h.overlay

/-- The ranges are marked anew: the layer tested by its kind is the one hidden by its id. -/
theorem marked_refreshOverlay (hs : s.Shows snapshot) (hrooted : snapshot.Rooted)
    (hhidden : s.registry.active = .root → s.options.showInjectionRanges = false) :
    s.refreshOverlay.Marked := by
  refine ⟨hhidden, ?_⟩
  have hroot := hs.isRoot_activeLayer hrooted
  change (if s.options.showInjectionRanges && !s.activeLayer.isRoot then _ else _) =
    if s.options.showInjectionRanges then _ else _
  cases hvisible : s.options.showInjectionRanges with
  | false => rfl
  | true =>
    have hne : s.registry.active ≠ .root := by
      intro hactive
      rw [hhidden hactive] at hvisible
      cases hvisible
    rw [hroot, LayerId.isRoot, beq_eq_false_iff_ne.2 hne]
    rfl

theorem hidden_hideOverlayAtRoot (s : Session) :
    s.hideOverlayAtRoot.registry.active = .root →
      s.hideOverlayAtRoot.options.showInjectionRanges = false := by
  rw [hideOverlayAtRoot_eq]
  intro hactive
  dsimp only at hactive ⊢
  rw [hactive]
  exact Bool.and_false _

theorem marked_start (snapshot : Snapshot) (options : SessionOptions) :
    (start snapshot options).Marked := by
  rw [start_eq]
  exact ⟨fun _ => rfl, rfl⟩

/-- Injected ranges are marked or not, but never at the root. -/
theorem marked_setShowInjectionRanges (hs : s.Shows snapshot) (hrooted : snapshot.Rooted)
    (shown : Bool) : (s.setShowInjectionRanges shown).1.Marked := by
  refine marked_refreshOverlay (hs.of_registry_eq ?_) hrooted (hidden_hideOverlayAtRoot _)
  rw [hideOverlayAtRoot_eq]

theorem Aside.marked (h : s.Aside op s') (hs : s.Shows snapshot) (hrooted : snapshot.Rooted)
    (hmarked : s.Marked) : s'.Marked := by
  cases h with
  | undisturbed _ h => exact hmarked.congr h.registry h.visible h.overlay
  | showInjectionRanges shown => exact marked_setShowInjectionRanges hs hrooted shown
  | moveCursor selection =>
    obtain ⟨node, row, heq⟩ := exists_moveCursor_eq s selection
    rw [heq]
    exact hmarked.congr rfl rfl rfl
  | selectRow index =>
    obtain ⟨node, row, echo, heq⟩ := exists_selectRow_eq s index
    rw [heq]
    exact hmarked.congr rfl rfl rfl

theorem marked_takeOver (hs : s.Shows snapshot) (hrooted : snapshot.Rooted) (hmarked : s.Marked)
    (e : Engine) (rows : RowSequence) : (s.takeOver e rows).Marked := by
  obtain ⟨node, row, highlights, resolver, heq⟩ := exists_takeOver_eq s e rows
  rw [heq]
  exact (marked_refreshOverlay hs hrooted hmarked.hidden).congr rfl rfl rfl

/-- Another layer, or other layers around the active one. -/
theorem Marked.apply (hmarked : s.Marked) {c : LayerChange} (hs : (c.apply s).1.Shows snapshot)
    (hrooted : snapshot.Rooted) : (c.apply s).1.Marked := by
  by_cases hmoves : c.Moves s.registry
  · rw [apply_of_moves s hmoves] at hs ⊢
    exact marked_refreshOverlay (hs.of_registry_eq rfl) hrooted (hidden_hideOverlayAtRoot _)
  · rcases apply_of_not_moves s hmoves with ⟨heq, -⟩ | ⟨told, -, heq⟩
    · rw [heq]
      exact hmarked
    · rw [heq] at hs ⊢
      exact marked_refreshOverlay (hs.of_registry_eq rfl) hrooted hmarked.hidden

end Session

namespace Host

variable {e : Engine} {h : Host} {op : Op} {current : Snapshot}

/-- What is true of the current snapshot and of those that an operation tells of is true of the
current snapshot afterwards. -/
theorem rooted_getD (hcurrent : current.Rooted)
    (hrooted : ∀ told, h.snapshotBy? e op = some told → told.Rooted) :
    ((h.snapshotBy? e op).getD current).Rooted := by
  cases hby : h.snapshotBy? e op with
  | none => exact hcurrent
  | some told => exact hrooted told hby

theorem marked_step (hs : h.session.Shows current) (hcurrent : current.Rooted)
    (hrooted : ∀ told, h.snapshotBy? e op = some told → told.Rooted)
    (hmarked : h.session.Marked) : (h.step e op).1.session.Marked := by
  cases stepKind e h op with
  | changes c _ _ session =>
    have hafter := shows_step hs hrooted
    rw [session] at hafter ⊢
    exact hmarked.apply hafter (rooted_getD hcurrent hrooted)
  | takes rows _ _ session =>
    rw [session]
    have hmarked' : (h.receiving op).Marked := by
      rcases receiving_cases h op with heq | heq
      · rw [heq]
        exact hmarked
      · rw [heq]
        exact hmarked.congr rfl rfl rfl
    exact Session.marked_takeOver (hs.of_registry_eq (registry_receiving h op)) hcurrent hmarked' e
      rows
  | aside _ _ session => exact session.marked hs hcurrent hmarked

theorem marked_run {ops : List Op} (hs : h.session.Shows current)
    (hrooted : ∀ told ∈ current :: h.snapshotsIn e ops, told.Rooted)
    (hmarked : h.session.Marked) : (h.run e ops).session.Marked := by
  induction ops generalizing h current with
  | nil => exact hmarked
  | cons op ops ih =>
    have hcurrent : current.Rooted := hrooted current List.mem_cons_self
    have hnow : ∀ told, h.snapshotBy? e op = some told → told.Rooted := by
      intro told htold
      exact hrooted told (by simp [snapshotsIn, htold])
    refine ih (shows_step hs hnow) ?_ (marked_step hs hcurrent hnow hmarked)
    rintro told (_ | ⟨_, hlater⟩)
    · exact rooted_getD hcurrent hnow
    · exact hrooted told (List.mem_cons_of_mem _ (List.mem_append_right _ hlater))

/-- **The overlay marks the ranges of the active layer.** Let the session of a host start on a
rooted snapshot, under any options, and be told of rooted snapshots only. The host may have rows of
any origin to hand to the session. After any operations, the layers are those of the snapshot told
of last, the active layer is one of them, and:

* injected ranges are to be marked only if that layer is not the root, by its id and by its kind;
* if they are to be marked, there is one mark of the fifth category for each of the layer's ranges,
  in order, and otherwise there is none. -/
theorem overlay_marks_active_layer (e : Engine) (h₀ : Host) (snapshot : Snapshot)
    (options : SessionOptions) (ops : List Op) (hstart : h₀.session = .start snapshot options)
    (hrooted : ∀ told ∈ snapshot :: h₀.snapshotsIn e ops, told.Rooted) :
    let s := (h₀.run e ops).session
    let current := (h₀.snapshotsIn e ops).getLastD snapshot
    s.registry.layers = current.layers ∧
    s.activeLayer ∈ current.layers ∧ s.activeLayer.id = s.registry.active ∧
    (s.options.showInjectionRanges = true →
      s.registry.active ≠ .root ∧ s.activeLayer.isRoot = false) ∧
    s.overlay =
      if s.options.showInjectionRanges then s.activeLayer.ranges.map (⟨·, ⟨5⟩⟩) else [] := by
  intro s current
  have hshows : h₀.session.Shows snapshot :=
    hstart ▸ Session.shows_start (hrooted snapshot List.mem_cons_self) options
  have hlater : ∀ told ∈ h₀.snapshotsIn e ops, told.Rooted :=
    fun told hmem => hrooted told (List.mem_cons_of_mem _ hmem)
  have hs : s.Shows current := shows_run hshows hlater
  have hmarked : s.Marked :=
    marked_run hshows hrooted (hstart ▸ Session.marked_start snapshot options)
  obtain ⟨hmem, hid⟩ := hs.activeLayer_mem
  refine ⟨congrArg Registry.layers hs.registry, hmem, hid, ?_, hmarked.overlay⟩
  intro hvisible
  have hne : s.registry.active ≠ .root := by
    intro hactive
    rw [hmarked.hidden hactive] at hvisible
    cases hvisible
  refine ⟨hne, ?_⟩
  rw [hs.isRoot_activeLayer (hrooted current List.getLastD_mem_cons)]
  exact beq_eq_false_iff_ne.2 hne

/-- Ranges are to be marked at the root, in vain, and then in the layer of a letter, which is still
there when the document is as it was before. -/
def wordMarks : List Op :=
  [.showInjectionRanges true, .activate ⟨2⟩, .showInjectionRanges true, .change olderWord, .update]

/-- The range of the letter is marked. -/
theorem overlay_marks_active_layer_wordHost :
    wordHost.session = .start newerWord {} ∧
    (∀ told ∈ newerWord :: wordHost.snapshotsIn letterQueries wordMarks, told.Rooted) ∧
    (wordHost.run letterQueries wordMarks).session.options.showInjectionRanges = true ∧
    (wordHost.run letterQueries wordMarks).session.registry.active ≠ .root ∧
    (wordHost.run letterQueries wordMarks).session.activeLayer.ranges = [⟨⟨0, 0⟩, ⟨0, 1⟩⟩] ∧
    (wordHost.run letterQueries wordMarks).session.overlay = [⟨⟨⟨0, 0⟩, ⟨0, 1⟩⟩, ⟨5⟩⟩] := by
  have hsnapshots : wordHost.snapshotsIn letterQueries wordMarks = [olderWord] := rfl
  have hrooted :
      ∀ told ∈ newerWord :: wordHost.snapshotsIn letterQueries wordMarks, told.Rooted := by
    rw [hsnapshots]
    rintro told (_ | ⟨_, _ | ⟨_, ⟨⟩⟩⟩)
    · exact Document.rooted_snapshot_edits _ _ _
    · exact Document.rooted_snapshot_edits _ _ _
  have hvisible :
      (wordHost.run letterQueries wordMarks).session.options.showInjectionRanges = true := by
    decide +kernel
  have hranges : (wordHost.run letterQueries wordMarks).session.activeLayer.ranges =
      [⟨⟨0, 0⟩, ⟨0, 1⟩⟩] := by
    decide +kernel
  obtain ⟨-, -, -, hroot, hoverlay⟩ := overlay_marks_active_layer letterQueries wordHost newerWord
    {} wordMarks rfl hrooted
  rw [hranges, hvisible] at hoverlay
  exact ⟨rfl, hrooted, hvisible, (hroot hvisible).1, hranges, hoverlay⟩

end Host

end SyntaxInspector
