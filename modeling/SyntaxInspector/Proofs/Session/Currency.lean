import Mathlib.Data.List.Nodup
import SyntaxInspector.Proofs.Session.Frames
import SyntaxInspector.Session.Host

/-!
# Only current renders are taken over

Whatever a host does, a render in progress is a render of the active layer's tree as it is now,
under the options as they are now: every operation that changes one of these makes the render
stale. Rows are taken over only from the render in progress, so they are the rows of that tree.

* `Session.SameRender`, `Session.Lapsed` — the two things an operation may do to a render;
* `Host.begunIn`, `Host.takenIn` — the jobs begun and the rows taken over in a run;
* `Host.Tracked` — the invariant of a host, given the jobs begun so far;
* `Host.renders_taken_over_are_current` — what is taken over.
-/

namespace SyntaxInspector

/-! ### What operations do to a render in progress -/

namespace Session

/-- Nothing that a render in progress depends on has changed. -/
structure SameRender (s s' : Session) : Prop where
  counter : s'.counter = s.counter
  inFlight : s'.inFlight = s.inFlight
  tree : s'.activeTree? = s.activeTree?
  options : s'.options.render = s.options.render

/-- No render is in progress any more. -/
structure Lapsed (s s' : Session) : Prop where
  inFlight : s'.inFlight = none
  counter : s.counter.current ≤ s'.counter.current

theorem SameRender.refl (s : Session) : SameRender s s := ⟨rfl, rfl, rfl, rfl⟩

variable (s : Session)

theorem sameRender_moveCursor (selection : Range) : SameRender s (s.moveCursor selection).1 := by
  obtain ⟨node, row, heq⟩ := exists_moveCursor_eq s selection
  rw [heq]
  exact ⟨rfl, rfl, rfl, rfl⟩

theorem sameRender_selectRow (index : Nat) : SameRender s (s.selectRow index).1 := by
  obtain ⟨node, row, echo, heq⟩ := exists_selectRow_eq s index
  rw [heq]
  exact ⟨rfl, rfl, rfl, rfl⟩

theorem sameRender_runQuery (e : Engine) (bounds : Option Range) :
    SameRender s (s.runQuery e bounds).1 := by
  obtain ⟨highlights, resolver, heq⟩ := exists_runQuery_eq s e bounds
  rw [heq]
  exact ⟨rfl, rfl, rfl, rfl⟩

theorem sameRender_compileQuery (e : Engine) (source : String) :
    SameRender s (s.compileQuery e source).1 := by
  obtain ⟨status, marks, query, highlights, resolver, heq⟩ := exists_compileQuery_eq s e source
  rw [heq]
  exact ⟨rfl, rfl, rfl, rfl⟩

theorem sameRender_setShowInjectionRanges (shown : Bool) :
    SameRender s (s.setShowInjectionRanges shown).1 := by
  obtain ⟨visible, overlay, heq⟩ := exists_setShowInjectionRanges_eq s shown
  rw [heq]
  exact ⟨rfl, rfl, rfl, rfl⟩

@[simp] theorem rows_takeOver (e : Engine) (rows : RowSequence) :
    (s.takeOver e rows).rows = rows := by
  obtain ⟨node, row, highlights, resolver, heq⟩ := exists_takeOver_eq s e rows
  rw [heq]

theorem activeTree?_takeOver (e : Engine) (rows : RowSequence) :
    (s.takeOver e rows).activeTree? = s.activeTree? := by
  obtain ⟨node, row, highlights, resolver, heq⟩ := exists_takeOver_eq s e rows
  rw [heq]
  rfl

theorem options_takeOver (e : Engine) (rows : RowSequence) :
    (s.takeOver e rows).options = s.options := by
  obtain ⟨node, row, highlights, resolver, heq⟩ := exists_takeOver_eq s e rows
  rw [heq]

theorem lapsed_takeOver (e : Engine) (rows : RowSequence) : Lapsed s (s.takeOver e rows) := by
  obtain ⟨node, row, highlights, resolver, heq⟩ := exists_takeOver_eq s e rows
  rw [heq]
  exact ⟨rfl, Nat.le_refl _⟩

theorem lapsed_documentChanged (snapshot : Snapshot) : Lapsed s (s.documentChanged snapshot) := by
  unfold documentChanged
  dsimp only
  split
  · exact ⟨rfl, Nat.le_succ _⟩
  · rename_i registry previous _
    obtain ⟨visible, heq⟩ := exists_hideOverlayAtRoot_eq
      { { s with text := snapshot.text }.invalidateRender with registry }.clearLayerState
    rw [heq]
    exact ⟨rfl, Nat.le_succ _⟩

theorem setActiveLayer_cases (id : LayerId) :
    SameRender s (s.setActiveLayer id).1 ∨ Lapsed s (s.setActiveLayer id).1 := by
  unfold setActiveLayer
  split_ifs
  · exact .inl (.refl s)
  · exact .inl (.refl s)
  · obtain ⟨visible, heq⟩ := exists_hideOverlayAtRoot_eq
      { s with registry := { s.registry with active := id } }.invalidateRender.clearLayerState
    dsimp only
    rw [heq]
    exact .inr ⟨rfl, Nat.le_succ _⟩

theorem setShowAnonymous_cases (shown : Bool) :
    SameRender s (s.setShowAnonymous shown) ∨ Lapsed s (s.setShowAnonymous shown) := by
  unfold setShowAnonymous
  split
  · exact .inl (.refl s)
  · exact .inr ⟨rfl, Nat.le_succ _⟩

theorem finishRender_cases (e : Engine) (rows : RowSequence) :
    SameRender s (s.finishRender e rows).1 ∨ Lapsed s (s.finishRender e rows).1 := by
  cases hcurrent : s.isCurrent rows with
  | true =>
    rw [finishRender_of_current hcurrent]
    exact .inr (lapsed_takeOver s e rows)
  | false =>
    rw [finishRender_of_stale hcurrent]
    exact .inl (.refl s)

theorem update_cases (e : Engine) :
    SameRender s (s.update e).1 ∨ Lapsed s (s.update e).1 := by
  cases ht : s.activeTree? with
  | none =>
    rw [update_of_none ht]
    exact .inl (.refl s)
  | some t =>
    rw [update_eq ht]
    have htaken := lapsed_takeOver s.begun e (s.renderJob t).reference
    exact .inr ⟨htaken.inFlight, Nat.le_trans (Nat.le_succ _) htaken.counter⟩

/-- The least generation that rows taken over from now on can have. -/
def floor : Nat := if s.inFlight.isSome then s.counter.current else s.counter.current + 1

theorem floor_le : s.floor ≤ s.counter.current + 1 := by
  unfold floor
  split_ifs <;> omega

variable {s}

theorem SameRender.floor {s' : Session} (h : SameRender s s') : s'.floor = s.floor := by
  rw [Session.floor, Session.floor, h.inFlight, h.counter]

theorem Lapsed.lt_floor {s' : Session} (h : Lapsed s s') : s.counter.current < s'.floor := by
  have hcounter := h.counter
  rw [Session.floor, h.inFlight]
  simp only [Option.isSome_none, Bool.false_eq_true, if_false]
  omega

end Session

/-! ### The jobs begun and their tickets -/

/-- A ticket tells of the job it was given for: what is left of it, and its rows once complete. -/
structure Ticket.Tells (t : Ticket) (j : Job) : Prop where
  job : ∀ live, t.job = some live → Job.Slices j live
  rows : ∀ rows, t.rows = some rows → rows = j.reference

namespace Ticket.Tells

variable {job live : Job} {rows : Option RowSequence} {j : Job}

/-- The ticket of a job just begun. -/
theorem start (j : Job) : Tells ⟨some j, none⟩ j := by
  constructor
  · rintro live ⟨rfl⟩
    exact .refl
  · rintro rows ⟨⟩

/-- A slice goes by. -/
theorem slice (h : Tells ⟨some job, rows⟩ j) {counter : Counter}
    (hres : job.resume counter = .yielded live) : Tells ⟨some live, rows⟩ j := by
  constructor
  · rintro _ ⟨rfl⟩
    exact (h.job job rfl).tail ⟨counter, hres⟩
  · exact h.rows

/-- The job is gone without its rows. -/
theorem gone (h : Tells ⟨some job, rows⟩ j) : Tells ⟨none, rows⟩ j := by
  constructor
  · rintro live ⟨⟩
  · exact h.rows

/-- The job is gone and has left its rows. -/
theorem complete (j : Job) : Tells ⟨none, some j.reference⟩ j := by
  constructor
  · rintro live ⟨⟩
  · rintro rows ⟨rfl⟩
    rfl

end Ticket.Tells

namespace Host

/-- The job that an operation begins, if it begins one. -/
def begunBy (h : Host) : Op → List Job
  | .begin => h.session.beginRender.2.toOption.toList
  | _ => []

/-- The jobs begun in a run, in order. -/
def begunIn (e : Engine) : Host → List Op → List Job
  | _, [] => []
  | h, op :: ops => h.begunBy op ++ begunIn e (h.step e op).1 ops

/-- The tickets of a host tell of the jobs begun, one by one. -/
structure Holds (started : List Job) (tickets : List Ticket) : Prop where
  sound : ∀ j ∈ started, j.Sound
  length : started.length = tickets.length
  tells : ∀ (k : Nat) (j : Job) (t : Ticket),
    started[k]? = some j → tickets[k]? = some t → t.Tells j

/-- The render in progress is a render of what the session shows. -/
structure Current (started : List Job) (s : Session) : Prop where
  increasing : (started.map Job.generation).Pairwise (· < ·)
  bounded : ∀ j ∈ started, j.generation ≤ s.counter.current
  inFlight : ∀ g, s.inFlight = some g → g = s.counter.current ∧
    ∃ t, s.activeTree? = some t ∧ ∃ j ∈ started, j.generation = g ∧
      j.root = some t.copy.root ∧ j.options = s.options.render

variable {e : Engine} {started : List Job} {tickets : List Ticket} {s s' : Session}

theorem Holds.push {j : Job} (h : Holds started tickets) (hj : j.Sound) :
    Holds (started ++ [j]) (tickets ++ [⟨some j, none⟩]) where
  sound := by
    intro j' hj'
    rcases List.mem_append.1 hj' with hold | hnew
    · exact h.sound j' hold
    · rw [List.mem_singleton.1 hnew]
      exact hj
  length := by simp [h.length]
  tells := by
    intro k j' t hj' ht
    by_cases hk : k < started.length
    · rw [List.getElem?_append_left hk] at hj'
      rw [List.getElem?_append_left (by rw [← h.length]; exact hk)] at ht
      exact h.tells k j' t hj' ht
    · rw [List.getElem?_append_right (by omega)] at hj'
      rw [List.getElem?_append_right (by rw [← h.length]; omega), ← h.length] at ht
      obtain ⟨hk₀, rfl⟩ : k - started.length = 0 ∧ j = j' := by
        simpa [List.getElem?_singleton] using hj'
      rw [hk₀] at ht
      cases ht
      exact .start j

theorem Holds.set {k : Nat} {old new : Ticket} (h : Holds started tickets)
    (hold : tickets[k]? = some old) (hnew : ∀ j, j.Sound → old.Tells j → new.Tells j) :
    Holds started (tickets.set k new) where
  sound := h.sound
  length := by rw [h.length, List.length_set]
  tells := by
    intro k' j t hj ht
    by_cases hk : k = k'
    · subst hk
      rw [List.getElem?_set_self (List.getElem?_eq_some_iff.1 hold).1] at ht
      cases ht
      exact hnew j (h.sound j (List.mem_of_getElem? hj)) (h.tells k j old hj hold)
    · rw [List.getElem?_set_ne hk] at ht
      exact h.tells k' j t hj ht

theorem Current.same (h : Current started s) (hs : s.SameRender s') : Current started s' where
  increasing := h.increasing
  bounded := by rw [hs.counter]; exact h.bounded
  inFlight := by
    rw [hs.inFlight, hs.counter, hs.tree, hs.options]
    exact h.inFlight

theorem Current.lapsed (h : Current started s) (hs : s.Lapsed s') : Current started s' where
  increasing := h.increasing
  bounded j hj := Nat.le_trans (h.bounded j hj) hs.counter
  inFlight := by
    intro g hg
    rw [hs.inFlight] at hg
    cases hg

theorem Current.begun {t : SyntaxTree} (h : Current started s) (ht : s.activeTree? = some t) :
    Current (started ++ [s.renderJob t]) s.begun where
  increasing := by
    rw [List.map_append, List.pairwise_append]
    refine ⟨h.increasing, List.pairwise_singleton _ _, ?_⟩
    intro a ha b hb
    obtain ⟨j, hj, rfl⟩ := List.mem_map.1 ha
    obtain rfl : b = (s.renderJob t).generation := by simpa using hb
    exact Nat.lt_succ_of_le (h.bounded j hj)
  bounded := by
    intro j hj
    rcases List.mem_append.1 hj with hold | hnew
    · exact Nat.le_succ_of_le (h.bounded j hold)
    · rw [List.mem_singleton.1 hnew]
      exact Nat.le_refl _
  inFlight := by
    intro g hg
    cases hg
    exact ⟨rfl, t, ht, s.renderJob t, by simp, rfl, rfl, rfl⟩

/-! ### One operation -/

/-- An operation that begins no job and leaves the tickets alone. -/
structure Plain (e : Engine) (h : Host) (op : Op) : Prop where
  begunBy : h.begunBy op = []
  tickets : (h.step e op).1.tickets = h.tickets
  session : h.session.SameRender (h.step e op).1.session ∨
    h.session.Lapsed (h.step e op).1.session

/-- An operation begins a render of a tree. -/
structure Begins (e : Engine) (h : Host) (op : Op) (t : SyntaxTree) : Prop where
  tree : h.session.activeTree? = some t
  begunBy : h.begunBy op = [h.session.renderJob t]
  tickets : (h.step e op).1.tickets = h.tickets ++ [⟨some (h.session.renderJob t), none⟩]
  session : (h.step e op).1.session = h.session.begun

theorem begins_of_tree {h : Host} {t : SyntaxTree} (htree : h.session.activeTree? = some t) :
    Begins e h .begin t := by
  have hbegin := Session.beginRender_eq htree
  refine ⟨htree, ?_, ?_, ?_⟩
  · rw [begunBy, hbegin]; rfl
  · simp only [step, hbegin]
  · simp only [step, hbegin]

theorem begin_cases (e : Engine) (h : Host) :
    Plain e h .begin ∨ ∃ t, Begins e h .begin t := by
  cases htree : h.session.activeTree? with
  | none =>
    have hbegin := Session.beginRender_of_none htree
    refine .inl ⟨?_, ?_, .inl ?_⟩
    · rw [begunBy, hbegin]; rfl
    · simp only [step, hbegin]
    · simp only [step, hbegin]; exact .refl _
  | some t => exact .inr ⟨t, begins_of_tree htree⟩

/-- What an operation may do: a plain change of the session, a slice or all slices of a render,
or the begin of one. -/
theorem step_cases (e : Engine) (h : Host) (op : Op) :
    Plain e h op ∨ (∃ number, op = .resume number) ∨ (∃ number, op = .finish number) ∨
      ∃ t, Begins e h op t := by
  cases op with
  | begin =>
    rcases begin_cases e h with hplain | hbegins
    · exact .inl hplain
    · exact .inr (.inr (.inr hbegins))
  | resume number => exact .inr (.inl ⟨number, rfl⟩)
  | finish number => exact .inr (.inr (.inl ⟨number, rfl⟩))
  | setText text =>
    refine .inl ⟨rfl, ?_, .inl ?_⟩ <;> unfold step <;> dsimp only <;> split
    · rfl
    · rfl
    · exact .refl _
    · exact .refl _
  | refresh => exact .inl ⟨rfl, rfl, .inr (Session.lapsed_documentChanged _ _)⟩
  | change snapshot => exact .inl ⟨rfl, rfl, .inr (Session.lapsed_documentChanged _ _)⟩
  | describe text languageName parsed layers =>
    refine .inl ⟨rfl, ?_, ?_⟩ <;> unfold step <;> dsimp only <;> split
    · rfl
    · rfl
    · exact .inr (Session.lapsed_documentChanged _ _)
    · exact .inl (.refl _)
  | activate id => exact .inl ⟨rfl, rfl, Session.setActiveLayer_cases _ _⟩
  | update => exact .inl ⟨rfl, rfl, Session.update_cases _ _⟩
  | commit number =>
    refine .inl ⟨rfl, ?_, ?_⟩ <;> unfold step <;> dsimp only <;> split
    · rfl
    · rfl
    · exact .inl (.refl _)
    · exact Session.finishRender_cases _ _ _
  | showAnonymous shown => exact .inl ⟨rfl, rfl, Session.setShowAnonymous_cases _ _⟩
  | showInjectionRanges shown =>
    exact .inl ⟨rfl, rfl, .inl (Session.sameRender_setShowInjectionRanges _ _)⟩
  | compileQuery source => exact .inl ⟨rfl, rfl, .inl (Session.sameRender_compileQuery _ _ _)⟩
  | runQuery bounds => exact .inl ⟨rfl, rfl, .inl (Session.sameRender_runQuery _ _ _)⟩
  | clearQuery => exact .inl ⟨rfl, rfl, .inl ⟨rfl, rfl, rfl, rfl⟩⟩
  | moveCursor selection => exact .inl ⟨rfl, rfl, .inl (Session.sameRender_moveCursor _ _)⟩
  | selectRow index => exact .inl ⟨rfl, rfl, .inl (Session.sameRender_selectRow _ _)⟩
  | subscribe => exact .inl ⟨rfl, rfl, .inl ⟨rfl, rfl, rfl, rfl⟩⟩
  | unsubscribe handle => exact .inl ⟨rfl, rfl, .inl ⟨rfl, rfl, rfl, rfl⟩⟩

/-- Slices of a render leave the session alone. -/
theorem session_resume (h : Host) (number : Nat) : (h.resume number).1.session = h.session := by
  unfold resume
  split
  · split <;> rfl
  · rfl

theorem session_finish (h : Host) (number : Nat) : (h.finish number).1.session = h.session := by
  unfold finish
  split
  · split <;> rfl
  · rfl

/-! ### The invariant -/

/-- The invariant of a host, given the jobs begun so far. -/
structure Tracked (started : List Job) (h : Host) : Prop where
  holds : Holds started h.tickets
  current : Current started h.session

variable {h : Host}

theorem Tracked.resume (ht : Tracked started h) (number : Nat) :
    Tracked started (h.resume number).1 := by
  unfold Host.resume
  split
  · rename_i job rows hticket
    split
    · rename_i live hres
      refine ⟨ht.holds.set hticket ?_, ht.current⟩
      intro j _ htells
      exact htells.slice hres
    · refine ⟨ht.holds.set hticket ?_, ht.current⟩
      intro j _ htells
      exact htells.gone
    · rename_i rows' hres
      refine ⟨ht.holds.set hticket ?_, ht.current⟩
      intro j hj htells
      rw [hj.eq_reference_of_resume (htells.job job rfl) hres]
      exact .complete j
  · exact ht

theorem Tracked.finish (ht : Tracked started h) (number : Nat) :
    Tracked started (h.finish number).1 := by
  unfold Host.finish
  split
  · rename_i job rows hticket
    split
    · rename_i rows' hfin
      refine ⟨ht.holds.set hticket ?_, ht.current⟩
      intro j hj htells
      rw [hj.eq_reference_of_finish (htells.job job rfl) hfin]
      exact .complete j
    · refine ⟨ht.holds.set hticket ?_, ht.current⟩
      intro j _ htells
      exact htells.gone
  · exact ht

/-- Every operation keeps the invariant, with the job it begins added. -/
theorem Tracked.step (ht : Tracked started h) (op : Op) :
    Tracked (started ++ h.begunBy op) (h.step e op).1 := by
  rcases step_cases e h op with hplain | ⟨number, rfl⟩ | ⟨number, rfl⟩ | ⟨t, hbegins⟩
  · rw [hplain.begunBy, List.append_nil]
    refine ⟨hplain.tickets.symm ▸ ht.holds, ?_⟩
    rcases hplain.session with hsame | hlapsed
    · exact ht.current.same hsame
    · exact ht.current.lapsed hlapsed
  · exact (List.append_nil started).symm ▸ ht.resume number
  · exact (List.append_nil started).symm ▸ ht.finish number
  · rw [hbegins.begunBy]
    refine ⟨?_, ?_⟩
    · rw [hbegins.tickets]
      exact ht.holds.push (Job.sound_start _ _ _)
    · rw [hbegins.session]
      exact ht.current.begun hbegins.tree

/-- A run keeps the invariant, with the jobs it begins added. -/
theorem Tracked.run (ht : Tracked started h) (ops : List Op) :
    Tracked (started ++ h.begunIn e ops) (h.run e ops) := by
  induction ops generalizing started h with
  | nil => simpa [begunIn] using ht
  | cons op ops ih =>
    rw [begunIn, ← List.append_assoc, run_cons]
    exact ih (ht.step op)

/-! ### What is taken over -/

/-- The rows that an operation takes over, if it takes any. -/
def takenBy (e : Engine) (h : Host) (op : Op) : List RowSequence :=
  match op, (h.step e op).2 with
  | .commit _, .flag true => [(h.step e op).1.session.rows]
  | .update, .rows rows => [rows]
  | _, _ => []

/-- The rows taken over in a run, in order. -/
def takenIn (e : Engine) : Host → List Op → List RowSequence
  | _, [] => []
  | h, op :: ops => h.takenBy e op ++ takenIn e (h.step e op).1 ops

/-- Rows that a ticket has are taken over if they are current; otherwise nothing happens. -/
theorem step_commit {number : Nat} {rows : RowSequence}
    (hrows : (h.ticket? number).bind Ticket.rows = some rows) :
    h.step e (.commit number) =
      if h.session.isCurrent rows then ({ h with session := h.session.takeOver e rows }, .flag true)
      else (h, .flag false) := by
  unfold Host.step
  simp only [hrows]
  split_ifs with hcurrent
  · rw [Session.finishRender_of_current hcurrent]
  · rw [Session.finishRender_of_stale (by simpa using hcurrent)]

theorem step_commit_of_none {number : Nat} (hrows : (h.ticket? number).bind Ticket.rows = none) :
    h.step e (.commit number) = (h, .noRows) := by
  unfold Host.step
  simp only [hrows]

/-- Rows are taken over from a ticket, if they are current, or in one go with their render. -/
theorem mem_takenBy {op : Op} {rows : RowSequence} (hmem : rows ∈ h.takenBy e op) :
    (∃ number, op = .commit number ∧ (h.ticket? number).bind Ticket.rows = some rows ∧
      h.session.isCurrent rows = true) ∨
    (op = .update ∧ ∃ t, h.session.activeTree? = some t ∧
      rows = (h.session.renderJob t).reference) := by
  unfold takenBy at hmem
  split at hmem
  · rename_i number hflag
    cases hrows : (h.ticket? number).bind Ticket.rows with
    | none => rw [step_commit_of_none hrows] at hflag; cases hflag
    | some rows' =>
      rw [step_commit hrows] at hflag hmem
      split_ifs at hflag hmem with hcurrent
      · obtain rfl : rows = rows' := by simpa using hmem
        exact .inl ⟨number, rfl, hrows, hcurrent⟩
      · cases hflag
  · rename_i rows' hreply
    obtain rfl : rows = rows' := by simpa using hmem
    cases htree : h.session.activeTree? with
    | none =>
      simp only [Host.step, Session.update_of_none htree] at hreply
      cases hreply
    | some t =>
      simp only [Host.step, Session.update_eq htree] at hreply
      refine .inr ⟨rfl, t, rfl, ?_⟩
      rw [Session.rows_takeOver] at hreply
      cases hreply
      rfl
  · cases hmem

/-- What is left once rows are taken over. -/
theorem session_of_mem_takenBy {op : Op} {rows : RowSequence} (hmem : rows ∈ h.takenBy e op) :
    (h.session.isCurrent rows = true ∧ (h.step e op).1.session = h.session.takeOver e rows) ∨
    (∃ t, h.session.activeTree? = some t ∧ rows = (h.session.renderJob t).reference ∧
      (h.step e op).1.session = h.session.begun.takeOver e rows) := by
  rcases mem_takenBy hmem with ⟨number, rfl, hrows, hcurrent⟩ | ⟨rfl, t, htree, rfl⟩
  · rw [step_commit hrows, if_pos hcurrent]
    exact .inl ⟨hcurrent, rfl⟩
  · refine .inr ⟨t, htree, rfl, ?_⟩
    simp only [Host.step, Session.update_eq htree]

/-- Every generation taken over lies at or above the floor before and below the floor after. -/
theorem floor_le_generation {op : Op} {rows : RowSequence} (hmem : rows ∈ h.takenBy e op) :
    h.session.floor ≤ rows.generation ∧ rows.generation < (h.step e op).1.session.floor := by
  rcases session_of_mem_takenBy hmem with ⟨hcurrent, hs⟩ | ⟨t, -, rfl, hs⟩
  · obtain ⟨hflight, hcounter⟩ := Session.isCurrent_iff.1 hcurrent
    have hafter := (Session.lapsed_takeOver h.session e rows).lt_floor
    rw [hs]
    refine ⟨?_, by omega⟩
    simp [Session.floor, hflight, hcounter]
  · have hafter := (Session.lapsed_takeOver h.session.begun e
      (h.session.renderJob t).reference).lt_floor
    rw [hs]
    exact ⟨h.session.floor_le, hafter⟩

/-- The floor never sinks. -/
theorem floor_le_step (e : Engine) (h : Host) (op : Op) :
    h.session.floor ≤ (h.step e op).1.session.floor := by
  rcases step_cases e h op with hplain | ⟨number, rfl⟩ | ⟨number, rfl⟩ | ⟨t, hbegins⟩
  · rcases hplain.session with hsame | hlapsed
    · exact Nat.le_of_eq hsame.floor.symm
    · have hle := h.session.floor_le
      have hlt := hlapsed.lt_floor
      omega
  · exact Nat.le_of_eq (congrArg Session.floor (session_resume h number).symm)
  · exact Nat.le_of_eq (congrArg Session.floor (session_finish h number).symm)
  · rw [hbegins.session]
    exact h.session.floor_le

theorem floor_le_of_mem_takenIn {ops : List Op} {rows : RowSequence}
    (hmem : rows ∈ h.takenIn e ops) : h.session.floor ≤ rows.generation := by
  induction ops generalizing h with
  | nil => cases hmem
  | cons op ops ih =>
    rcases List.mem_append.1 hmem with hnow | hlater
    · exact (floor_le_generation hnow).1
    · exact Nat.le_trans (floor_le_step e h op) (ih hlater)

/-- Successive generations taken over increase. -/
theorem pairwise_takenIn (e : Engine) (h : Host) (ops : List Op) :
    ((h.takenIn e ops).map RowSequence.generation).Pairwise (· < ·) := by
  induction ops generalizing h with
  | nil => exact List.Pairwise.nil
  | cons op ops ih =>
    rw [takenIn, List.map_append, List.pairwise_append]
    refine ⟨?_, ih _, ?_⟩
    · unfold takenBy
      split <;> simp
    · intro a ha b hb
      obtain ⟨now, hnow, rfl⟩ := List.mem_map.1 ha
      obtain ⟨later, hlater, rfl⟩ := List.mem_map.1 hb
      exact Nat.lt_of_lt_of_le (floor_le_generation hnow).2 (floor_le_of_mem_takenIn hlater)

/-- A job begun is known by its generation. -/
theorem Current.eq_of_generation_eq {j j' : Job} (h : Current started s) (hj : j ∈ started)
    (hj' : j' ∈ started) (heq : j.generation = j'.generation) : j = j' :=
  List.inj_on_of_nodup_map (h.increasing.imp Nat.ne_of_lt) hj hj' heq

/-- The rows of a ticket that are current are the rows of the active layer's tree. -/
theorem Tracked.rows_eq_of_isCurrent {number : Nat} {rows : RowSequence}
    (ht : Tracked started h) (hrows : (h.ticket? number).bind Ticket.rows = some rows)
    (hcurrent : h.session.isCurrent rows = true) :
    ∃ t, h.session.activeTree? = some t ∧
      rows.rows = t.copy.root.rows h.session.options.showAnonymous 0 := by
  obtain ⟨ticket, hticket, hrows⟩ := Option.bind_eq_some_iff.1 hrows
  -- the job that the ticket tells of
  have hlt : number < started.length := by
    rw [ht.holds.length]
    exact (List.getElem?_eq_some_iff.1 hticket).1
  have hj := List.getElem?_eq_getElem hlt
  have href := (ht.holds.tells number _ ticket hj hticket).rows rows hrows
  -- the job of the render in progress
  obtain ⟨hflight, -⟩ := Session.isCurrent_iff.1 hcurrent
  obtain ⟨-, t, htree, j', hj', hgen, hroot, hoptions⟩ := ht.current.inFlight _ hflight
  have hsame := ht.current.eq_of_generation_eq hj' (List.mem_of_getElem? hj)
    (by rw [hgen, href]; rfl)
  refine ⟨t, htree, ?_⟩
  rw [href, ← hsame, Job.reference, hroot, hoptions]
  rfl

/-- Whatever is taken over are the rows of the active layer's tree. -/
theorem Tracked.rows_eq_of_mem_takenBy {op : Op} {rows : RowSequence} (ht : Tracked started h)
    (hmem : rows ∈ h.takenBy e op) :
    (h.step e op).1.session.rows = rows ∧
    ∃ t, (h.step e op).1.session.activeTree? = some t ∧
      rows.rows = t.copy.root.rows (h.step e op).1.session.options.showAnonymous 0 := by
  rcases mem_takenBy hmem with ⟨number, rfl, hrows, hcurrent⟩ | ⟨rfl, t, htree, rfl⟩
  · rw [step_commit hrows, if_pos hcurrent]
    dsimp only
    rw [Session.rows_takeOver, Session.activeTree?_takeOver, Session.options_takeOver]
    exact ⟨rfl, ht.rows_eq_of_isCurrent hrows hcurrent⟩
  · simp only [Host.step, Session.update_eq htree]
    rw [Session.rows_takeOver, Session.activeTree?_takeOver, Session.options_takeOver]
    exact ⟨rfl, t, htree, rfl⟩

/-! ### Runs -/

/-- A host that has done nothing yet, with a session on any snapshot. -/
def opened (document : Document) (nextTree : Nat) (snapshot : Snapshot)
    (options : SessionOptions) : Host :=
  { document, session := .start snapshot options, nextTree }

theorem tracked_opened (document : Document) (nextTree : Nat) (snapshot : Snapshot)
    (options : SessionOptions) : Tracked [] (opened document nextTree snapshot options) := by
  obtain ⟨visible, hstart⟩ := Session.exists_hideOverlayAtRoot_eq
    { registry := .ofSnapshot snapshot, text := snapshot.text, options }
  refine ⟨⟨?_, rfl, ?_⟩, ⟨List.Pairwise.nil, ?_, ?_⟩⟩
  · simp
  · simp
  · simp
  · intro g hg
    rw [opened, Session.start, hstart] at hg
    cases hg

/-- **Only current renders are taken over.** After any run of a host:

* a render in progress has the counter's generation and is the one job begun with it, on the active
  layer's tree and under the options as they are now;
* rows that are taken over become the session's rows and are those of the active layer's tree, with
  or without anonymous nodes as the options say (renders are given a copy of the tree, which is the
  same but for the id of its root);
* the generations taken over so far increase, so none was taken over twice;
* rows that are refused leave the host as it was. -/
theorem renders_taken_over_are_current (e : Engine) (document : Document) (nextTree : Nat)
    (snapshot : Snapshot) (options : SessionOptions) (ops : List Op) :
    let h₀ := opened document nextTree snapshot options
    let h := h₀.run e ops
    (∀ g, h.session.inFlight = some g → g = h.session.counter.current ∧
      ∃ t, h.session.activeTree? = some t ∧ ∃ j ∈ h₀.begunIn e ops, j.generation = g ∧
        j.root = some t.copy.root ∧ j.options = h.session.options.render ∧
        ∀ j' ∈ h₀.begunIn e ops, j'.generation = g → j' = j) ∧
    (∀ op rows, rows ∈ h.takenBy e op → (h.step e op).1.session.rows = rows ∧
      ∃ t, (h.step e op).1.session.activeTree? = some t ∧
        rows.rows = t.copy.root.rows (h.step e op).1.session.options.showAnonymous 0) ∧
    ((h₀.takenIn e ops).map RowSequence.generation).Pairwise (· < ·) ∧
    (∀ number, (h.step e (.commit number)).2 = .flag false →
      (h.step e (.commit number)).1 = h) := by
  intro h₀ h
  have ht : Tracked (h₀.begunIn e ops) h :=
    (tracked_opened document nextTree snapshot options).run ops
  refine ⟨?_, fun op rows hmem => ht.rows_eq_of_mem_takenBy hmem, pairwise_takenIn e h₀ ops, ?_⟩
  · intro g hg
    obtain ⟨hcounter, t, htree, j, hj, hgen, hroot, hoptions⟩ := ht.current.inFlight g hg
    refine ⟨hcounter, t, htree, j, hj, hgen, hroot, hoptions, ?_⟩
    intro j' hj' hgen'
    exact ht.current.eq_of_generation_eq hj' hj (hgen'.trans hgen.symm)
  · intro number hflag
    cases hrows : (h.ticket? number).bind Ticket.rows with
    | none => rw [step_commit_of_none hrows]
    | some rows =>
      rw [step_commit hrows] at hflag ⊢
      split_ifs at hflag ⊢ with hcurrent
      · cases hflag
      · rfl

/-- An engine that knows no language. -/
def silentEngine : Engine where
  nodes _ language _ _ := .error (.noTree language.name)
  compile _ source := .error ⟨.language, .zero, source⟩
  captures _ _ _ _ := []

/-- A document with a tree of three nodes. -/
def nestedDocument : Document :=
  { language := ⟨"list", ["list"], []⟩, text := "(", tree := some ⟨0, Job.nestedSample, []⟩ }

/-- A host of that document, with a render a step at a time. -/
def nestedHost : Host := .start nestedDocument 1 { yieldInterval := ⟨1, Nat.one_pos⟩ }

/-- The rows of a second render are taken over, those of the first are not. -/
theorem renders_taken_over_are_current_nestedHost :
    ∃ t, (nestedHost.run silentEngine
        [.begin, .finish 0, .begin, .commit 0, .finish 1, .commit 1]).session.activeTree? = some t ∧
      (nestedHost.run silentEngine
        [.begin, .finish 0, .begin, .commit 0, .finish 1, .commit 1]).session.rows.rows =
          t.copy.root.rows false 0 := by
  obtain ⟨hrows, t, ht, heq⟩ := (renders_taken_over_are_current silentEngine nestedDocument 1
    nestedDocument.snapshot { yieldInterval := ⟨1, Nat.one_pos⟩ }
    [.begin, .finish 0, .begin, .commit 0, .finish 1]).2.1 (.commit 1) _ (List.Mem.head _)
  exact ⟨t, ht, heq⟩

end Host

end SyntaxInspector
