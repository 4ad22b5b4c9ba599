import SyntaxInspector.Proofs.Session.Currency

/-!
# Renders happen at once

A host may begin a render, do other things while it runs, and take the rows over at the end. As long
as those other things leave the render alone, the session ends up as if the whole render had
happened at once, after them. In between the two sessions may differ: a cursor that moves while a
render is in progress is not followed. Taking rows over finds the node under the cursor anew, which
brings the sessions together.

* `Op.IsPassive` — operations that leave a render alone;
* `Session.Alongside` — a session with a render in progress beside one where it is still to begin;
* `Session.Alongside.perform` — passive operations keep the two side by side;
* `Session.Alongside.takeOver_eq` — taking rows over brings them together;
* `Host.commit_eq_update` — the two runs of a host.
-/

namespace SyntaxInspector

namespace Op

/-- Whether an operation leaves a render of the session alone. -/
def IsPassive (s : Session) : Op → Prop
  | .moveCursor _ | .selectRow _ => True
  | .compileQuery _ | .runQuery _ | .clearQuery => True
  | .showInjectionRanges _ => True
  | .showAnonymous shown => shown = s.options.showAnonymous
  | .activate id => id = s.registry.active ∨ s.registry.find? id = none
  | .subscribe | .unsubscribe _ => True
  | _ => False

/-- Whether an operation runs slices of a given render. -/
def IsSlice (number : Nat) : Op → Prop
  | .resume k | .finish k => k = number
  | _ => False

/-- The session after a passive operation. -/
def perform (e : Engine) (s : Session) : Op → Session
  | .moveCursor selection => (s.moveCursor selection).1
  | .selectRow index => (s.selectRow index).1
  | .compileQuery source => (s.compileQuery e source).1
  | .runQuery bounds => (s.runQuery e bounds).1
  | .clearQuery => s.clearQuery
  | .showInjectionRanges shown => (s.setShowInjectionRanges shown).1
  | .subscribe => s.subscribe.1
  | .unsubscribe handle => (s.unsubscribe handle).1
  | _ => s

/-- A passive operation changes the session of a host and nothing else. -/
theorem IsPassive.step_eq {e : Engine} {h : Host} {op : Op} (hp : op.IsPassive h.session) :
    (h.step e op).1 = { h with session := op.perform e h.session } := by
  cases op with
  | showAnonymous shown =>
    cases hp
    simp [Host.step, perform, Session.setShowAnonymous]
  | activate id =>
    simp only [Host.step, perform]
    rw [Session.setActiveLayer_of_unchanged h.session hp]
  | moveCursor _ => rfl
  | selectRow _ => rfl
  | compileQuery _ => rfl
  | runQuery _ => rfl
  | clearQuery => rfl
  | showInjectionRanges _ => rfl
  | subscribe => rfl
  | unsubscribe _ => rfl
  | _ => exact hp.elim

end Op

namespace Session

/-- What passive operations keep: the layers, and all that a render depends on. -/
structure SameScene (s s' : Session) : Prop extends SameRender s s' where
  registry : s'.registry = s.registry

theorem SameScene.trans {s s' s'' : Session} (h : SameScene s s') (h' : SameScene s' s'') :
    SameScene s s'' where
  counter := h'.counter.trans h.counter
  inFlight := h'.inFlight.trans h.inFlight
  tree := h'.tree.trans h.tree
  options := h'.options.trans h.options
  registry := h'.registry.trans h.registry

theorem SameScene.isPassive {s s' : Session} (h : SameScene s s') {op : Op}
    (hp : op.IsPassive s) : op.IsPassive s' := by
  have hshown : s'.options.showAnonymous = s.options.showAnonymous :=
    congrArg RenderOptions.showAnonymous h.options
  unfold Op.IsPassive at hp ⊢
  rw [h.registry, hshown]
  exact hp

theorem sameScene_perform (e : Engine) (s : Session) (op : Op) : SameScene s (op.perform e s) := by
  cases op with
  | moveCursor selection =>
    obtain ⟨node, row, heq⟩ := exists_moveCursor_eq s selection
    exact ⟨sameRender_moveCursor s selection, by rw [Op.perform, heq]⟩
  | selectRow index =>
    obtain ⟨node, row, echo, heq⟩ := exists_selectRow_eq s index
    exact ⟨sameRender_selectRow s index, by rw [Op.perform, heq]⟩
  | compileQuery source =>
    obtain ⟨status, marks, query, highlights, resolver, heq⟩ := exists_compileQuery_eq s e source
    exact ⟨sameRender_compileQuery s e source, by rw [Op.perform, heq]⟩
  | runQuery bounds =>
    obtain ⟨highlights, resolver, heq⟩ := exists_runQuery_eq s e bounds
    exact ⟨sameRender_runQuery s e bounds, by rw [Op.perform, heq]⟩
  | showInjectionRanges shown =>
    obtain ⟨visible, overlay, heq⟩ := exists_setShowInjectionRanges_eq s shown
    exact ⟨sameRender_setShowInjectionRanges s shown, by rw [Op.perform, heq]⟩
  | _ => exact ⟨⟨rfl, rfl, rfl, rfl⟩, rfl⟩

/-! ### Side by side -/

/-- The session with a render begun and perhaps another active node. -/
def veer (s : Session) (node : Option NodeInfo) (row : Option Nat) : Session :=
  { s.begun with activeNode := node, highlightedRow := row }

/-- The first session has a render in progress that is still to begin in the second. They differ in
the active node and its row at most, and only if the cursor has been somewhere. -/
def Alongside (s₁ s₂ : Session) : Prop :=
  ∃ node row, s₁ = s₂.veer node row ∧ (s₂.selection = none → node = s₂.activeNode)

section Veer

variable (s : Session) (node : Option NodeInfo) (row : Option Nat)

theorem runQuery_veer (e : Engine) (bounds : Option Range) :
    ((s.veer node row).runQuery e bounds).1 = (s.runQuery e bounds).1.veer node row := by
  unfold runQuery
  rw [show (s.veer node row).query = s.query from rfl,
    show (s.veer node row).activeTree? = s.activeTree? from rfl]
  cases s.query with
  | none => rfl
  | some q =>
    cases s.activeTree? with
    | none => rfl
    | some t => rfl

theorem compileQuery_veer (e : Engine) (source : String) :
    ((s.veer node row).compileQuery e source).1 = (s.compileQuery e source).1.veer node row := by
  unfold compileQuery
  rw [show (s.veer node row).activeLayer = s.activeLayer from rfl]
  cases CompiledQuery.compile e s.activeLayer.language source with
  | error err => rfl
  | ok q =>
    exact runQuery_veer { s with status := none, marks := captureMarks q, query := some q }
      node row e none

theorem setShowInjectionRanges_veer (shown : Bool) :
    ((s.veer node row).setShowInjectionRanges shown).1 =
      (s.setShowInjectionRanges shown).1.veer node row := by
  unfold setShowInjectionRanges hideOverlayAtRoot
  dsimp only
  rw [show (s.veer node row).registry = s.registry from rfl]
  split_ifs <;> rfl

/-- While a render is in progress the cursor is not followed. -/
theorem moveCursor_veer (selection : Range) :
    ((s.veer node row).moveCursor selection).1 = (s.moveCursor selection).1.veer node row := by
  obtain ⟨node', row', heq⟩ := exists_moveCursor_eq s selection
  rw [heq]
  unfold moveCursor
  simp [veer, begun]

/-- A row is looked up in the same rows and the same tree. -/
theorem selectRow_veer (index : Nat) :
    ∃ node' row', ((s.veer node row).selectRow index).1 = (s.selectRow index).1.veer node' row' ∧
      (node = s.activeNode → node' = (s.selectRow index).1.activeNode) := by
  have hsame : (s.veer node row).rowNode? index = s.rowNode? index := rfl
  rw [selectRow_fst, selectRow_fst, hsame]
  cases s.rowNode? index with
  | none => exact ⟨node, row, rfl, id⟩
  | some found => exact ⟨some found, some index, rfl, fun _ => rfl⟩

end Veer

/-- Passive operations keep two sessions side by side. -/
theorem Alongside.perform {s₁ s₂ : Session} (h : Alongside s₁ s₂) (e : Engine) (op : Op) :
    Alongside (op.perform e s₁) (op.perform e s₂) := by
  obtain ⟨node, row, rfl, hnode⟩ := h
  cases op with
  | moveCursor selection =>
    refine ⟨node, row, moveCursor_veer s₂ node row selection, ?_⟩
    intro hnone
    -- the cursor has been somewhere now
    obtain ⟨node', row', heq⟩ := exists_moveCursor_eq s₂ selection
    rw [Op.perform, heq] at hnone
    cases hnone
  | selectRow index =>
    obtain ⟨node', row', heq, hkeep⟩ := selectRow_veer s₂ node row index
    refine ⟨node', row', heq, ?_⟩
    intro hnone
    apply hkeep
    apply hnode
    obtain ⟨_, _, _, hselect⟩ := exists_selectRow_eq s₂ index
    rw [Op.perform, hselect] at hnone
    exact hnone
  | compileQuery source =>
    obtain ⟨_, _, _, _, _, hcompile⟩ := exists_compileQuery_eq s₂ e source
    refine ⟨node, row, compileQuery_veer s₂ node row e source, ?_⟩
    rw [Op.perform, hcompile]
    exact hnode
  | runQuery bounds =>
    obtain ⟨_, _, hrun⟩ := exists_runQuery_eq s₂ e bounds
    refine ⟨node, row, runQuery_veer s₂ node row e bounds, ?_⟩
    rw [Op.perform, hrun]
    exact hnode
  | showInjectionRanges shown =>
    obtain ⟨_, _, hshow⟩ := exists_setShowInjectionRanges_eq s₂ shown
    refine ⟨node, row, setShowInjectionRanges_veer s₂ node row shown, ?_⟩
    rw [Op.perform, hshow]
    exact hnode
  | _ => exact ⟨node, row, rfl, hnode⟩

/-- Taking rows over brings two sessions together: the node under the cursor is found anew, and
where the cursor has never been, the two have the same active node. -/
theorem Alongside.takeOver_eq {s₁ s₂ : Session} {t : SyntaxTree} (h : Alongside s₁ s₂)
    (ht : s₂.activeTree? = some t) (e : Engine) (rows : RowSequence) :
    s₁.takeOver e rows = s₂.begun.takeOver e rows := by
  obtain ⟨node, row, rfl, hnode⟩ := h
  have hretrack :
      { s₂.veer node row with inFlight := none, pendingEcho := none, rows }.retrack =
        { s₂.begun with inFlight := none, pendingEcho := none, rows }.retrack := by
    cases hsel : s₂.selection with
    | none =>
      cases hnode hsel
      simp only [retrack, veer, begun, hsel]
    | some selection =>
      have htree : ∀ s : Session, s.registry = s₂.registry → s.activeTree? = some t :=
        fun s hs => (activeTree?_congr hs).trans ht
      simp only [retrack, veer, begun, hsel, track, htree]
  unfold takeOver
  rw [hretrack]

theorem Alongside.isPassive {s₁ s₂ : Session} (h : Alongside s₁ s₂) {op : Op}
    (hp : op.IsPassive s₂) : op.IsPassive s₁ := by
  obtain ⟨node, row, rfl, -⟩ := h
  exact hp

/-- With a render begun, a session is beside itself. -/
theorem alongside_begun (s : Session) : Alongside s.begun s :=
  ⟨s.activeNode, s.highlightedRow, rfl, fun _ => rfl⟩

end Session

/-! ### Slices of the render -/

/-- A ticket has the rows of its job, or `n` more slices will bring them. -/
def Ticket.Due (j : Job) (n : Nat) (t : Ticket) : Prop :=
  t = ⟨none, some j.reference⟩ ∨
    ∃ live, t = ⟨some live, none⟩ ∧ Job.Slices j live ∧ live.stepsLeft ≤ n

namespace Host

variable {e : Engine} {j : Job} {h : Host} {number n : Nat} {ticket : Ticket}

theorem ticket?_setTicket (hticket : h.ticket? number = some ticket) (new : Ticket) :
    (h.setTicket number new).ticket? number = some new :=
  List.getElem?_set_self (List.getElem?_eq_some_iff.1 hticket).1

/-- A slice brings the rows, or is one less to come. -/
theorem due_resume (hj : j.Sound) (hlive : j.token.isCancelled h.session.counter = false)
    (hticket : h.ticket? number = some ticket) (hdue : ticket.Due j n) :
    ∃ ticket', (h.resume number).1.ticket? number = some ticket' ∧ ticket'.Due j (n - 1) := by
  rcases hdue with rfl | ⟨live, rfl, hslices, hleft⟩
  · refine ⟨_, ?_, .inl rfl⟩
    simp only [resume, hticket]
  · obtain ⟨hsound, w, rfl⟩ := hj.slices hslices
    by_cases hn : Job.stepsLeft { j with walk := w } ≤ j.options.yieldInterval.steps
    · have hres := hsound.resume_complete hlive hn
      refine ⟨⟨none, some j.reference⟩, ?_, .inl rfl⟩
      simp only [resume, hticket, hres]
      exact ticket?_setTicket hticket _
    · obtain ⟨w', hres, -, hleft'⟩ := hsound.resume_yielded hlive (Nat.lt_of_not_le hn)
      have hpos := j.options.yieldInterval.steps_pos
      refine ⟨⟨some { j with walk := w' }, none⟩, ?_,
        .inr ⟨_, rfl, hslices.tail ⟨_, hres⟩, ?_⟩⟩
      · simp only [resume, hticket, hres]
        exact ticket?_setTicket hticket _
      · dsimp only at hleft'
        omega

theorem due_finish (hj : j.Sound) (hlive : j.token.isCancelled h.session.counter = false)
    (hticket : h.ticket? number = some ticket) (hdue : ticket.Due j n) :
    (h.finish number).1.ticket? number = some ⟨none, some j.reference⟩ := by
  rcases hdue with rfl | ⟨live, rfl, hslices, -⟩
  · simp only [finish, hticket]
  · obtain ⟨hsound, w, rfl⟩ := hj.slices hslices
    have hfin := hsound.finish_eq hlive
    simp only [finish, hticket, hfin]
    exact ticket?_setTicket hticket _

theorem due_step (hj : j.Sound) (hlive : j.token.isCancelled h.session.counter = false)
    (hticket : h.ticket? number = some ticket) (hdue : ticket.Due j n) {op : Op}
    (hop : op.IsSlice number) :
    (h.step e op).1.session = h.session ∧
      ∃ ticket', (h.step e op).1.ticket? number = some ticket' ∧ ticket'.Due j (n - 1) := by
  cases op with
  | resume k =>
    cases hop
    exact ⟨session_resume h number, due_resume hj hlive hticket hdue⟩
  | finish k =>
    cases hop
    exact ⟨session_finish h number, _, due_finish hj hlive hticket hdue, .inl rfl⟩
  | _ => exact hop.elim

/-- Slices leave the session alone, and each of them is one less to come. -/
theorem due_run (hj : j.Sound) (hlive : j.token.isCancelled h.session.counter = false)
    (hticket : h.ticket? number = some ticket) (hdue : ticket.Due j n) {slices : List Op}
    (hslices : ∀ op ∈ slices, op.IsSlice number) :
    (h.run e slices).session = h.session ∧
      ∃ ticket', (h.run e slices).ticket? number = some ticket' ∧
        ticket'.Due j (n - slices.length) := by
  induction slices generalizing h ticket n with
  | nil => exact ⟨rfl, ticket, hticket, hdue⟩
  | cons op slices ih =>
    obtain ⟨hop, hrest⟩ := List.forall_mem_cons.1 hslices
    obtain ⟨hsession, ticket₁, hticket₁, hdue₁⟩ := due_step (e := e) hj hlive hticket hdue hop
    rw [← hsession] at hlive
    obtain ⟨hrun, ticket', hticket', hdue'⟩ := ih hlive hticket₁ hdue₁ hrest
    refine ⟨hrun.trans hsession, ticket', hticket', ?_⟩
    rw [List.length_cons, Nat.add_comm, ← Nat.sub_sub]
    exact hdue'

/-! ### The two runs -/

/-- Passive operations keep two hosts side by side, and all that the render depends on. -/
theorem run_passive (h₁ h₂ : Host) (hs : h₁.session.Alongside h₂.session) {ops : List Op}
    (hops : ∀ op ∈ ops, op.IsPassive h₂.session) :
    (h₁.run e ops).session.Alongside (h₂.run e ops).session ∧
      (h₁.run e ops).tickets = h₁.tickets ∧ h₂.session.SameScene (h₂.run e ops).session := by
  induction ops generalizing h₁ h₂ with
  | nil => exact ⟨hs, rfl, .refl _, rfl⟩
  | cons op ops ih =>
    obtain ⟨hop, hrest⟩ := List.forall_mem_cons.1 hops
    have hscene := Session.sameScene_perform e h₂.session op
    rw [run_cons, run_cons, hop.step_eq, (hs.isPassive hop).step_eq]
    obtain ⟨hside, htickets, hafter⟩ := ih { h₁ with session := op.perform e h₁.session }
      { h₂ with session := op.perform e h₂.session } (hs.perform e op)
      fun op' hop' => hscene.isPassive (hrest op' hop')
    exact ⟨hside, htickets, hscene.trans hafter⟩

/-- Where a render stands after passive operations and some of its slices. -/
theorem run_begin_slices {t : SyntaxTree} (ht : h.session.activeTree? = some t)
    {ops slices : List Op} (hops : ∀ op ∈ ops, op.IsPassive h.session)
    (hslices : ∀ op ∈ slices, op.IsSlice h.tickets.length) :
    (h.run e (.begin :: ops ++ slices)).session.Alongside (h.run e ops).session ∧
      h.session.SameScene (h.run e ops).session ∧
      ∃ ticket, (h.run e (.begin :: ops ++ slices)).ticket? h.tickets.length = some ticket ∧
        ticket.Due (h.session.renderJob t) ((h.session.renderJob t).stepsLeft - slices.length) := by
  have hbegins : Begins e h .begin t := begins_of_tree ht
  obtain ⟨hside, htickets, hscene⟩ := run_passive (e := e) (h.step e .begin).1 h
    (hbegins.session ▸ Session.alongside_begun h.session) hops
  rw [run_append, run_cons]
  generalize (h.step e .begin).1.run e ops = h₁ at hside htickets ⊢
  have hticket : h₁.ticket? h.tickets.length = some ⟨some (h.session.renderJob t), none⟩ := by
    simp [ticket?, htickets, hbegins.tickets]
  -- no other pass has started, so the job is not cancelled
  have hcounter : h₁.session.counter = h.session.counter.next := by
    obtain ⟨node, row, heq, -⟩ := hside
    rw [heq]
    exact congrArg Counter.next hscene.counter
  have hlive : (h.session.renderJob t).token.isCancelled h₁.session.counter = false := by
    simp [hcounter, Session.renderJob, Token.isCancelled, Counter.token]
  obtain ⟨hsession, hdue⟩ := due_run (e := e) (Job.sound_start _ _ _) hlive hticket
    (.inr ⟨_, rfl, .refl, Nat.le_refl _⟩) hslices
  exact ⟨hsession ▸ hside, hscene, hdue⟩

/-- **A render that is taken over in the end happens at once.** On any host with a tree to render,
let a render begin, let passive operations follow, and let slices of the render follow these. Enough
slices bring its rows, whichever slices they are. Once the rows are there they are taken over, and
the session is the one that the passive operations leave with a whole render after them. -/
theorem commit_eq_update (e : Engine) (h : Host) {t : SyntaxTree}
    (ht : h.session.activeTree? = some t) (ops : List Op)
    (hops : ∀ op ∈ ops, op.IsPassive h.session) :
    (∃ n, ∀ slices : List Op, (∀ op ∈ slices, op.IsSlice h.tickets.length) → n ≤ slices.length →
      ((h.run e (.begin :: ops ++ slices)).ticket? h.tickets.length).bind Ticket.rows ≠ none) ∧
    ∀ slices : List Op, (∀ op ∈ slices, op.IsSlice h.tickets.length) →
      ((h.run e (.begin :: ops ++ slices)).ticket? h.tickets.length).bind Ticket.rows ≠ none →
      ((h.run e (.begin :: ops ++ slices)).step e (.commit h.tickets.length)).2 = .flag true ∧
      (h.run e (.begin :: ops ++ slices ++ [.commit h.tickets.length])).session =
        (h.run e (ops ++ [.update])).session := by
  constructor
  · refine ⟨(h.session.renderJob t).stepsLeft, ?_⟩
    intro slices hslices hn
    obtain ⟨-, -, ticket, hticket, hdue⟩ := run_begin_slices (e := e) ht hops hslices
    rcases hdue with rfl | ⟨live, -, -, hleft⟩
    · rw [hticket]
      simp
    · have hpos := live.stepsLeft_pos
      omega
  · intro slices hslices hrows
    obtain ⟨hside, hscene, ticket, hticket, hdue⟩ := run_begin_slices (e := e) ht hops hslices
    rw [run_append _ _ (.begin :: ops ++ slices), run_append _ _ ops]
    generalize h.run e (.begin :: ops ++ slices) = h₁ at hside hticket hrows ⊢
    generalize h.run e ops = h₂ at hside hscene ⊢
    rcases hdue with rfl | ⟨live, rfl, -, -⟩
    · have htaken : (h₁.ticket? h.tickets.length).bind Ticket.rows =
          some (h.session.renderJob t).reference := by
        rw [hticket]
        rfl
      have hjob : h₂.session.renderJob t = h.session.renderJob t := by
        rw [Session.renderJob, Session.renderJob, hscene.options, hscene.counter]
      have htree : h₂.session.activeTree? = some t := hscene.tree.trans ht
      have hcurrent : h₁.session.isCurrent (h.session.renderJob t).reference = true := by
        obtain ⟨node, row, heq, -⟩ := hside
        rw [heq, ← hjob]
        exact Session.isCurrent_iff.2 ⟨rfl, rfl⟩
      have hupdate : (h₂.step e .update).1.session =
          h₂.session.begun.takeOver e (h.session.renderJob t).reference := by
        simp only [step, Session.update_eq htree, hjob]
      rw [run_cons, run_nil, run_cons, run_nil, hupdate, step_commit htaken, if_pos hcurrent]
      exact ⟨rfl, hside.takeOver_eq htree e _⟩
    · rw [hticket] at hrows
      exact absurd rfl hrows

/-- The cursor moves, and a row is asked for that is not there, while a render is in progress. -/
theorem commit_eq_update_nestedHost :
    nestedHost.session.activeTree? = some ⟨0, Job.nestedSample, []⟩ ∧
    (nestedHost.run silentEngine [.begin, .moveCursor ⟨⟨0, 1⟩, ⟨0, 1⟩⟩, .selectRow 5, .resume 0,
      .finish 0, .commit 0]).session =
    (nestedHost.run silentEngine
      [.moveCursor ⟨⟨0, 1⟩, ⟨0, 1⟩⟩, .selectRow 5, .update]).session :=
  ⟨rfl, ((commit_eq_update silentEngine nestedHost rfl
    [.moveCursor ⟨⟨0, 1⟩, ⟨0, 1⟩⟩, .selectRow 5] (by simp [Op.IsPassive])).2
      [.resume 0, .finish 0] (by simp [Op.IsSlice, nestedHost, start])
      (Option.some_ne_none _)).2⟩

end Host

end SyntaxInspector
