import Mathlib.Logic.Relation
import SyntaxInspector.Proofs.Render.Traversal

/-!
# Render jobs in slices

A job that is suspended goes on exactly where it was, so the account of its traversal survives from
slice to slice. Hence a job that is not cancelled completes after a number of slices that is known
from the start, with the rows of its tree, however long a slice is.

* `Job.reference` — the rows a job is to give;
* `Job.Sound` — the account of a job between two slices;
* `Job.Sound.resume_complete`, `Job.Sound.resume_yielded` — what one slice does;
* `Job.Sound.finishWithin_eq`, `Job.Sound.finish_eq` — what all slices do;
* `Job.rendering_in_slices` — the rows of a render, in any slicing.
-/

namespace SyntaxInspector

namespace Job

/-- The rows a job is to give: those of its tree, with the stamp of its pass. -/
def reference (j : Job) : RowSequence :=
  ⟨(j.root.map (Node.rows j.options.showAnonymous 0)).getD [], j.token.stamp⟩

/-- The steps still to come, over all slices; without a tree one look is enough. -/
def stepsLeft (j : Job) : Nat :=
  match j.root with
  | none => 1
  | some root => j.walk.stepsLeft (entry root j.walk)

theorem stepsLeft_pos (j : Job) : 0 < j.stepsLeft := by
  unfold stepsLeft
  split
  · exact Nat.one_pos
  · exact Walk.stepsLeft_pos _ _

/-- The traversal of a job is accounted for where its next slice starts. -/
def Sound (j : Job) : Prop :=
  ∀ root, j.root = some root →
    Walk.Sound j.options.showAnonymous root j.walk (entry root j.walk)

/-- A new job is accounted for. -/
theorem sound_start (root : Option Node) (options : RenderOptions) (token : Token) :
    Sound ⟨root, options, token, {}⟩ :=
  fun n _ => Walk.sound_start options.showAnonymous n

/-- A suspended traversal goes on where it was. -/
theorem entry_suspended {root : Node} {c : Cursor} (h : c.top = root) (depth : Nat)
    (visited : Bool) (rows : Array Row) :
    entry root ⟨true, c.index, depth, visited, rows⟩ = c := by
  rw [entry, if_pos rfl, ← h, Cursor.seek_index]

/-! ### One slice -/

section Slice

variable {j : Job} {counter : Counter}

theorem resume_of_cancelled (hc : j.token.isCancelled counter = true) :
    j.resume counter = .cancelled := by
  obtain ⟨root, options, token, walk⟩ := j
  exact if_pos hc

/-- A slice long enough for all steps to come completes the job. -/
theorem Sound.resume_complete (h : j.Sound) (hc : j.token.isCancelled counter = false)
    (hn : j.stepsLeft ≤ j.options.yieldInterval.steps) :
    j.resume counter = .complete j.reference := by
  obtain ⟨root, options, token, walk⟩ := j
  have hlive : token.isCancelled counter = false := hc
  cases root with
  | none =>
    simp only [resume, hlive]
    rfl
  | some root =>
    obtain ⟨w, hrun, hrows⟩ := (h root rfl).run_ge hn
    simp only [resume, hlive, Bool.false_eq_true, if_false, hrun, hrows]
    rfl

/-- A shorter slice leaves the same job with fewer steps to come. -/
theorem Sound.resume_yielded (h : j.Sound) (hc : j.token.isCancelled counter = false)
    (hn : j.options.yieldInterval.steps < j.stepsLeft) :
    ∃ w, j.resume counter = .yielded { j with walk := w } ∧ Sound { j with walk := w } ∧
      stepsLeft { j with walk := w } + j.options.yieldInterval.steps = j.stepsLeft := by
  obtain ⟨root, options, token, walk⟩ := j
  have hlive : token.isCancelled counter = false := hc
  cases root with
  | none =>
    have hpos := options.yieldInterval.steps_pos
    simp only [stepsLeft] at hn
    omega
  | some root =>
    obtain ⟨w, c, hrun, hw, hleft⟩ := (h root rfl).run_lt hn
    obtain ⟨started, position, depth, visited, rows⟩ := w
    have hentry := entry_suspended hw.top depth visited rows
    simp only [resume, hlive, Bool.false_eq_true, if_false, hrun]
    refine ⟨_, rfl, ?_, ?_⟩
    · intro root' hroot
      cases hroot
      simp only [hentry]
      exact ⟨hw.top, hw.depth, hw.rows⟩
    · simp only [stepsLeft, hentry]
      exact hleft

/-- What a slice of a job that is accounted for may come to. -/
theorem Sound.resume_cases (h : j.Sound) (counter : Counter) :
    (j.token.isCancelled counter = true ∧ j.resume counter = .cancelled) ∨
    (j.token.isCancelled counter = false ∧ j.resume counter = .complete j.reference) ∨
    (j.token.isCancelled counter = false ∧
      ∃ w, j.resume counter = .yielded { j with walk := w } ∧ Sound { j with walk := w }) := by
  cases hc : j.token.isCancelled counter with
  | true => exact .inl ⟨rfl, resume_of_cancelled hc⟩
  | false =>
    by_cases hn : j.stepsLeft ≤ j.options.yieldInterval.steps
    · exact .inr (.inl ⟨rfl, h.resume_complete hc hn⟩)
    · obtain ⟨w, hres, hw, -⟩ := h.resume_yielded hc (Nat.lt_of_not_le hn)
      exact .inr (.inr ⟨rfl, w, hres, hw⟩)

end Slice

/-! ### All slices -/

/-- One job is what slices, run one after the other, have left of another. -/
def Slices : Job → Job → Prop :=
  Relation.ReflTransGen fun j j' => ∃ counter, j.resume counter = .yielded j'

/-- Slices keep the account, and nothing but the traversal changes. -/
theorem Sound.slices {j j' : Job} (h : j.Sound) (hs : Slices j j') :
    j'.Sound ∧ ∃ w, j' = { j with walk := w } := by
  induction hs with
  | refl => exact ⟨h, j.walk, rfl⟩
  | @tail j₁ j₂ _ hstep ih =>
    obtain ⟨h₁, w₁, rfl⟩ := ih
    obtain ⟨counter, hres⟩ := hstep
    obtain ⟨-, hc⟩ | ⟨-, hc⟩ | ⟨-, w, hc, hw⟩ := h₁.resume_cases counter
    · rw [hres] at hc; cases hc
    · rw [hres] at hc; cases hc
    · rw [hres] at hc
      cases hc
      exact ⟨hw, w, rfl⟩

theorem finishWithin_of_cancelled {j : Job} {counter : Counter}
    (hc : j.token.isCancelled counter = true) (fuel : Nat) :
    j.finishWithin counter fuel = none := by
  cases fuel with
  | zero => rfl
  | succ fuel => rw [finishWithin, resume_of_cancelled hc]

/-- Slices complete a job exactly when together they have as many steps as are to come. -/
theorem Sound.finishWithin_eq {j : Job} {counter : Counter} (h : j.Sound)
    (hc : j.token.isCancelled counter = false) (fuel : Nat) :
    j.finishWithin counter fuel =
      if j.stepsLeft ≤ fuel * j.options.yieldInterval.steps then some j.reference else none := by
  induction fuel generalizing j with
  | zero =>
    have hpos := j.stepsLeft_pos
    rw [finishWithin, if_neg (by omega)]
  | succ fuel ih =>
    rw [finishWithin]
    by_cases hn : j.stepsLeft ≤ j.options.yieldInterval.steps
    · rw [h.resume_complete hc hn, if_pos (by rw [Nat.succ_mul]; omega)]
    · obtain ⟨w, hres, hw, hleft⟩ := h.resume_yielded hc (Nat.lt_of_not_le hn)
      rw [hres]
      simp only [ih hw hc]
      have hiff : stepsLeft { j with walk := w } ≤ fuel * j.options.yieldInterval.steps ↔
          j.stepsLeft ≤ (fuel + 1) * j.options.yieldInterval.steps := by
        rw [Nat.succ_mul]; omega
      simp only [hiff]
      rfl

/-- The slices a job is given are enough. -/
theorem Sound.stepsLeft_le {j : Job} (h : j.Sound) :
    j.stepsLeft ≤ j.sliceBound * j.options.yieldInterval.steps := by
  have hpos := j.options.yieldInterval.steps_pos
  have hbound : j.stepsLeft ≤ j.sliceBound := by
    obtain ⟨root, options, token, walk⟩ := j
    cases root with
    | none => simp [stepsLeft, sliceBound]
    | some root =>
      have hle := Walk.stepsLeft_le walk (entry root walk)
      rw [(h root rfl).top] at hle
      simp only [stepsLeft, sliceBound, Option.map_some, Option.getD_some]
      omega
  exact Nat.le_trans hbound (Nat.le_mul_of_pos_right _ hpos)

/-- A job that is not cancelled ends with its rows, from wherever it has come to. -/
theorem Sound.finish_eq {j : Job} {counter : Counter} (h : j.Sound)
    (hc : j.token.isCancelled counter = false) : j.finish counter = some j.reference := by
  rw [finish, h.finishWithin_eq hc, if_pos h.stepsLeft_le]

/-- However far its slices have come, a job that completes gives the rows it was to give. -/
theorem Sound.eq_reference_of_resume {j live : Job} {counter : Counter} {rows : RowSequence}
    (h : j.Sound) (hs : Slices j live) (hres : live.resume counter = .complete rows) :
    rows = j.reference := by
  obtain ⟨hlive, w, rfl⟩ := h.slices hs
  obtain ⟨-, hc⟩ | ⟨-, hc⟩ | ⟨-, w', hc, -⟩ := hlive.resume_cases counter
  · rw [hres] at hc; cases hc
  · rw [hres] at hc
    cases hc
    rfl
  · rw [hres] at hc; cases hc

theorem Sound.eq_reference_of_finish {j live : Job} {counter : Counter} {rows : RowSequence}
    (h : j.Sound) (hs : Slices j live) (hfin : live.finish counter = some rows) :
    rows = j.reference := by
  obtain ⟨hlive, w, heq⟩ := h.slices hs
  cases hc : live.token.isCancelled counter with
  | true => rw [finish, finishWithin_of_cancelled hc] at hfin; cases hfin
  | false =>
    rw [hlive.finish_eq hc] at hfin
    cases hfin
    rw [heq]
    rfl

/-- **A render gives the rows of its tree, in any slicing.** After a number of slices, and no
earlier, a job that is not cancelled completes with one row for each node that qualifies, in
pre-order, at the depth that counts the ancestors with a row. And wherever its slices get to, the
depth is positive below a node with a row, so going up never takes from zero. -/
theorem rendering_in_slices (root : Node) (options : RenderOptions) (token : Token)
    (counter : Counter) (hlive : token.isCancelled counter = false) :
    (∃ slices, ∀ fuel, finishWithin counter fuel ⟨root, options, token, {}⟩ =
      if slices ≤ fuel then some ⟨root.rows options.showAnonymous 0, token.stamp⟩ else none) ∧
    finish counter ⟨root, options, token, {}⟩ =
      some ⟨root.rows options.showAnonymous 0, token.stamp⟩ ∧
    root.rows options.showAnonymous 0 =
      (root.visits []).filterMap (Visit.row? options.showAnonymous) ∧
    (root.visits []).map Visit.data = root.preorder.map Node.data ∧
    ∀ j, Slices ⟨root, options, token, {}⟩ j → ∀ n w c parent,
      j.walk.run options.showAnonymous n (entry root j.walk) = (w, some c) →
      c.parent? = some parent → parent.data.qualifies options.showAnonymous = true →
      0 < w.depth := by
  have hsound := sound_start (some root) options token
  refine ⟨?_, hsound.finish_eq hlive, Node.rows_eq_filterMap_visits options.showAnonymous [] root,
    Node.map_data_visits [] root, ?_⟩
  · -- as many slices as the steps to come fill, the last of them perhaps in part
    refine ⟨(stepsLeft ⟨root, options, token, {}⟩ + (options.yieldInterval.steps - 1)) /
      options.yieldInterval.steps, ?_⟩
    intro fuel
    have hpos := options.yieldInterval.steps_pos
    rw [hsound.finishWithin_eq hlive]
    simp only [Nat.div_le_iff_le_mul_add_pred hpos, Nat.add_le_add_iff_right, Nat.mul_comm fuel]
    rfl
  · intro j hj n w c parent hrun hparent hq
    obtain ⟨hj', w', rfl⟩ := hsound.slices hj
    have hw := (hj' root rfl).run hrun
    exact hw.depth_pos hparent hq

/-- A named node around a literal, which holds an inserted node. -/
def nestedSample : Node :=
  .mk ⟨"list", true, false, none, ⟨⟨0, 0⟩, ⟨0, 1⟩⟩, 0, 1, .plain 7⟩
    [.mk ⟨"(", false, false, none, ⟨⟨0, 0⟩, ⟨0, 1⟩⟩, 0, 1, .plain 8⟩
      [.mk ⟨")", false, true, some "close", ⟨⟨0, 1⟩, ⟨0, 1⟩⟩, 1, 1, .plain 9⟩ []]]

/-- Without literals, a step at a time. -/
def stepwise : RenderOptions := ⟨false, ⟨1, Nat.one_pos⟩⟩

/-- The inserted node is shown right below the list. -/
theorem rendering_in_slices_nestedSample :
    Token.free.isCancelled {} = false ∧
    finish {} ⟨nestedSample, stepwise, .free, {}⟩ =
      some ⟨[⟨0, none, .named "list", ⟨⟨0, 0⟩, ⟨0, 1⟩⟩, .plain 7⟩,
        ⟨1, some "close", .missing ")", ⟨⟨0, 1⟩, ⟨0, 1⟩⟩, .plain 9⟩], 0⟩ :=
  ⟨rfl, (rendering_in_slices nestedSample stepwise .free {} rfl).2.1⟩

end Job

/-- The rows of a tree without a counter are its rows by recursion. -/
theorem render_eq (root : Option Node) (options : RenderOptions) :
    render root options = ⟨(root.map (Node.rows options.showAnonymous 0)).getD [], 0⟩ := by
  rw [render, (Job.sound_start root options .free).finish_eq (Token.isCancelled_free {})]
  rfl

end SyntaxInspector
