import Mathlib.Algebra.Order.Floor.Div
import SyntaxInspector.Proofs.Render.Slices

/-!
# The number of slices

A traversal has two steps for each node: one to show it, and one to go on from it once its subtree
is done, to a sibling, to the parent, or to the end. Each slice but the last takes as many of these
steps as a slice has, so the number of slices is known, whatever the shape of the tree.

* `Job.sliceAt` — what the slices of a job come to, one after the other;
* `Job.Sound.sliceAt_yielded`, `Job.Sound.sliceAt_complete` — the slices before the last, and the
  last;
* `Job.number_of_slices` — the slices of a whole render.
-/

namespace SyntaxInspector

namespace Job

/-- What a slice of a job comes to, counted from zero, if each slice is run under the counter's
value at its time. There is none once a slice has ended the job. -/
def sliceAt (counters : Nat → Counter) (j : Job) : Nat → Option Slice
  | 0 => some (j.resume (counters 0))
  | k + 1 =>
    match sliceAt counters j k with
    | some (.yielded j) => some (j.resume (counters (k + 1)))
    | _ => none

variable {counters : Nat → Counter} {j : Job} {k : Nat}

theorem sliceAt_succ_of_yielded {j' : Job} (h : j.sliceAt counters k = some (.yielded j')) :
    j.sliceAt counters (k + 1) = some (j'.resume (counters (k + 1))) := by
  rw [sliceAt, h]

/-- As long as more steps are to come than the slices have taken, each slice leaves the same job with
fewer steps to come. -/
theorem Sound.sliceAt_yielded (h : j.Sound)
    (hlive : ∀ k, j.token.isCancelled (counters k) = false)
    (hk : (k + 1) * j.options.yieldInterval.steps < j.stepsLeft) :
    ∃ w, j.sliceAt counters k = some (.yielded { j with walk := w }) ∧
      Sound { j with walk := w } ∧
      stepsLeft { j with walk := w } + (k + 1) * j.options.yieldInterval.steps = j.stepsLeft := by
  induction k with
  | zero =>
    rw [Nat.zero_add, Nat.one_mul] at hk ⊢
    obtain ⟨w, hres, hw, hleft⟩ := h.resume_yielded (hlive 0) hk
    exact ⟨w, congrArg some hres, hw, hleft⟩
  | succ k ih =>
    rw [Nat.succ_mul] at hk ⊢
    obtain ⟨w, hslice, hw, hleft⟩ := ih (by omega)
    have hmore : j.options.yieldInterval.steps < stepsLeft { j with walk := w } := by omega
    obtain ⟨w', hres, hw', hleft'⟩ := hw.resume_yielded (hlive (k + 1)) hmore
    refine ⟨w', (sliceAt_succ_of_yielded hslice).trans (congrArg some hres), hw', ?_⟩
    have hsteps : stepsLeft { j with walk := w' } + j.options.yieldInterval.steps =
      stepsLeft { j with walk := w } := hleft'
    omega

/-- The slice that takes the last step completes the job. -/
theorem Sound.sliceAt_complete (h : j.Sound)
    (hlive : ∀ k, j.token.isCancelled (counters k) = false)
    (hbefore : k * j.options.yieldInterval.steps < j.stepsLeft)
    (hk : j.stepsLeft ≤ (k + 1) * j.options.yieldInterval.steps) :
    j.sliceAt counters k = some (.complete j.reference) := by
  cases k with
  | zero =>
    rw [Nat.zero_add, Nat.one_mul] at hk
    exact congrArg some (h.resume_complete (hlive 0) hk)
  | succ k =>
    obtain ⟨w, hslice, hw, hleft⟩ := h.sliceAt_yielded hlive hbefore
    rw [Nat.succ_mul (k + 1)] at hk
    have hlast : stepsLeft { j with walk := w } ≤ j.options.yieldInterval.steps := by omega
    rw [sliceAt_succ_of_yielded hslice, hw.resume_complete (hlive (k + 1)) hlast]
    rfl

/-- After a slice that completes the job there are no more. -/
theorem sliceAt_of_complete {rows : RowSequence} {m : Nat}
    (h : j.sliceAt counters k = some (.complete rows)) (hm : k < m) :
    j.sliceAt counters m = none := by
  induction m, hm using Nat.le_induction with
  | base => rw [sliceAt, h]
  | succ m _ ih => rw [sliceAt, ih]

/-- At every moment the rows so far start the rows that the job is to give. -/
theorem Sound.rows_isPrefix (h : j.Sound) {root : Node} (hroot : j.root = some root) :
    j.walk.rows.toList <+: root.rows j.options.showAnonymous 0 :=
  ⟨_, (h root hroot).rows⟩

/-- **The number of slices is known from the start.** A job that is never cancelled takes as many
slices as it takes to make two steps for each node of its tree. All slices but the last yield, with
rows that start those to come in the end; the last completes the job, and no more follow. Without a
tree the first slice completes the job. -/
theorem number_of_slices (root : Node) (options : RenderOptions) (token : Token)
    (counters : Nat → Counter) (hlive : ∀ k, token.isCancelled (counters k) = false) :
    let j : Job := ⟨some root, options, token, {}⟩
    (∃ yields, yields + 1 = (2 * root.size) ⌈/⌉ options.yieldInterval.steps ∧
      (∀ k < yields, ∃ w, j.sliceAt counters k = some (.yielded { j with walk := w }) ∧
        w.rows.toList <+: root.rows options.showAnonymous 0) ∧
      j.sliceAt counters yields =
        some (.complete ⟨root.rows options.showAnonymous 0, token.stamp⟩) ∧
      ∀ k > yields, j.sliceAt counters k = none) ∧
    sliceAt counters ⟨none, options, token, {}⟩ 0 = some (.complete ⟨[], token.stamp⟩) := by
  intro j
  have hsound : j.Sound := sound_start (some root) options token
  have hsteps : j.stepsLeft = 2 * root.size := rfl
  have hpos := options.yieldInterval.steps_pos
  have hcount : ∀ m, (2 * root.size) ⌈/⌉ options.yieldInterval.steps ≤ m ↔
      j.stepsLeft ≤ m * options.yieldInterval.steps := by
    intro m
    rw [hsteps, Nat.mul_comm m]
    exact ceilDiv_le_iff_le_mul hpos
  obtain ⟨yields, hyields⟩ : ∃ yields,
      (2 * root.size) ⌈/⌉ options.yieldInterval.steps = yields + 1 := by
    refine Nat.exists_eq_add_one_of_ne_zero fun hzero => ?_
    have hnone := (hcount 0).1 (Nat.le_of_eq hzero)
    have hsome := j.stepsLeft_pos
    omega
  have hbefore : ∀ m ≤ yields, m * options.yieldInterval.steps < j.stepsLeft := by
    intro m hm
    by_contra hle
    have := (hcount m).2 (Nat.le_of_not_lt hle)
    omega
  have hlast : j.sliceAt counters yields = some (.complete j.reference) :=
    hsound.sliceAt_complete hlive (hbefore yields (Nat.le_refl _))
      ((hcount _).1 (Nat.le_of_eq hyields))
  refine ⟨⟨yields, hyields.symm, fun k hk => ?_, hlast, fun k hk => sliceAt_of_complete hlast hk⟩, ?_⟩
  · obtain ⟨w, hslice, hw, -⟩ := hsound.sliceAt_yielded hlive (hbefore (k + 1) hk)
    exact ⟨w, hslice, hw.rows_isPrefix rfl⟩
  · have hnone : Sound ⟨none, options, token, {}⟩ := sound_start none options token
    exact congrArg some (hnone.resume_complete (hlive 0) hpos)

/-- Three nodes take three slices of two steps, while other renders begin under a counter that the
job does not belong to. -/
theorem number_of_slices_nestedSample :
    (∀ k : Nat, Token.free.isCancelled ⟨k⟩ = false) ∧
    (2 * nestedSample.size) ⌈/⌉ 2 = 3 ∧
    sliceAt Counter.mk ⟨some nestedSample, ⟨true, ⟨2, Nat.two_pos⟩⟩, .free, {}⟩ 2 =
      some (.complete ⟨nestedSample.rows true 0, 0⟩) := by
  obtain ⟨⟨yields, hyields, -, hlast, -⟩, -⟩ :=
    number_of_slices nestedSample ⟨true, ⟨2, Nat.two_pos⟩⟩ .free Counter.mk fun _ => rfl
  have hcount : (2 * nestedSample.size) ⌈/⌉ 2 = 3 := by decide
  obtain rfl : yields = 2 := Nat.succ.inj (hyields.trans hcount)
  exact ⟨fun _ => rfl, hcount, hlast⟩

end Job

end SyntaxInspector
