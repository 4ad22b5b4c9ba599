import SyntaxInspector.Proofs.Render.Slices
import SyntaxInspector.Render.Pool

/-!
# Interleaved jobs

Jobs that share a counter may be resumed in any order, with new passes started and tokens taken in
between. What becomes of a job depends on the counter alone: it is cancelled once a pass has started
after its token was taken, and until then it goes on as if it were the only job.

* `Pool.Call`, `Pool.run` — calls in any order;
* `Pool.Held` — the invariant of one job, whatever the other calls do;
* `Pool.Beside` — a pool next to one where all other jobs are missing;
* `Pool.interleaved_jobs` — what becomes of a job.
-/

namespace SyntaxInspector

/-- What a slice leaves of its job. -/
def Slice.left? : Slice → Option Job
  | .yielded job => some job
  | _ => none

@[simp] theorem Slice.left?_eq_some_iff {s : Slice} {job : Job} :
    s.left? = some job ↔ s = .yielded job := by
  cases s <;> simp [left?]

namespace Pool

/-- What may be done with a pool. -/
inductive Call where
  /-- Starts a new pass and takes its token. -/
  | advance
  /-- Takes a token of the current pass. -/
  | token
  /-- Takes a token that belongs to no pass. -/
  | free
  /-- Starts a job on a tree, under the token with a number. -/
  | launch (root : Option Node) (options : RenderOptions) (token : Nat)
  /-- Runs one slice of a job. -/
  | resume (number : Nat)
  /-- Runs a job to its end. -/
  | finish (number : Nat)

namespace Call

/-- Whether a call starts a new pass. -/
def isAdvance : Call → Bool
  | .advance => true
  | _ => false

/-- The token that a call hands out, if it hands out one. -/
def handed (p : Pool) : Call → Option Token
  | .advance => some p.counter.next.token
  | .token => some p.counter.token
  | .free => some .free
  | _ => none

/-- What is left of a call when a job is the only one: calls for other jobs are dropped, and the job
is the first. -/
def onlyFor (number : Nat) : Call → Option Call
  | .launch _ _ _ => none
  | .resume k => if k = number then some (.resume 0) else none
  | .finish k => if k = number then some (.finish 0) else none
  | c => some c

theorem isAdvance_iff {c : Call} : c.isAdvance = true ↔ c = .advance := by
  cases c <;> simp [isAdvance]

end Call

/-- Carries out one call. -/
def step (p : Pool) : Call → Pool
  | .advance => p.advance
  | .token => p.takeToken
  | .free => p.takeFree
  | .launch root options k =>
    match p.tokens[k]? with
    | some token => (p.launch root options token).1
    | none => p
  | .resume number => (p.resume number).1
  | .finish number => (p.finish number).1

/-- Carries out calls in order. -/
def run (p : Pool) (calls : List Call) : Pool := calls.foldl step p

@[simp] theorem run_nil (p : Pool) : p.run [] = p := rfl

@[simp] theorem run_cons (p : Pool) (c : Call) (calls : List Call) :
    p.run (c :: calls) = (p.step c).run calls := rfl

theorem run_append (p : Pool) (calls calls' : List Call) :
    p.run (calls ++ calls') = (p.run calls).run calls' := List.foldl_append

/-- The stamps that new passes hand out, in order. -/
def advanceStamps : Pool → List Call → List Nat
  | _, [] => []
  | p, c :: calls =>
    (if c.isAdvance then (c.handed p).toList.map Token.stamp else []) ++
      advanceStamps (p.step c) calls

/-- Puts what is left of a job under its number. -/
def put (p : Pool) (number : Nat) (left : Option Job) : Pool :=
  { p with jobs := p.jobs.set number left }

/-! ### What a call changes -/

section Frames

variable (p : Pool)

theorem put_of_gone {number : Nat} (h : p.job? number = none) : p.put number none = p := by
  unfold put
  cases hjob : p.jobs[number]? with
  | none => rw [List.set_eq_of_length_le (List.getElem?_eq_none_iff.1 hjob)]
  | some left =>
    obtain ⟨hlt, hget⟩ := List.getElem?_eq_some_iff.1 hjob
    obtain rfl : left = none := by simpa [job?, hjob] using h
    rw [← hget, List.set_getElem_self]

/-- A slice changes the job it is run for and nothing else. -/
theorem resume_fst (number : Nat) :
    (p.resume number).1 =
      p.put number ((p.job? number).bind fun job => (job.resume p.counter).left?) := by
  cases hjob : p.job? number with
  | none => simp [resume, hjob, put_of_gone]
  | some job => cases hres : job.resume p.counter <;> simp [resume, put, hjob, hres, Slice.left?]

/-- A job that is run to its end is gone, and nothing else changes. -/
theorem finish_fst (number : Nat) : (p.finish number).1 = p.put number none := by
  cases hjob : p.job? number with
  | none => simp [finish, hjob, put_of_gone]
  | some job => cases hfin : job.finish p.counter <;> simp [finish, put, hjob, hfin]

/-- Only a new pass moves the counter. -/
theorem counter_step (c : Call) :
    (p.step c).counter.current = p.counter.current + if c.isAdvance then 1 else 0 := by
  cases c with
  | launch root options k =>
    rw [step]
    split <;> rfl
  | resume number =>
    rw [step, resume_fst]
    rfl
  | finish number =>
    rw [step, finish_fst]
    rfl
  | _ => rfl

/-- Tokens are kept in the order they are handed out. -/
theorem tokens_step (c : Call) : (p.step c).tokens = p.tokens ++ (c.handed p).toList := by
  cases c with
  | launch root options k =>
    rw [step]
    split <;> simp [launch, Call.handed]
  | resume number => simp [step, resume_fst, put, Call.handed]
  | finish number => simp [step, finish_fst, put, Call.handed]
  | _ => rfl

/-- A job keeps its number. -/
theorem length_le_step (c : Call) : p.jobs.length ≤ (p.step c).jobs.length := by
  cases c with
  | launch root options k =>
    rw [step]
    split <;> simp [launch]
  | resume number => simp [step, resume_fst, put]
  | finish number => simp [step, finish_fst, put]
  | _ => exact Nat.le_refl _

/-- A new job comes after those there are. -/
theorem getElem?_launch {root : Option Node} {options : RenderOptions} {index k : Nat}
    (hk : k < p.jobs.length) :
    (p.step (.launch root options index)).jobs[k]? = p.jobs[k]? := by
  rw [step]
  split
  · exact List.getElem?_append_left hk
  · rfl

/-! ### Runs -/

theorem counter_run (calls : List Call) :
    (p.run calls).counter.current = p.counter.current + calls.countP Call.isAdvance := by
  induction calls generalizing p with
  | nil => rfl
  | cons c calls ih =>
    rw [run_cons, ih, counter_step, List.countP_cons]
    omega

theorem length_le_run (calls : List Call) : p.jobs.length ≤ (p.run calls).jobs.length := by
  induction calls generalizing p with
  | nil => exact Nat.le_refl _
  | cons c calls ih => exact Nat.le_trans (length_le_step p c) (ih (p.step c))

variable {p} in
/-- A token keeps its number. -/
theorem getElem?_tokens_run {k : Nat} {token : Token} (h : p.tokens[k]? = some token)
    (calls : List Call) : (p.run calls).tokens[k]? = some token := by
  induction calls generalizing p with
  | nil => exact h
  | cons c calls ih =>
    refine ih ?_
    rw [tokens_step, List.getElem?_append_left (List.getElem?_eq_some_iff.1 h).1]
    exact h

theorem lt_of_mem_advanceStamps {calls : List Call} {stamp : Nat}
    (h : stamp ∈ p.advanceStamps calls) : p.counter.current < stamp := by
  induction calls generalizing p with
  | nil => cases h
  | cons c calls ih =>
    rcases List.mem_append.1 h with hnow | hlater
    · split_ifs at hnow with hc
      · obtain rfl := Call.isAdvance_iff.1 hc
        obtain rfl : stamp = p.counter.current + 1 := by simpa [Call.handed] using hnow
        exact Nat.lt_succ_self _
      · cases hnow
    · have hle := counter_step p c
      have hlt := ih (p.step c) hlater
      omega

/-- New passes hand out increasing stamps. -/
theorem pairwise_advanceStamps (calls : List Call) :
    (p.advanceStamps calls).Pairwise (· < ·) := by
  induction calls generalizing p with
  | nil => exact List.Pairwise.nil
  | cons c calls ih =>
    rw [advanceStamps, List.pairwise_append]
    refine ⟨?_, ih (p.step c), ?_⟩
    · split_ifs with hc
      · obtain rfl := Call.isAdvance_iff.1 hc
        exact List.pairwise_singleton _ _
      · exact List.Pairwise.nil
    · intro now hnow later hlater
      have hlt := lt_of_mem_advanceStamps (p.step c) hlater
      split_ifs at hnow with hc
      · obtain rfl := Call.isAdvance_iff.1 hc
        obtain rfl : now = p.counter.current + 1 := by simpa [Call.handed] using hnow
        exact hlt
      · cases hnow

end Frames

/-! ### One job among others -/

/-- A job is held under a number: as long as it is there, it is what slices have left of it. -/
structure Held (fresh : Job) (number : Nat) (p : Pool) : Prop where
  started : number < p.jobs.length
  slices : ∀ live, p.job? number = some live → Job.Slices fresh live

variable {p q : Pool} {fresh : Job} {number : Nat}

theorem Held.put {k : Nat} {left : Option Job} (h : Held fresh number p)
    (hleft : k = number → ∀ live, left = some live → Job.Slices fresh live) :
    Held fresh number (p.put k left) := by
  refine ⟨by simpa [Pool.put] using h.started, ?_⟩
  intro live hlive
  by_cases hk : k = number
  · subst hk
    refine hleft rfl live ?_
    simpa [job?, Pool.put, h.started] using hlive
  · refine h.slices live ?_
    simpa [job?, Pool.put, hk] using hlive

/-- Whatever call is made, a job goes on by its own slices or is gone. -/
theorem Held.step (h : Held fresh number p) (c : Call) : Held fresh number (p.step c) := by
  cases c with
  | launch root options index =>
    refine ⟨Nat.lt_of_lt_of_le h.started (length_le_step p _), ?_⟩
    intro live hlive
    rw [job?, getElem?_launch p h.started] at hlive
    exact h.slices live hlive
  | resume k =>
    rw [Pool.step, resume_fst]
    apply h.put
    rintro rfl live hlive
    obtain ⟨job, hjob, hleft⟩ := Option.bind_eq_some_iff.1 hlive
    exact (h.slices job hjob).tail ⟨_, Slice.left?_eq_some_iff.1 hleft⟩
  | finish k =>
    rw [Pool.step, finish_fst]
    apply h.put
    rintro - live ⟨⟩
  | advance => exact ⟨h.started, h.slices⟩
  | token => exact ⟨h.started, h.slices⟩
  | free => exact ⟨h.started, h.slices⟩

theorem Held.run (h : Held fresh number p) (calls : List Call) :
    Held fresh number (p.run calls) := by
  induction calls generalizing p with
  | nil => exact h
  | cons c calls ih => exact ih (h.step c)

/-- A job just started is held. -/
theorem held_launch {index : Nat} {token : Token} (htoken : p.tokens[index]? = some token)
    (root : Option Node) (options : RenderOptions) :
    Held ⟨root, options, token, {}⟩ p.jobs.length (p.step (.launch root options index)) := by
  have hstep : p.step (.launch root options index) = (p.launch root options token).1 := by
    simp only [step, htoken]
  rw [hstep]
  refine ⟨by simp [launch], ?_⟩
  intro live hlive
  obtain rfl : Job.mk root options token {} = live := by
    simpa [launch, job?] using hlive
  exact .refl

/-- The second pool is the first with only one of its jobs, if that has been started. -/
structure Beside (number : Nat) (p q : Pool) : Prop where
  counter : q.counter = p.counter
  tokens : q.tokens = p.tokens
  job : q.jobs[0]? = p.jobs[number]?
  alone : q.jobs.length ≤ 1

theorem beside_empty (number : Nat) : Beside number {} {} := ⟨rfl, rfl, rfl, Nat.zero_le 1⟩

theorem Beside.job?_eq (h : Beside number p q) : q.job? 0 = p.job? number :=
  congrArg Option.join h.job

theorem Beside.length_eq_one (h : Beside number p q) (hstarted : number < p.jobs.length) :
    q.jobs.length = 1 := by
  have hsome : q.jobs[0]? = some (p.jobs[number]) := by
    rw [h.job, List.getElem?_eq_getElem hstarted]
  have hpos := (List.getElem?_eq_some_iff.1 hsome).1
  exact Nat.le_antisymm h.alone hpos

theorem Beside.put (h : Beside number p q) (left : Option Job) :
    Beside number (p.put number left) (q.put 0 left) where
  counter := h.counter
  tokens := h.tokens
  job := by simp [Pool.put, List.getElem?_set_self', h.job]
  alone := by simpa [Pool.put] using h.alone

theorem Beside.put_other (h : Beside number p q) {k : Nat} (hk : k ≠ number) (left : Option Job) :
    Beside number (p.put k left) q where
  counter := h.counter
  tokens := h.tokens
  job := by rw [h.job, Pool.put, List.getElem?_set_ne hk]
  alone := h.alone

/-- A call keeps two pools side by side, unless it starts the job. -/
theorem Beside.step (h : Beside number p q) (c : Call)
    (hc : number < p.jobs.length ∨ (p.step c).jobs.length ≤ number) :
    Beside number (p.step c) (q.run (c.onlyFor number).toList) := by
  cases c with
  | launch root options index =>
    have hjob : (p.step (.launch root options index)).jobs[number]? = p.jobs[number]? := by
      rcases hc with hlt | hle
      · exact getElem?_launch p hlt
      · have hle' := Nat.le_trans (length_le_step p _) hle
        rw [List.getElem?_eq_none hle, List.getElem?_eq_none hle']
    refine ⟨?_, ?_, h.job.trans hjob.symm, h.alone⟩
    · rw [Call.onlyFor, Option.toList_none, run_nil, h.counter, Pool.step]
      split <;> rfl
    · rw [Call.onlyFor, Option.toList_none, run_nil, h.tokens, tokens_step]
      simp [Call.handed]
  | resume k =>
    rw [Pool.step, resume_fst]
    by_cases hk : k = number
    · subst hk
      simp only [Call.onlyFor, if_true, Option.toList_some, run_cons, run_nil, Pool.step,
        resume_fst, h.counter, h.job?_eq]
      exact h.put _
    · simp only [Call.onlyFor, if_neg hk, Option.toList_none, run_nil]
      exact h.put_other hk _
  | finish k =>
    rw [Pool.step, finish_fst]
    by_cases hk : k = number
    · subst hk
      simp only [Call.onlyFor, if_true, Option.toList_some, run_cons, run_nil, Pool.step,
        finish_fst]
      exact h.put _
    · simp only [Call.onlyFor, if_neg hk, Option.toList_none, run_nil]
      exact h.put_other hk _
  | advance =>
    refine ⟨congrArg Counter.next h.counter, ?_, h.job, h.alone⟩
    simp [Call.onlyFor, Pool.step, Pool.advance, h.counter, h.tokens]
  | token =>
    refine ⟨h.counter, ?_, h.job, h.alone⟩
    simp [Call.onlyFor, Pool.step, takeToken, h.counter, h.tokens]
  | free =>
    refine ⟨h.counter, ?_, h.job, h.alone⟩
    simp [Call.onlyFor, Pool.step, takeFree, h.tokens]

/-- Calls keep two pools side by side, as long as the job is started before or after them. -/
theorem Beside.run (h : Beside number p q) (calls : List Call)
    (hcalls : number < p.jobs.length ∨ (p.run calls).jobs.length ≤ number) :
    Beside number (p.run calls) (q.run (calls.filterMap (Call.onlyFor number))) := by
  induction calls generalizing p q with
  | nil => exact h
  | cons c calls ih =>
    have hstep : Beside number (p.step c) (q.run (c.onlyFor number).toList) := by
      refine h.step c ?_
      rcases hcalls with hlt | hle
      · exact .inl hlt
      · exact .inr (Nat.le_trans (length_le_run (p.step c) calls) hle)
    have hrest := ih hstep <| by
      rcases hcalls with hlt | hle
      · exact .inl (Nat.lt_of_lt_of_le hlt (length_le_step p c))
      · exact .inr hle
    cases hc : c.onlyFor number with
    | none =>
      rw [hc] at hrest
      rw [List.filterMap_cons_none hc]
      exact hrest
    | some c' =>
      rw [hc] at hrest
      rw [List.filterMap_cons_some hc]
      exact hrest

/-- The job is started in both pools. -/
theorem Beside.launch (h : Beside number p q) (hnumber : p.jobs.length = number) {index : Nat}
    {token : Token} (htoken : p.tokens[index]? = some token) (root : Option Node)
    (options : RenderOptions) :
    Beside number (p.step (.launch root options index)) (q.step (.launch root options index)) := by
  have hempty : q.jobs = [] := by
    have hnone : q.jobs[0]? = none := by
      rw [h.job]
      exact List.getElem?_eq_none (Nat.le_of_eq hnumber)
    exact List.eq_nil_of_length_eq_zero (Nat.le_zero.1 (List.getElem?_eq_none_iff.1 hnone))
  have htoken' : q.tokens[index]? = some token := by rw [h.tokens, htoken]
  simp only [Pool.step, htoken, htoken', Pool.launch, hempty]
  exact ⟨h.counter, h.tokens, by simp [← hnumber], Nat.le_refl 1⟩

theorem Beside.resume_snd (h : Beside number p q) : (p.resume number).2 = (q.resume 0).2 := by
  unfold resume
  rw [h.job?_eq, h.counter]
  cases p.job? number with
  | none => rfl
  | some job => cases hres : job.resume p.counter <;> simp [hres]

theorem Beside.finish_snd (h : Beside number p q) : (p.finish number).2 = (q.finish 0).2 := by
  unfold finish
  rw [h.job?_eq, h.counter]
  cases p.job? number with
  | none => rfl
  | some job => cases hfin : job.finish p.counter <;> simp [hfin]

/-! ### What becomes of a job -/

theorem Held.resume_cancelled_iff {live : Job} (h : Held fresh number p) (hs : fresh.Sound)
    (hlive : p.job? number = some live) :
    (p.resume number).2 = .cancelled ↔ fresh.token.isCancelled p.counter = true := by
  obtain ⟨hsound, w, rfl⟩ := hs.slices (h.slices live hlive)
  rcases hsound.resume_cases p.counter with ⟨hc, hres⟩ | ⟨hc, hres⟩ | ⟨hc, w', hres, -⟩
  · simp only [resume, hlive, hres]
    exact iff_of_true trivial hc
  · simp only [resume, hlive, hres]
    exact iff_of_false nofun (by simpa using hc)
  · simp only [resume, hlive, hres]
    exact iff_of_false nofun (by simpa using hc)

theorem Held.finish_cancelled_iff {live : Job} (h : Held fresh number p) (hs : fresh.Sound)
    (hlive : p.job? number = some live) :
    (p.finish number).2 = .cancelled ↔ fresh.token.isCancelled p.counter = true := by
  obtain ⟨hsound, w, rfl⟩ := hs.slices (h.slices live hlive)
  cases hc : fresh.token.isCancelled p.counter with
  | true =>
    have hfin : Job.finish p.counter { fresh with walk := w } = none :=
      Job.finishWithin_of_cancelled (j := { fresh with walk := w }) hc _
    simp only [finish, hlive, hfin]
  | false =>
    have hfin := hsound.finish_eq hc
    simp only [finish, hlive, hfin]
    exact iff_of_false nofun nofun

theorem Held.eq_reference {rows : RowSequence} (h : Held fresh number p) (hs : fresh.Sound)
    (hrows : (p.resume number).2 = .complete rows ∨ (p.finish number).2 = .complete rows) :
    rows = fresh.reference := by
  cases hlive : p.job? number with
  | none => simp [resume, finish, hlive] at hrows
  | some live =>
    have hslices := h.slices live hlive
    rcases hrows with hrows | hrows
    · cases hres : live.resume p.counter with
      | complete rows' =>
        obtain rfl : rows' = rows := by simpa [resume, hlive, hres] using hrows
        exact hs.eq_reference_of_resume hslices hres
      | yielded _ => simp [resume, hlive, hres] at hrows
      | cancelled => simp [resume, hlive, hres] at hrows
    · cases hfin : live.finish p.counter with
      | none => simp [finish, hlive, hfin] at hrows
      | some rows' =>
        obtain rfl : rows' = rows := by simpa [finish, hlive, hfin] using hrows
        exact hs.eq_reference_of_finish hslices hfin

/-- A token is cancelled once a pass has started since it was handed out, unless it belongs to
none. -/
theorem isCancelled_iff_of_handed {take : Call} {token : Token} (h : take.handed p = some token)
    (calls : List Call) :
    token.isCancelled (p.run (take :: calls)).counter = true ↔
      take ≠ .free ∧ Call.advance ∈ calls := by
  have hcount : 0 < calls.countP Call.isAdvance ↔ Call.advance ∈ calls := by
    simp [List.countP_pos_iff, Call.isAdvance_iff]
  have hcounter := counter_run p (take :: calls)
  rw [List.countP_cons] at hcounter
  rw [← hcount]
  cases take with
  | free =>
    cases h
    simp
  | token =>
    cases h
    simp only [Token.isCancelled, hcounter]
    simp [Counter.token, Call.isAdvance, Nat.pos_iff_ne_zero]
  | advance =>
    cases h
    simp only [Token.isCancelled, hcounter]
    simp [Counter.token, Call.isAdvance, Nat.pos_iff_ne_zero]
  | _ => cases h

/-- A token handed out is found under its number from then on. -/
theorem getElem?_tokens_of_handed {take : Call} {token : Token} (h : take.handed p = some token)
    (calls : List Call) : (p.run (take :: calls)).tokens[p.tokens.length]? = some token := by
  rw [run_cons]
  refine getElem?_tokens_run ?_ calls
  simp [tokens_step, h]

/-- A token's stamp is a pass that has been started. -/
theorem stamp_le_of_handed {take : Call} {token : Token} (h : take.handed p = some token) :
    token.stamp ≤ (p.step take).counter.current := by
  cases take with
  | free =>
    cases h
    exact Nat.zero_le _
  | token =>
    cases h
    exact Nat.le_refl _
  | advance =>
    cases h
    exact Nat.le_refl _
  | _ => cases h

/-- **Jobs on one counter do not disturb each other.** In any run of calls let a token be handed out
and a job be started under it, on any tree and with any options. Then

* the token, and with it the job, is cancelled exactly if a pass has started since the token was
  handed out, and never if the token belongs to no pass;
* the job is where it is, and goes on as it does, in the run without all other jobs;
* if the job completes, its rows are those of its own tree under its own options, with the stamp of
  its own token;
* the stamps of new passes increase;
* the stamps fit in a word of 64 bits, and may be compared as words, while fewer passes than there
  are words have started. -/
theorem interleaved_jobs (earlier between later : List Call) (take : Call) {token : Token}
    (htake : take.handed (run {} earlier) = some token) (root : Option Node)
    (options : RenderOptions) :
    let before := earlier ++ take :: between
    let start := Call.launch root options (run {} earlier).tokens.length
    let number := (run {} before).jobs.length
    let only := List.filterMap (Call.onlyFor number)
    let p := run {} (before ++ start :: later)
    let alone := run {} (only before ++ start :: only later)
    (token.isCancelled p.counter = true ↔ take ≠ .free ∧ Call.advance ∈ between ++ later) ∧
    (∀ job, p.job? number = some job →
      ((p.resume number).2 = .cancelled ↔ take ≠ .free ∧ Call.advance ∈ between ++ later) ∧
      ((p.finish number).2 = .cancelled ↔ take ≠ .free ∧ Call.advance ∈ between ++ later)) ∧
    (alone.jobs.length = 1 ∧ p.job? number = alone.job? 0 ∧
      (p.resume number).2 = (alone.resume 0).2 ∧ (p.finish number).2 = (alone.finish 0).2) ∧
    (∀ rows, (p.resume number).2 = .complete rows ∨ (p.finish number).2 = .complete rows →
      rows = ⟨(root.map (Node.rows options.showAnonymous 0)).getD [], token.stamp⟩) ∧
    (advanceStamps {} (before ++ start :: later)).Pairwise (· < ·) ∧
    ((before ++ start :: later).countP Call.isAdvance < UInt64.size →
      (UInt64.ofNat p.counter.current = UInt64.ofNat token.stamp ↔
        p.counter.current = token.stamp)) := by
  intro before start number only p alone
  have htoken : (run {} before).tokens[(run {} earlier).tokens.length]? = some token := by
    rw [run_append]
    exact getElem?_tokens_of_handed htake between
  have hp : p = ((run {} before).step start).run later := by
    simp only [p, run_append, run_cons]
  -- whatever follows, the job goes on by its own slices
  have hheld : Held ⟨root, options, token, {}⟩ number p :=
    hp ▸ (held_launch htoken root options).run later
  have hsound := Job.sound_start root options token
  -- the same run without all other jobs
  have hbeside : Beside number p alone := by
    have hbefore := (beside_empty number).run before (.inr (Nat.le_refl number))
    have hstart := hbefore.launch rfl htoken root options
    have hlater := hstart.run later (.inl (held_launch htoken root options).started)
    simpa only [p, alone, run_append, run_cons] using hlater
  -- the passes started since the token was handed out
  have hrun : p = (run {} earlier).run (take :: (between ++ start :: later)) := by
    simp only [p, before, run_append, run_cons]
  have hcancelled : token.isCancelled p.counter = true ↔
      take ≠ .free ∧ Call.advance ∈ between ++ later := by
    rw [hrun, isCancelled_iff_of_handed htake]
    simp [start]
  refine ⟨hcancelled, ?_, ⟨hbeside.length_eq_one hheld.started, hbeside.job?_eq.symm,
    hbeside.resume_snd, hbeside.finish_snd⟩, fun rows hrows => hheld.eq_reference hsound hrows,
    pairwise_advanceStamps {} _, ?_⟩
  · intro job hjob
    constructor
    · exact (hheld.resume_cancelled_iff hsound hjob).trans hcancelled
    · exact (hheld.finish_cancelled_iff hsound hjob).trans hcancelled
  · intro hlt
    have hcounter : p.counter.current = (before ++ start :: later).countP Call.isAdvance := by
      rw [counter_run]
      exact Nat.zero_add _
    have hstamp : token.stamp ≤ p.counter.current := by
      rw [hrun, run_cons, counter_run]
      exact Nat.le_add_right_of_le (stamp_le_of_handed htake)
    have hword : p.counter.current < UInt64.size := hcounter ▸ hlt
    rw [UInt64.ofNat_eq_iff_mod_eq_toNat, UInt64.toNat_ofNat', Nat.mod_eq_of_lt hword,
      Nat.mod_eq_of_lt (Nat.lt_of_le_of_lt hstamp hword)]

/-- A second job of the same pass, turns of both, and a new pass. -/
def nestedTurns : List Call :=
  [.token, .launch Job.nestedSample Job.stepwise 1, .resume 0, .resume 1, .resume 0, .advance]

/-- A job of the old pass is cancelled in the midst of its tree; under a token of no pass it goes
on. -/
theorem interleaved_jobs_nestedTurns :
    ((run {} (.advance :: .launch Job.nestedSample Job.stepwise 0 :: nestedTurns)).resume 0).2 =
      .cancelled ∧
    ((run {} (.free :: .launch Job.nestedSample Job.stepwise 0 :: nestedTurns)).resume 0).2 ≠
      .cancelled := by
  constructor
  · have h := interleaved_jobs [] [] nestedTurns .advance rfl Job.nestedSample Job.stepwise
    exact (h.2.1 _ rfl).1.2 ⟨nofun, by simp [nestedTurns]⟩
  · have h := interleaved_jobs [] [] nestedTurns .free rfl Job.nestedSample Job.stepwise
    exact fun hc => ((h.2.1 _ rfl).1.1 hc).1 rfl

end Pool

end SyntaxInspector
