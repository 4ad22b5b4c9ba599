import SyntaxInspector.Render.Job

/-!
# Jobs that share a counter

Several jobs may be in progress at once. They share one counter; each goes on in its own slices
until it completes or finds itself cancelled, and is gone from then on.
-/

namespace SyntaxInspector

/-- Where a new job takes its token from. -/
inductive TokenSource where
  /-- A new pass. -/
  | newPass
  /-- The current pass. -/
  | currentPass
  /-- No pass at all. -/
  | detached
  deriving DecidableEq

/-- A counter with the jobs started and the tokens taken under it. -/
structure Pool where
  /-- The shared counter. -/
  counter : Counter := {}
  /-- The jobs in order of their start; `none` for those that are gone. -/
  jobs : List (Option Job) := []
  /-- The tokens taken, in order. -/
  tokens : List Token := []

/-- What became of a job that was asked to go on. -/
inductive Progress where
  /-- More is to be done. -/
  | yielded
  /-- The job found itself cancelled. -/
  | cancelled
  /-- The job completed. -/
  | complete (rows : RowSequence)
  /-- The job was gone already. -/
  | gone

namespace Pool

/-- Starts a new pass and keeps its token. -/
def advance (p : Pool) : Pool :=
  let counter := p.counter.next
  { p with counter, tokens := p.tokens ++ [counter.token] }

/-- Keeps a token of the current pass. -/
def takeToken (p : Pool) : Pool := { p with tokens := p.tokens ++ [p.counter.token] }

/-- Keeps a token that belongs to no pass. -/
def takeFree (p : Pool) : Pool := { p with tokens := p.tokens ++ [.free] }

/-- Starts a job on a tree, under a token. -/
def launch (p : Pool) (root : Option Node) (options : RenderOptions) (token : Token) :
    Pool × Job :=
  let job : Job := ⟨root, options, token, {}⟩
  ({ p with jobs := p.jobs ++ [some job] }, job)

/-- Starts a job on a tree, with a token of its own. -/
def start (p : Pool) (root : Option Node) (options : RenderOptions) (source : TokenSource) :
    Pool × Job :=
  let counter := if source = .newPass then p.counter.next else p.counter
  let token := if source = .detached then .free else counter.token
  { p with counter }.launch root options token

/-- The job with a number, unless it is gone. -/
def job? (p : Pool) (number : Nat) : Option Job := (p.jobs[number]?).join

/-- Runs one slice of a job. -/
def resume (p : Pool) (number : Nat) : Pool × Progress :=
  match p.job? number with
  | none => (p, .gone)
  | some job =>
    match job.resume p.counter with
    | .yielded job => ({ p with jobs := p.jobs.set number (some job) }, .yielded)
    | .cancelled => ({ p with jobs := p.jobs.set number none }, .cancelled)
    | .complete rows => ({ p with jobs := p.jobs.set number none }, .complete rows)

/-- Runs up to `count` slices of a job, stopping when it is gone: the number of slices run and what
the last of them came to. -/
def resumeMany (p : Pool) (number : Nat) : Nat → Pool × Nat × Progress
  | 0 => (p, 0, .gone)
  | count + 1 =>
    match p.resume number with
    | (p, .gone) => (p, 0, .gone)
    | (p, .yielded) =>
      match p.resumeMany number count with
      | (p, 0, _) => (p, 1, .yielded)
      | (p, slices, progress) => (p, slices + 1, progress)
    | (p, progress) => (p, 1, progress)

/-- Runs a job to its end. -/
def finish (p : Pool) (number : Nat) : Pool × Progress :=
  match p.job? number with
  | none => (p, .gone)
  | some job =>
    let p := { p with jobs := p.jobs.set number none }
    match job.finish p.counter with
    | some rows => (p, .complete rows)
    | none => (p, .cancelled)

/-- Which of the tokens taken are cancelled. -/
def cancelled (p : Pool) : List Bool := p.tokens.map (·.isCancelled p.counter)

end Pool

end SyntaxInspector
