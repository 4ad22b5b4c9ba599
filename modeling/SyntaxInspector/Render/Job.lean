import SyntaxInspector.Render.Generation
import SyntaxInspector.Render.Row
import SyntaxInspector.Tree.Cursor

/-!
# Render jobs

A job turns a tree into rows by moving a cursor, a bounded number of steps at a time. Between two
slices it keeps only the pre-order index it has reached; when resumed it first looks at its token
and gives up if a newer pass has started.

* `Walk.step` — one step of the traversal;
* `Job.resume` — one slice;
* `Job.finish` — all slices;
* `render` — the rows of a tree, without a counter.
-/

namespace SyntaxInspector

/-- The length of a slice. -/
structure Interval where
  /-- Steps of a slice. -/
  steps : Nat
  /-- A slice has a step at least. -/
  steps_pos : 0 < steps
  deriving DecidableEq

namespace Interval

/-- Ten thousand steps, which is the interval unless another one is chosen. -/
def standard : Interval := ⟨10000, Nat.succ_pos 9999⟩

/-- The interval of a positive number of steps. -/
def ofNat? (n : Nat) : Option Interval := if h : 0 < n then some ⟨n, h⟩ else none

end Interval

instance : Inhabited Interval := ⟨.standard⟩

/-- How to render. -/
structure RenderOptions where
  /-- Whether anonymous nodes have rows. -/
  showAnonymous : Bool := false
  /-- The length of a slice. -/
  yieldInterval : Interval := .standard
  deriving DecidableEq, Inhabited

/-- What a traversal keeps between its steps. -/
structure Walk where
  /-- Whether a slice has run. -/
  started : Bool := false
  /-- Pre-order index of the node reached by the last slice. -/
  position : Nat := 0
  /-- Number of ancestors of the node reached that have a row. -/
  depth : Nat := 0
  /-- Whether the subtree of the node reached is done. -/
  visited : Bool := false
  /-- The rows so far. -/
  rows : Array Row := #[]
  deriving Inhabited

namespace Walk

/-- One step: shows a node and goes down, or goes on from a node whose subtree is done. There is no
cursor afterwards when the root's subtree is done. -/
def step (showAnonymous : Bool) : Walk → Cursor → Walk × Option Cursor
  | ⟨started, position, depth, true, rows⟩, c =>
    match c.nextSibling? with
    | some sibling => (⟨started, position, depth, false, rows⟩, some sibling)
    | none =>
      match c.parent? with
      | some parent =>
        let depth := if parent.data.qualifies showAnonymous then depth - 1 else depth
        (⟨started, position, depth, true, rows⟩, some parent)
      | none => (⟨started, position, depth, true, rows⟩, none)
  | ⟨started, position, depth, false, rows⟩, c =>
    let label := c.data.label? showAnonymous
    let rows := match label with
      | some label => rows.push (.ofNode depth c.data label)
      | none => rows
    match c.firstChild? with
    | some child =>
      let depth := if label.isSome then depth + 1 else depth
      (⟨started, position, depth, false, rows⟩, some child)
    | none => (⟨started, position, depth, true, rows⟩, some c)

/-- At most `n` steps. There is no cursor afterwards when the traversal has ended. -/
def run (showAnonymous : Bool) : Nat → Walk → Cursor → Walk × Option Cursor
  | 0, w, c => (w, some c)
  | n + 1, w, c =>
    match w.step showAnonymous c with
    | (w, some c) => run showAnonymous n w c
    | (w, none) => (w, none)

end Walk

/-- A render in progress. -/
structure Job where
  /-- The tree, if there is one. -/
  root : Option Node
  /-- How to render it. -/
  options : RenderOptions
  /-- The pass the job belongs to. -/
  token : Token
  /-- The traversal. -/
  walk : Walk := {}

instance : Inhabited Job := ⟨⟨none, {}, .free, {}⟩⟩

/-- What a slice came to. -/
inductive Slice where
  /-- More is to be done. -/
  | yielded (job : Job)
  /-- A newer pass has started; the rows so far are dropped. -/
  | cancelled
  /-- The rows are complete. -/
  | complete (rows : RowSequence)

namespace Job

/-- The pass the job belongs to. -/
def generation (j : Job) : Nat := j.token.stamp

/-- Where a slice starts: where the last one ended, or at the root. -/
def entry (root : Node) (w : Walk) : Cursor :=
  if w.started then .seek root w.position else .ofRoot root

/-- Runs one slice, under the counter's current value. -/
def resume (counter : Counter) : Job → Slice
  | ⟨root?, options, token, walk⟩ =>
    if token.isCancelled counter then .cancelled
    else
      match root? with
      | none => .complete ⟨[], token.stamp⟩
      | some root =>
        let cursor := entry root walk
        match walk.run options.showAnonymous options.yieldInterval.steps cursor with
        | (⟨_, _, depth, visited, rows⟩, some cursor) =>
          .yielded ⟨root, options, token, ⟨true, cursor.index, depth, visited, rows⟩⟩
        | (walk, none) => .complete ⟨walk.rows.toList, token.stamp⟩

/-- Runs up to `fuel` slices. -/
def finishWithin (counter : Counter) : Nat → Job → Option RowSequence
  | 0, _ => none
  | fuel + 1, j =>
    match j.resume counter with
    | .yielded j => finishWithin counter fuel j
    | .cancelled => none
    | .complete rows => some rows

/-- Slices that suffice for any job: two steps for each node of the tree, and one slice more. -/
def sliceBound (j : Job) : Nat := 2 * (j.root.map Node.size).getD 0 + 1

/-- Runs a job to its end; `none` if it was cancelled. -/
def finish (counter : Counter) (j : Job) : Option RowSequence :=
  j.finishWithin counter j.sliceBound

end Job

/-- The rows of a tree. -/
def render (root : Option Node) (options : RenderOptions) : RowSequence :=
  ((Job.mk root options .free {}).finish {}).getD {}

end SyntaxInspector
