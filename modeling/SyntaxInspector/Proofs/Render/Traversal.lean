import Mathlib.Tactic.SplitIfs
import SyntaxInspector.Proofs.Render.Visits
import SyntaxInspector.Proofs.Tree.Position
import SyntaxInspector.Render.Job

/-!
# The traversal of a render job

At any moment of a traversal the rows so far and the rows still to come make up the rows of the
tree, the depth kept is the number of ancestors with a row, and the number of steps still to come is
known exactly. One step keeps this account, so a run of steps does.

* `Walk.Sound` — the account of a traversal;
* `Walk.Sound.step` — what one step does to it;
* `Walk.Sound.run_lt`, `Walk.Sound.run_ge` — what a run of steps does to it.
-/

namespace SyntaxInspector

namespace Walk

/-! ### What is still to come -/

/-- The number of levels of a way back whose node has a row. -/
def shownAbove (showAnonymous : Bool) (path : List Frame) : Nat :=
  path.countP (·.parent.qualifies showAnonymous)

/-- The rows of all nodes after a subtree: of its siblings on the right, and so on upwards. -/
def rowsAfter (showAnonymous : Bool) : List Frame → List Row
  | [] => []
  | f :: rest =>
    Node.rowsList showAnonymous (shownAbove showAnonymous (f :: rest)) f.right ++
      rowsAfter showAnonymous rest

/-- The steps after a subtree is done: two for each node on the right, one to leave each level. -/
def stepsAfter : List Frame → Nat
  | [] => 0
  | f :: rest => 2 * Node.sizeList f.right + 1 + stepsAfter rest

/-- The rows still to come. -/
def rowsLeft (showAnonymous : Bool) (w : Walk) (c : Cursor) : List Row :=
  if w.visited then rowsAfter showAnonymous c.path
  else c.focus.rows showAnonymous w.depth ++ rowsAfter showAnonymous c.path

/-- The steps still to come, the last of which finds the end. -/
def stepsLeft (w : Walk) (c : Cursor) : Nat :=
  if w.visited then 1 + stepsAfter c.path else 2 * c.focus.size + stepsAfter c.path

theorem rowsLeft_of_visited {showAnonymous : Bool} {w : Walk} (hv : w.visited = true)
    (c : Cursor) : w.rowsLeft showAnonymous c = rowsAfter showAnonymous c.path := by
  rw [rowsLeft, if_pos hv]

theorem rowsLeft_of_unvisited {showAnonymous : Bool} {w : Walk} (hv : w.visited = false)
    (c : Cursor) : w.rowsLeft showAnonymous c =
      c.focus.rows showAnonymous w.depth ++ rowsAfter showAnonymous c.path := by
  rw [rowsLeft, if_neg (by simp [hv])]

theorem stepsLeft_of_visited {w : Walk} (hv : w.visited = true) (c : Cursor) :
    w.stepsLeft c = 1 + stepsAfter c.path := by
  rw [stepsLeft, if_pos hv]

theorem stepsLeft_of_unvisited {w : Walk} (hv : w.visited = false) (c : Cursor) :
    w.stepsLeft c = 2 * c.focus.size + stepsAfter c.path := by
  rw [stepsLeft, if_neg (by simp [hv])]

/-- The account of a traversal that has reached a cursor. -/
structure Sound (showAnonymous : Bool) (root : Node) (w : Walk) (c : Cursor) : Prop where
  /-- The cursor stands in the tree. -/
  top : c.top = root
  /-- The depth kept is the number of ancestors with a row. -/
  depth : w.depth = shownAbove showAnonymous c.path
  /-- No row is lost or shown twice. -/
  rows : w.rows.toList ++ w.rowsLeft showAnonymous c = root.rows showAnonymous 0

variable {showAnonymous : Bool} {root : Node} {w : Walk} {c : Cursor}

/-- A traversal starts at the root. -/
theorem sound_start (showAnonymous : Bool) (root : Node) :
    Sound showAnonymous root {} (.ofRoot root) where
  top := Cursor.top_ofRoot root
  depth := rfl
  rows := by simp [rowsLeft, rowsAfter, Cursor.ofRoot]

theorem stepsLeft_pos (w : Walk) (c : Cursor) : 0 < w.stepsLeft c := by
  obtain ⟨⟨d, cs⟩, path⟩ := c
  unfold stepsLeft
  split_ifs
  · omega
  · rw [Node.size]; omega

/-! ### The kinds of steps -/

/-- The rows once a node has been shown. -/
def shown (showAnonymous : Bool) (w : Walk) (d : NodeData) : Array Row :=
  match d.label? showAnonymous with
  | some label => w.rows.push (.ofNode w.depth d label)
  | none => w.rows

theorem step_down {child : Cursor} (hv : w.visited = false) (hc : c.firstChild? = some child) :
    w.step showAnonymous c =
      ({ w with
        visited := false
        depth := if c.data.qualifies showAnonymous then w.depth + 1 else w.depth
        rows := w.shown showAnonymous c.data }, some child) := by
  obtain ⟨started, position, depth, visited, rows⟩ := w
  subst hv
  simp only [step, hc, NodeData.isSome_label?]
  rfl

theorem step_leaf (hv : w.visited = false) (hc : c.firstChild? = none) :
    w.step showAnonymous c =
      ({ w with visited := true, rows := w.shown showAnonymous c.data }, some c) := by
  obtain ⟨started, position, depth, visited, rows⟩ := w
  subst hv
  simp only [step, hc]
  rfl

theorem step_across {sibling : Cursor} (hv : w.visited = true)
    (hs : c.nextSibling? = some sibling) :
    w.step showAnonymous c = ({ w with visited := false }, some sibling) := by
  obtain ⟨started, position, depth, visited, rows⟩ := w
  subst hv
  simp only [step, hs]

theorem step_up {parent : Cursor} (hv : w.visited = true) (hs : c.nextSibling? = none)
    (hp : c.parent? = some parent) :
    w.step showAnonymous c =
      ({ w with
        visited := true
        depth := if parent.data.qualifies showAnonymous then w.depth - 1 else w.depth },
        some parent) := by
  obtain ⟨started, position, depth, visited, rows⟩ := w
  subst hv
  simp only [step, hs, hp]

theorem step_end (hv : w.visited = true) (hs : c.nextSibling? = none) (hp : c.parent? = none) :
    w.step showAnonymous c = (w, none) := by
  obtain ⟨started, position, depth, visited, rows⟩ := w
  subst hv
  simp only [step, hs, hp]

/-! ### The account -/

theorem shownAbove_cons (f : Frame) (path : List Frame) :
    shownAbove showAnonymous (f :: path) =
      if f.parent.qualifies showAnonymous then shownAbove showAnonymous path + 1
      else shownAbove showAnonymous path := by
  rw [shownAbove, List.countP_cons]
  split_ifs <;> rfl

/-- The rows of a tree are the row of its root, if it has one, and those of its children. -/
theorem toList_shown_append (w : Walk) (d : NodeData) (cs : List Node) :
    (w.shown showAnonymous d).toList ++ Node.rowsList showAnonymous
        (if d.qualifies showAnonymous then w.depth + 1 else w.depth) cs =
      w.rows.toList ++ (Node.mk d cs).rows showAnonymous w.depth := by
  rw [Node.rows, shown, ← NodeData.isSome_label?]
  cases d.label? showAnonymous with
  | none => simp
  | some label => simp

/-- What a step came to: the account of the next moment, or the end. -/
def Accounted (showAnonymous : Bool) (root : Node) (before : Nat) : Walk × Option Cursor → Prop
  | (w, some c) => Sound showAnonymous root w c ∧ w.stepsLeft c + 1 = before
  | (w, none) => w.rows.toList = root.rows showAnonymous 0 ∧ before = 1

/-- Going down to the first child. -/
theorem Sound.step_down {child : Cursor} (h : Sound showAnonymous root w c)
    (hv : w.visited = false) (hc : c.firstChild? = some child) :
    Accounted showAnonymous root (w.stepsLeft c) (w.step showAnonymous c) := by
  rw [Walk.step_down hv hc]
  obtain ⟨⟨d, cs⟩, path⟩ := c
  have htop := (Cursor.top_of_firstChild? hc).trans h.top
  cases cs with
  | nil => simp [Cursor.firstChild?] at hc
  | cons n ns =>
    cases hc
    have hdepth : (if d.qualifies showAnonymous then w.depth + 1 else w.depth) =
        shownAbove showAnonymous (⟨d, [], ns⟩ :: path) := by
      rw [shownAbove_cons, h.depth]
    refine ⟨⟨htop, hdepth, ?_⟩, ?_⟩
    · have hrows := h.rows
      rw [rowsLeft_of_unvisited hv, ← List.append_assoc, ← toList_shown_append, hdepth] at hrows
      show (w.shown showAnonymous d).toList ++
        (n.rows showAnonymous (if d.qualifies showAnonymous then w.depth + 1 else w.depth) ++
          rowsAfter showAnonymous (⟨d, [], ns⟩ :: path)) = _
      rw [hdepth, ← hrows]
      simp [rowsAfter, Node.rowsList]
    · rw [stepsLeft_of_unvisited hv, stepsLeft_of_unvisited rfl]
      simp only [Node.size, Node.sizeList, stepsAfter]
      omega

/-- A node without children is done as soon as it is shown. -/
theorem Sound.step_leaf (h : Sound showAnonymous root w c) (hv : w.visited = false)
    (hc : c.firstChild? = none) :
    Accounted showAnonymous root (w.stepsLeft c) (w.step showAnonymous c) := by
  rw [Walk.step_leaf hv hc]
  obtain ⟨⟨d, cs⟩, path⟩ := c
  cases cs with
  | cons n ns => simp [Cursor.firstChild?] at hc
  | nil =>
    refine ⟨⟨h.top, h.depth, ?_⟩, ?_⟩
    · have hrows := h.rows
      rw [rowsLeft_of_unvisited hv, ← List.append_assoc, ← toList_shown_append] at hrows
      rw [rowsLeft_of_visited rfl]
      simpa [Node.rowsList, Cursor.data] using hrows
    · rw [stepsLeft_of_unvisited hv, stepsLeft_of_visited rfl]
      simp only [Node.size, Node.sizeList]
      omega

/-- From a subtree that is done on to the next sibling. -/
theorem Sound.step_across {sibling : Cursor} (h : Sound showAnonymous root w c)
    (hv : w.visited = true) (hs : c.nextSibling? = some sibling) :
    Accounted showAnonymous root (w.stepsLeft c) (w.step showAnonymous c) := by
  rw [Walk.step_across hv hs]
  have htop := (Cursor.top_of_nextSibling? hs).trans h.top
  obtain ⟨focus, path⟩ := c
  match path with
  | [] => simp [Cursor.nextSibling?] at hs
  | ⟨p, left, []⟩ :: rest => simp [Cursor.nextSibling?] at hs
  | ⟨p, left, m :: right⟩ :: rest =>
    cases hs
    have hdepth : w.depth = shownAbove showAnonymous (⟨p, left, m :: right⟩ :: rest) := h.depth
    rw [shownAbove_cons, ← shownAbove_cons ⟨p, focus :: left, right⟩ rest] at hdepth
    refine ⟨⟨htop, hdepth, ?_⟩, ?_⟩
    · have hrows := h.rows
      rw [rowsLeft_of_visited hv] at hrows
      rw [rowsLeft_of_unvisited rfl]
      simpa [rowsAfter, Node.rowsList, hdepth, shownAbove_cons] using hrows
    · rw [stepsLeft_of_visited hv, stepsLeft_of_unvisited rfl]
      simp only [Node.sizeList, stepsAfter]
      omega

/-- From the last sibling up to the parent, whose subtree is then done. -/
theorem Sound.step_up {parent : Cursor} (h : Sound showAnonymous root w c)
    (hv : w.visited = true) (hs : c.nextSibling? = none) (hp : c.parent? = some parent) :
    Accounted showAnonymous root (w.stepsLeft c) (w.step showAnonymous c) := by
  rw [Walk.step_up hv hs hp]
  have htop := (Cursor.top_of_parent? hp).trans h.top
  obtain ⟨focus, path⟩ := c
  match path with
  | [] => simp [Cursor.parent?] at hp
  | ⟨p, left, m :: right⟩ :: rest => simp [Cursor.nextSibling?] at hs
  | ⟨p, left, []⟩ :: rest =>
    cases hp
    have hbelow : w.depth = shownAbove showAnonymous (⟨p, left, []⟩ :: rest) := h.depth
    have hdepth : (if p.qualifies showAnonymous then w.depth - 1 else w.depth) =
        shownAbove showAnonymous rest := by
      rw [hbelow, shownAbove_cons]
      split_ifs <;> rfl
    refine ⟨⟨htop, hdepth, ?_⟩, ?_⟩
    · have hrows := h.rows
      rw [rowsLeft_of_visited hv] at hrows
      rw [rowsLeft_of_visited rfl]
      simpa [rowsAfter, Node.rowsList] using hrows
    · rw [stepsLeft_of_visited hv, stepsLeft_of_visited rfl]
      simp only [Node.sizeList, stepsAfter]
      omega

/-- The end, at the root. -/
theorem Sound.step_end (h : Sound showAnonymous root w c) (hv : w.visited = true)
    (hs : c.nextSibling? = none) (hp : c.parent? = none) :
    Accounted showAnonymous root (w.stepsLeft c) (w.step showAnonymous c) := by
  rw [Walk.step_end hv hs hp]
  obtain ⟨focus, path⟩ := c
  cases path with
  | cons f rest => simp [Cursor.parent?] at hp
  | nil =>
    have hrows := h.rows
    rw [rowsLeft_of_visited hv] at hrows
    rw [stepsLeft_of_visited hv]
    exact ⟨by simpa [rowsAfter] using hrows, by simp [stepsAfter]⟩

/-- One step keeps the account and uses up one of the steps to come. -/
theorem Sound.step (h : Sound showAnonymous root w c) :
    Accounted showAnonymous root (w.stepsLeft c) (w.step showAnonymous c) := by
  cases hv : w.visited with
  | false =>
    cases hc : c.firstChild? with
    | none => exact h.step_leaf hv hc
    | some child => exact h.step_down hv hc
  | true =>
    cases hs : c.nextSibling? with
    | some sibling => exact h.step_across hv hs
    | none =>
      cases hp : c.parent? with
      | some parent => exact h.step_up hv hs hp
      | none => exact h.step_end hv hs hp

/-- The depth is never reduced below zero: whenever the parent has a row, the depth counts it. -/
theorem Sound.depth_pos {parent : Cursor} (h : Sound showAnonymous root w c)
    (hp : c.parent? = some parent) (hq : parent.data.qualifies showAnonymous = true) :
    0 < w.depth := by
  obtain ⟨focus, path⟩ := c
  cases path with
  | nil => simp [Cursor.parent?] at hp
  | cons f rest =>
    cases hp
    have hf : f.parent.qualifies showAnonymous = true := hq
    have hdepth : w.depth = shownAbove showAnonymous (f :: rest) := h.depth
    rw [hdepth, shownAbove_cons, if_pos hf]
    omega

/-! ### Runs -/

/-- Fewer steps than are to come leave a traversal with the rest of them. -/
theorem Sound.run_lt {n : Nat} (h : Sound showAnonymous root w c) (hn : n < w.stepsLeft c) :
    ∃ w' c', w.run showAnonymous n c = (w', some c') ∧ Sound showAnonymous root w' c' ∧
      w'.stepsLeft c' + n = w.stepsLeft c := by
  induction n generalizing w c with
  | zero => exact ⟨w, c, rfl, h, rfl⟩
  | succ n ih =>
    have hstep := h.step
    rw [run]
    rcases hr : w.step showAnonymous c with ⟨w₁, c₁⟩
    rw [hr] at hstep
    cases c₁ with
    | none => obtain ⟨-, hone⟩ := hstep; omega
    | some c₁ =>
      obtain ⟨h₁, hleft⟩ := hstep
      obtain ⟨w', c', hrun, h', hleft'⟩ := ih h₁ (by omega)
      exact ⟨w', c', hrun, h', by omega⟩

/-- As many steps as are to come, or more, end a traversal with all rows of the tree. -/
theorem Sound.run_ge {n : Nat} (h : Sound showAnonymous root w c) (hn : w.stepsLeft c ≤ n) :
    ∃ w', w.run showAnonymous n c = (w', none) ∧ w'.rows.toList = root.rows showAnonymous 0 := by
  induction n generalizing w c with
  | zero => have := stepsLeft_pos w c; omega
  | succ n ih =>
    have hstep := h.step
    rw [run]
    rcases hr : w.step showAnonymous c with ⟨w₁, c₁⟩
    rw [hr] at hstep
    cases c₁ with
    | none => exact ⟨w₁, rfl, hstep.1⟩
    | some c₁ =>
      obtain ⟨h₁, hleft⟩ := hstep
      exact ih h₁ (by omega)

/-- Every moment of a run is accounted for. -/
theorem Sound.run {n : Nat} {w' : Walk} {c' : Cursor} (h : Sound showAnonymous root w c)
    (hrun : w.run showAnonymous n c = (w', some c')) : Sound showAnonymous root w' c' := by
  by_cases hn : n < w.stepsLeft c
  · obtain ⟨w₁, c₁, hrun₁, h₁, -⟩ := h.run_lt hn
    rw [hrun] at hrun₁
    cases hrun₁
    exact h₁
  · obtain ⟨w₁, hrun₁, -⟩ := h.run_ge (Nat.le_of_not_lt hn)
    rw [hrun] at hrun₁
    cases hrun₁

/-- A traversal has at most two steps for each node of its tree. -/
theorem stepsLeft_le (w : Walk) (c : Cursor) : w.stepsLeft c ≤ 2 * c.top.size := by
  have hbound : ∀ (path : List Frame) (n : Node),
      2 * n.size + stepsAfter path ≤ 2 * (Cursor.topFrom n path).size := by
    intro path
    induction path with
    | nil => intro n; simp [stepsAfter, Cursor.topFrom]
    | cons f rest ih =>
      intro n
      have hparent := ih (.mk f.parent (f.left.reverse ++ n :: f.right))
      rw [Node.size, Node.sizeList_append, Node.sizeList] at hparent
      rw [stepsAfter, Cursor.topFrom]
      omega
  obtain ⟨⟨d, cs⟩, path⟩ := c
  have hc := hbound path (.mk d cs)
  rw [stepsLeft, Cursor.top]
  simp only [Node.size] at hc ⊢
  split_ifs <;> omega

end Walk

end SyntaxInspector
