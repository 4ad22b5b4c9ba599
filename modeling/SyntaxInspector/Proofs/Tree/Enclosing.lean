import Mathlib.Tactic.SplitIfs
import SyntaxInspector.Proofs.Tree.Nesting

/-!
# The nodes around a target

The search for a target goes down from the root, enters the first child that reaches the target and
never looks at the children after it. Where ranges are nested this loses nothing, unless a node
stands empty right at the target: the search meets all nodes that enclose the target, and no others
but the root.

* `Range.encloses` — a node with this range lies around a target;
* `Node.enclosing` — the nodes around a target, in pre-order;
* `Node.enclosing_cons` — among siblings they all lie on one way down;
* `Node.path_holds_all_enclosing` — what the search meets, and which node it stops at.
-/

namespace SyntaxInspector

namespace Point

variable {p q r : Point}

theorem lt_of_lt_of_le (h : p < q) (h' : q ≤ r) : p < r := by
  simp only [lt_def, le_def] at *
  omega

theorem lt_of_le_of_ne (h : p ≤ q) (hne : p ≠ q) : p < q := by
  by_contra hnot
  exact hne (le_antisymm h (not_lt.1 hnot))

theorem le_of_lt (h : p < q) : p ≤ q := by
  simp only [lt_def, le_def] at *
  omega

end Point

/-! ### Ranges around a target -/

namespace Range

variable {r s target : Range}

/-- Whether a range lies around a target: around a point if it contains the point, and around
anything else if it reaches from one end to the other. -/
def encloses (r target : Range) : Bool :=
  if target.start = target.stop then r.containsPoint target.start else r.contains target

/-- A target that is no point where a given range stands empty. -/
def IsClearOf (target r : Range) : Prop :=
  target.start < target.stop ∨ target.start = target.stop ∧ r ≠ target

theorem IsClearOf.start_le_stop (h : target.IsClearOf r) : target.start ≤ target.stop := by
  rcases h with hlt | ⟨heq, -⟩
  · exact Point.le_of_lt hlt
  · exact heq ▸ Point.le_refl _

theorem encloses_iff (h : target.start ≤ target.stop) :
    r.encloses target = true ↔
      r.start ≤ target.start ∧ target.start < r.stop ∧ target.stop ≤ r.stop := by
  unfold encloses containsPoint contains
  split_ifs with hpoint
  · rw [← hpoint]
    simp only [Bool.and_eq_true, decide_eq_true_eq]
    exact ⟨fun ⟨hstart, hstop⟩ => ⟨hstart, hstop, Point.le_of_lt hstop⟩,
      fun ⟨hstart, hstop, _⟩ => ⟨hstart, hstop⟩⟩
  · simp only [Bool.and_eq_true, decide_eq_true_eq]
    exact ⟨fun ⟨hstart, hstop⟩ =>
        ⟨hstart, Point.lt_of_lt_of_le (Point.lt_of_le_of_ne h hpoint) hstop, hstop⟩,
      fun ⟨hstart, _, hstop⟩ => ⟨hstart, hstop⟩⟩

/-- What lies around a target is itself enclosed by all that it lies inside of. -/
theorem encloses_of_inside (h : target.start ≤ target.stop) (hstart : r.start ≤ s.start)
    (hstop : s.stop ≤ r.stop) (hs : s.encloses target = true) : r.encloses target = true := by
  obtain ⟨hbefore, hafter, hend⟩ := (encloses_iff h).1 hs
  exact (encloses_iff h).2 ⟨Point.le_trans hstart hbefore, Point.lt_of_lt_of_le hafter hstop,
    Point.le_trans hend hstop⟩

/-- What starts after the start of a target does not lie around it. -/
theorem encloses_of_start_lt (h : target.start ≤ target.stop) (hlt : target.start < r.start) :
    r.encloses target = false := by
  rw [Bool.eq_false_iff]
  intro hencloses
  exact Point.not_lt.2 ((encloses_iff h).1 hencloses).1 hlt

/-- What does not start too late lies around a target just if the search finds that it reaches the
target. -/
theorem reaches_iff_encloses (hclear : target.IsClearOf r) (hstart : r.start ≤ target.start) :
    r.reaches target = true ↔ r.encloses target = true := by
  have hle := hclear.start_le_stop
  rw [encloses_iff hle]
  unfold reaches
  split_ifs with hempty
  · simp only [Bool.and_eq_true, decide_eq_true_eq]
    constructor
    · -- an empty range would have to stand right at the target
      rintro ⟨hstop, htouch⟩
      exfalso
      have hat : target.start = r.stop := Point.le_antisymm htouch (hempty ▸ hstart)
      rcases hclear with hlt | ⟨hpoint, hne⟩
      · exact Point.not_lt.2 (hat ▸ hstop) hlt
      · apply hne
        obtain ⟨rstart, rstop⟩ := r
        obtain ⟨tstart, tstop⟩ := target
        simp_all
    · rintro ⟨-, hlt, hstop⟩
      exact ⟨hstop, Point.le_of_lt hlt⟩
  · simp only [Bool.and_eq_true, decide_eq_true_eq]
    exact ⟨fun ⟨hstop, hlt⟩ => ⟨hstart, hlt, hstop⟩, fun ⟨_, hlt, hstop⟩ => ⟨hstop, hlt⟩⟩

end Range

namespace Node

variable {target : Range} {n m : Node} {ns : List Node}

/-! ### Nodes around a target -/

/-- The nodes around a target among trees side by side, in pre-order. -/
def enclosing (target : Range) (ns : List Node) : List Node :=
  (preorderList ns).filter (·.data.range.encloses target)

theorem mem_preorder_of_mem_children (hm : m ∈ preorderList n.children) : m ∈ n.preorder := by
  rw [preorder_eq_cons]
  exact List.mem_cons_of_mem _ hm

/-- Among siblings the nodes around a target are found the way the search goes: they are the first
sibling that reaches the target and nodes below it, unless it starts too late. -/
theorem enclosing_cons (h : WellNestedAll (n :: ns))
    (hclear : ∀ m ∈ preorderList (n :: ns), target.IsClearOf m.data.range) :
    enclosing target (n :: ns) =
      if n.data.range.reaches target then
        if target.start < n.data.range.start then [] else n :: enclosing target n.children
      else enclosing target ns := by
  have hn : n.WellNested := h.each n List.mem_cons_self
  have hhead : target.IsClearOf n.data.range :=
    hclear n (List.mem_append_left _ n.self_mem_preorder)
  have hle := hhead.start_le_stop
  -- once a node starts after the target does, all the nodes that follow it do
  have hlater : target.start < n.data.range.stop → enclosing target ns = [] := by
    intro hlt
    refine List.filter_eq_nil_iff.2 fun m hm => ?_
    rw [Range.encloses_of_start_lt hle (Point.lt_of_lt_of_le hlt (h.stop_le_start hm))]
    simp
  rw [enclosing, preorderList, List.filter_append]
  change n.preorder.filter _ ++ enclosing target ns = _
  split_ifs with hreaches hlate
  · have hhere : n.preorder.filter (·.data.range.encloses target) = [] := by
      refine List.filter_eq_nil_iff.2 fun m hm => ?_
      rw [Range.encloses_of_start_lt hle (Point.lt_of_lt_of_le hlate (hn.inside hm).1)]
      simp
    rw [hhere, hlater (Point.lt_of_lt_of_le hlate hn.self.ordered), List.append_nil]
  · have hstart := Point.not_lt.1 hlate
    have hencloses := (Range.reaches_iff_encloses hhead hstart).1 hreaches
    rw [hlater ((Range.encloses_iff hle).1 hencloses).2.1, List.append_nil, preorder_eq_cons,
      List.filter_cons, if_pos hencloses, enclosing]
  · have hhere : n.preorder.filter (·.data.range.encloses target) = [] := by
      refine List.filter_eq_nil_iff.2 fun m hm hm' => hreaches ?_
      have hencloses := Range.encloses_of_inside hle (hn.inside hm).1 (hn.inside hm).2 hm'
      have hstart := ((Range.encloses_iff hle).1 hencloses).1
      exact (Range.reaches_iff_encloses hhead hstart).2 hencloses
    rw [hhere, List.nil_append]

mutual

/-- The search meets the node it starts from and all nodes around the target below it. -/
theorem pathTo_eq : (n : Node) → n.WellNested →
    (∀ m ∈ n.preorder, target.IsClearOf m.data.range) →
      n.pathTo target = n.data :: (enclosing target n.children).map data
  | .mk d cs, h, hclear => by
    rw [pathTo, data_mk, children_mk,
      pathAmong_eq cs h.children fun m hm => hclear m (mem_preorder_of_mem_children hm)]

theorem pathAmong_eq : (ns : List Node) → WellNestedAll ns →
    (∀ m ∈ preorderList ns, target.IsClearOf m.data.range) →
      pathAmong target ns = (enclosing target ns).map data
  | [], _, _ => rfl
  | n :: ns, h, hclear => by
    have hhere := pathTo_eq n (h.each n List.mem_cons_self) fun m hm =>
      hclear m (List.mem_append_left _ hm)
    have hthere := pathAmong_eq ns h.tail fun m hm => hclear m (List.mem_append_right _ hm)
    rw [pathAmong, enclosing_cons h hclear, hhere, hthere]
    split_ifs <;> rfl

end

mutual

/-- Of the nodes around a target, each lies below those before it. -/
theorem pairwise_enclosing_children : (n : Node) → n.WellNested →
    (∀ m ∈ n.preorder, target.IsClearOf m.data.range) →
      (n :: enclosing target n.children).Pairwise fun m k => k ∈ preorderList m.children
  | .mk d cs, h, hclear => by
    refine List.pairwise_cons.2 ⟨fun m hm => (List.mem_filter.1 hm).1, ?_⟩
    exact pairwise_enclosing cs h.children fun m hm =>
      hclear m (mem_preorder_of_mem_children hm)

theorem pairwise_enclosing : (ns : List Node) → WellNestedAll ns →
    (∀ m ∈ preorderList ns, target.IsClearOf m.data.range) →
      (enclosing target ns).Pairwise fun m k => k ∈ preorderList m.children
  | [], _, _ => List.Pairwise.nil
  | n :: ns, h, hclear => by
    rw [enclosing_cons h hclear]
    split_ifs
    · exact List.Pairwise.nil
    · exact pairwise_enclosing_children n (h.each n List.mem_cons_self) fun m hm =>
        hclear m (List.mem_append_left _ hm)
    · exact pairwise_enclosing ns h.tail fun m hm => hclear m (List.mem_append_right _ hm)

end

/-- The search stops at the last node that counts, or at the root. -/
theorem atRange_eq_of_pathTo {root : Node} {around : List Node}
    (hpath : root.pathTo target = root.data :: around.map data) (anonymous : Bool) :
    root.atRange target anonymous =
      ((around.filter fun n => anonymous || n.data.named).getLast?.getD root).data.info := by
  have hlast : (around.map data).reverse.find? (fun d => anonymous || d.named) =
      (around.filter fun n => anonymous || n.data.named).getLast?.map data := by
    rw [List.getLast?_filter, ← List.map_reverse, List.find?_map]
    rfl
  rw [atRange, hpath, List.reverse_cons, List.find?_append, hlast]
  cases (around.filter fun n => anonymous || n.data.named).getLast? with
  | some n => rfl
  | none =>
    -- whether the root counts or not, it is the node
    cases hroot : (anonymous || root.data.named) <;> simp [hroot]

/-- **The path holds all nodes around the target.** Let the ranges of a tree be nested, and let the
target be a range that is not empty, or a point at which no node stands empty.

* The search from the root meets the root and then, in pre-order, all other nodes around the target.
* Each of these lies below those before it, so the last is the innermost.
* The node at the target is the innermost of them that is named, or of any kind if anonymous nodes
  count, and the root if there is none. -/
theorem path_holds_all_enclosing (root : Node) (target : Range) (hnested : root.WellNested)
    (hclear : target.start < target.stop ∨
      target.start = target.stop ∧ ∀ n ∈ root.preorder, n.data.range ≠ target) :
    let around := root.preorder.tail.filter fun n => n.data.range.encloses target
    root.pathTo target = (root :: around).map data ∧
    (root :: around).Pairwise (fun n m => m ∈ n.preorder.tail) ∧
    ∀ anonymous, root.atRange target anonymous =
      ((around.filter fun n => anonymous || n.data.named).getLast?.getD root).data.info := by
  intro around
  have htail : ∀ n : Node, n.preorder.tail = preorderList n.children := fun n => by
    rw [preorder_eq_cons, List.tail_cons]
  have haround : around = enclosing target root.children := by
    rw [enclosing, ← htail]
  have hclearOf : ∀ n ∈ root.preorder, target.IsClearOf n.data.range := fun n hn =>
    hclear.imp_right fun ⟨hpoint, hempty⟩ => ⟨hpoint, hempty n hn⟩
  have hpath := pathTo_eq root hnested hclearOf
  rw [← haround] at hpath
  refine ⟨hpath, ?_, atRange_eq_of_pathTo hpath⟩
  simp only [htail, haround]
  exact pairwise_enclosing_children root hnested hclearOf

/-- The array `[1 23]`, with a comma put in after the first number. -/
def mendedArray : Node :=
  .mk ⟨"array", true, false, none, ⟨⟨0, 0⟩, ⟨0, 6⟩⟩, 0, 6, .plain 1⟩
    [.mk ⟨"[", false, false, none, ⟨⟨0, 0⟩, ⟨0, 1⟩⟩, 0, 1, .plain 2⟩ [],
      .mk ⟨"number", true, false, none, ⟨⟨0, 1⟩, ⟨0, 2⟩⟩, 1, 2, .plain 3⟩ [],
      .mk ⟨",", false, true, none, ⟨⟨0, 2⟩, ⟨0, 2⟩⟩, 2, 2, .plain 4⟩ [],
      .mk ⟨"number", true, false, none, ⟨⟨0, 3⟩, ⟨0, 5⟩⟩, 3, 5, .plain 5⟩ [],
      .mk ⟨"]", false, false, none, ⟨⟨0, 5⟩, ⟨0, 6⟩⟩, 5, 6, .plain 6⟩ []]

/-- The second number lies around its last digit, and nothing but the array around both numbers. -/
theorem path_holds_all_enclosing_mendedArray :
    mendedArray.WellNested ∧
    (∀ n ∈ mendedArray.preorder, n.data.range ≠ ⟨⟨0, 4⟩, ⟨0, 4⟩⟩) ∧
    (mendedArray.atRange ⟨⟨0, 4⟩, ⟨0, 4⟩⟩ false).id = .plain 5 ∧
    (⟨0, 1⟩ : Point) < ⟨0, 5⟩ ∧ (mendedArray.atRange ⟨⟨0, 1⟩, ⟨0, 5⟩⟩ true).id = .plain 1 := by
  have hnested : mendedArray.WellNested := by decide
  have hclear : ∀ n ∈ mendedArray.preorder, n.data.range ≠ ⟨⟨0, 4⟩, ⟨0, 4⟩⟩ := by decide
  have hpoint := (path_holds_all_enclosing mendedArray ⟨⟨0, 4⟩, ⟨0, 4⟩⟩ hnested
    (.inr ⟨rfl, hclear⟩)).2.2 false
  have hrange := (path_holds_all_enclosing mendedArray ⟨⟨0, 1⟩, ⟨0, 5⟩⟩ hnested
    (.inl (by decide))).2.2 true
  refine ⟨hnested, hclear, ?_, by decide, ?_⟩
  · rw [hpoint]
    rfl
  · rw [hrange]
    rfl

end Node

end SyntaxInspector
