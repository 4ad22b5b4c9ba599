import SyntaxInspector.Proofs.Tree.Descent

/-!
# Nested ranges

The ranges of a parsed tree are nested: children lie inside their parent, one after the other. A
range may be empty, and an empty node may stand anywhere inside its parent.

* `Node.Nested`, `Node.WellNested` — a node whose children are nested in it, and a tree of these;
* `Node.WellNestedAll` — the same for siblings;
* `Node.WellNested.inside` — what lies below a node lies inside it.
-/

namespace SyntaxInspector

namespace Node

/-- The range of a node and those of its children fit together. -/
structure Nested (n : Node) : Prop where
  /-- The node does not end before it starts. -/
  ordered : n.data.range.start ≤ n.data.range.stop
  /-- The children lie inside the node. -/
  inside : ∀ c ∈ n.children,
    n.data.range.start ≤ c.data.range.start ∧ c.data.range.stop ≤ n.data.range.stop
  /-- The children come in document order and do not overlap. -/
  inOrder : n.children.Pairwise fun a b => a.data.range.stop ≤ b.data.range.start

instance : DecidablePred Nested := fun n =>
  decidable_of_iff
    (n.data.range.start ≤ n.data.range.stop ∧
      (∀ c ∈ n.children,
        n.data.range.start ≤ c.data.range.start ∧ c.data.range.stop ≤ n.data.range.stop) ∧
      n.children.Pairwise fun a b => a.data.range.stop ≤ b.data.range.start)
    ⟨fun ⟨h, h', h''⟩ => ⟨h, h', h''⟩, fun h => ⟨h.ordered, h.inside, h.inOrder⟩⟩

/-- All ranges of a tree fit together. -/
def WellNested (root : Node) : Prop := ∀ n ∈ root.preorder, n.Nested

instance : DecidablePred WellNested := fun root =>
  inferInstanceAs (Decidable (∀ n ∈ root.preorder, n.Nested))

/-- Trees side by side, whose ranges fit together. -/
structure WellNestedAll (ns : List Node) : Prop where
  /-- The ranges of each tree fit together. -/
  each : ∀ n ∈ ns, n.WellNested
  /-- The trees come in document order and do not overlap. -/
  inOrder : ns.Pairwise fun a b => a.data.range.stop ≤ b.data.range.start

variable {n m : Node} {ns : List Node}

theorem WellNested.self (h : n.WellNested) : n.Nested := h n n.self_mem_preorder

theorem WellNested.children (h : n.WellNested) : WellNestedAll n.children := by
  refine ⟨fun c hc m hm => h m ?_, h.self.inOrder⟩
  obtain ⟨d, cs⟩ := n
  rw [preorder]
  exact List.mem_cons_of_mem _ ((preorder_sublist_preorderList hc).subset hm)

theorem WellNestedAll.tail (h : WellNestedAll (n :: ns)) : WellNestedAll ns :=
  ⟨fun m hm => h.each m (List.mem_cons_of_mem _ hm), (List.pairwise_cons.1 h.inOrder).2⟩

mutual

/-- What lies below a node lies inside it. -/
theorem WellNested.inside : {n : Node} → n.WellNested → {m : Node} → m ∈ n.preorder →
    n.data.range.start ≤ m.data.range.start ∧ m.data.range.stop ≤ n.data.range.stop
  | .mk d cs, h, m, hm => by
    rw [preorder] at hm
    rcases List.mem_cons.1 hm with rfl | hbelow
    · exact ⟨Point.le_refl _, Point.le_refl _⟩
    · obtain ⟨c, hc, hstart, hstop⟩ := WellNestedAll.inside h.children hbelow
      obtain ⟨hstart', hstop'⟩ := h.self.inside c hc
      exact ⟨Point.le_trans hstart' hstart, Point.le_trans hstop hstop'⟩

/-- What lies below siblings lies inside one of them. -/
theorem WellNestedAll.inside : {ns : List Node} → WellNestedAll ns → {m : Node} →
    m ∈ preorderList ns → ∃ n ∈ ns,
      n.data.range.start ≤ m.data.range.start ∧ m.data.range.stop ≤ n.data.range.stop
  | [], _, m, hm => by simp [preorderList] at hm
  | n :: ns, h, m, hm => by
    rw [preorderList] at hm
    rcases List.mem_append.1 hm with hhere | hthere
    · exact ⟨n, List.mem_cons_self, (h.each n List.mem_cons_self).inside hhere⟩
    · obtain ⟨k, hk, hinside⟩ := h.tail.inside hthere
      exact ⟨k, List.mem_cons_of_mem _ hk, hinside⟩

end

/-- What lies below later siblings starts where a sibling ends, or later. -/
theorem WellNestedAll.stop_le_start (h : WellNestedAll (n :: ns)) (hm : m ∈ preorderList ns) :
    n.data.range.stop ≤ m.data.range.start := by
  obtain ⟨k, hk, hstart, -⟩ := h.tail.inside hm
  exact Point.le_trans ((List.pairwise_cons.1 h.inOrder).1 k hk) hstart

end Node

end SyntaxInspector
