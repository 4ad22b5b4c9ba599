import SyntaxInspector.Proofs.Tree.Descendants
import SyntaxInspector.Query.Rules

/-!
# Tests of nodes

Two tests ask for the kinds of other nodes: whether the node is an ancestor of such a node, and
whether it is a descendant of one. They are the two sides of one relation between nodes. For each
test there is the opposite one, which expects the other answer.

* `TestKind.holds_ancestorOfType_iff`, `TestKind.holds_descendantOfType_iff` — what is asked;
* `NodeTest.passes_below_and_above` — all tests of this kind on all nodes of a tree.
-/

namespace SyntaxInspector

theorem NodeData.isOneOf_iff {kinds : List String} {d : NodeData} :
    d.isOneOf kinds = true ↔ d.kind ∈ kinds := by
  simp [isOneOf]

variable {t : SyntaxTree} {a c : Cursor} {kinds : List String}

namespace TestKind

/-- A node is an ancestor of all nodes below it: not of itself, nor of its siblings. -/
theorem holds_ancestorOfType_iff :
    holds t c (.ancestorOfType kinds) = true ↔
      ∃ d : Cursor, c ∈ d.ancestors ∧ d.data.kind ∈ kinds := by
  rw [holds, Cursor.anyBelow_ofRoot, Cursor.anyBelow_iff]
  simp only [NodeData.isOneOf_iff]

/-- A node is a descendant of all nodes above it. -/
theorem holds_descendantOfType_iff (ht : t.ParentsAgree) (hc : c.top = t.root) :
    holds t c (.descendantOfType kinds) = true ↔ ∃ a ∈ c.ancestors, a.data.kind ∈ kinds := by
  rw [holds, SyntaxTree.anyAncestor_iff ht hc]
  simp only [NodeData.isOneOf_iff]

end TestKind

namespace NodeTest

theorem passes_expected {kind : TestKind} : passes ⟨kind, true⟩ t c = kind.holds t c := by
  simp [passes]

/-- The opposite test has the opposite outcome. -/
theorem passes_unexpected {kind : TestKind} :
    passes ⟨kind, false⟩ t c = !passes ⟨kind, true⟩ t c := by
  simp [passes]

/-- **Tests look below and above a node.** Let the parser's own navigation lead from each node of a
tree to its parent, and take any node of the tree and any list of kinds.

* The node is found to be an ancestor exactly if some node of the tree that has it as a proper
  ancestor is of one of the kinds.
* The node is found to be a descendant exactly if one of its proper ancestors is of one of the
  kinds.
* So an ancestor of the node passes the one test if the node is of one of the kinds, and the node
  passes the other test if the ancestor is.
* Whatever is asked of the node, it passes the opposite test exactly if it fails the test. -/
theorem passes_below_and_above (t : SyntaxTree) (ht : t.ParentsAgree) (c : Cursor)
    (hc : c ∈ t.root.cursors) :
    (∀ kinds, TestKind.holds t c (.ancestorOfType kinds) = true ↔
      ∃ d ∈ t.root.cursors, c ∈ d.ancestors ∧ d.data.kind ∈ kinds) ∧
    (∀ kinds, TestKind.holds t c (.descendantOfType kinds) = true ↔
      ∃ a ∈ c.ancestors, a.data.kind ∈ kinds) ∧
    (∀ a ∈ c.ancestors, ∀ kinds,
      (c.data.kind ∈ kinds → passes ⟨.ancestorOfType kinds, true⟩ t a = true) ∧
      (a.data.kind ∈ kinds → passes ⟨.descendantOfType kinds, true⟩ t c = true)) ∧
    ∀ kind, passes ⟨kind, false⟩ t c = true ↔ ¬ passes ⟨kind, true⟩ t c = true := by
  have htop : c.top = t.root := Node.mem_cursors_iff.1 hc
  refine ⟨fun kinds => ?_, fun kinds => TestKind.holds_descendantOfType_iff ht htop,
    fun a ha kinds => ⟨fun hkind => ?_, fun hkind => ?_⟩, fun kind => ?_⟩
  · rw [TestKind.holds_ancestorOfType_iff]
    constructor
    · rintro ⟨d, hd, hkind⟩
      have hmem : d ∈ t.root.cursors :=
        Node.mem_cursors_iff.2 ((Cursor.top_of_mem_ancestors hd).symm.trans htop)
      exact ⟨d, hmem, hd, hkind⟩
    · rintro ⟨d, -, hd, hkind⟩
      exact ⟨d, hd, hkind⟩
  · rw [passes_expected]
    exact TestKind.holds_ancestorOfType_iff.2 ⟨c, ha, hkind⟩
  · rw [passes_expected]
    exact (TestKind.holds_descendantOfType_iff ht htop).2 ⟨a, ha, hkind⟩
  · rw [passes_unexpected]
    simp

/-- A list of two numbers. The parser's own navigation overlooks the comma between them. -/
def pairTree : SyntaxTree :=
  let leaf (kind : String) (named : Bool) (start stop number : Nat) : Node :=
    .mk ⟨kind, named, false, none, ⟨⟨0, start⟩, ⟨0, stop⟩⟩, start, stop, .plain number⟩ []
  ⟨0, .mk ⟨"array", true, false, none, ⟨⟨0, 0⟩, ⟨0, 3⟩⟩, 0, 3, .plain 0⟩
    [leaf "number" true 0 1 1, leaf "," false 1 2 2, leaf "number" true 2 3 3],
    [⟨1, .nextSibling, some 3⟩]⟩

/-- The list is an ancestor of a number, and its numbers are descendants of a list. But a number is
no ancestor of a number, although there is one beside it. -/
theorem passes_below_and_above_pairTree :
    TestKind.holds pairTree pairTree.walk (.ancestorOfType ["number"]) = true ∧
    passes ⟨.descendantOfType ["array"], true⟩ pairTree (.seek pairTree.root 1) = true ∧
    passes ⟨.ancestorOfType ["number"], false⟩ pairTree (.seek pairTree.root 1) = true := by
  have ht : pairTree.ParentsAgree := SyntaxTree.parentsAgree_of_detours (by decide)
  have hroot := passes_below_and_above pairTree ht pairTree.walk (Node.mem_cursors_iff.2 rfl)
  have hfirst := passes_below_and_above pairTree ht (.seek pairTree.root 1)
    (Node.mem_cursors_iff.2 rfl)
  have hparent : pairTree.walk ∈ (Cursor.seek pairTree.root 1).ancestors := List.mem_cons_self
  refine ⟨?_, ?_, ?_⟩
  · exact (hroot.1 ["number"]).2
      ⟨.seek pairTree.root 1, Node.mem_cursors_iff.2 rfl, hparent, List.mem_singleton.2 rfl⟩
  · exact (hfirst.2.2.1 pairTree.walk hparent ["array"]).2 (List.mem_singleton.2 rfl)
  · refine (hfirst.2.2.2 _).2 fun hpasses => ?_
    rw [passes_expected] at hpasses
    obtain ⟨d, -, hd, -⟩ := (hfirst.1 ["number"]).1 hpasses
    -- below the number there is no room for another node
    obtain ⟨hlt, hle⟩ := Cursor.index_of_mem_ancestors hd
    have hsize : (Cursor.seek pairTree.root 1).focus.size = 1 := rfl
    have hpos := d.focus.size_pos
    omega

end NodeTest

end SyntaxInspector
