import SyntaxInspector.Render.Reference

/-!
# Rows by visits

A visit is a node together with its proper ancestors. The visits of a tree come in document order,
parents first, and the rows of a tree are the rows of those visits that have one: the recursion
that hands a depth downwards counts the ancestors with a row.

* `Node.visits` — the visits of a tree;
* `Visit.row?` — the row of a visit;
* `Node.rows_eq_filterMap_visits` — the rows of a tree.
-/

namespace SyntaxInspector

/-- A node of a tree with its proper ancestors. -/
structure Visit where
  /-- The data of the proper ancestors, innermost first. -/
  ancestors : List NodeData
  /-- The node's own data. -/
  data : NodeData
  deriving DecidableEq

namespace Visit

/-- The number of proper ancestors that have a row. -/
def depth (showAnonymous : Bool) (v : Visit) : Nat :=
  v.ancestors.countP (·.qualifies showAnonymous)

/-- The row of a visited node, if it has one. -/
def row? (showAnonymous : Bool) (v : Visit) : Option Row :=
  (v.data.label? showAnonymous).map (.ofNode (v.depth showAnonymous) v.data)

variable {v : Visit} {showAnonymous : Bool} {row : Row}

@[simp] theorem isSome_row? (showAnonymous : Bool) (v : Visit) :
    (v.row? showAnonymous).isSome = v.data.qualifies showAnonymous := by
  rw [row?, Option.isSome_map, NodeData.isSome_label?]

/-- A row has the id and the range of the node it shows. -/
theorem id_range_of_row? (h : v.row? showAnonymous = some row) :
    row.id = v.data.id ∧ row.range = v.data.range := by
  obtain ⟨label, -, rfl⟩ := Option.map_eq_some_iff.1 h
  exact ⟨rfl, rfl⟩

/-- The depth of a row counts the ancestors of its node that have a row. -/
theorem depth_of_row? (h : v.row? showAnonymous = some row) :
    row.depth = v.depth showAnonymous := by
  obtain ⟨label, -, rfl⟩ := Option.map_eq_some_iff.1 h
  rfl

theorem label?_of_row? (h : v.row? showAnonymous = some row) :
    v.data.label? showAnonymous = some row.label := by
  obtain ⟨label, hlabel, rfl⟩ := Option.map_eq_some_iff.1 h
  exact hlabel

end Visit

namespace Node

mutual

/-- The visits of a tree below `ancestors`, each node before its children. -/
def visits (ancestors : List NodeData) : Node → List Visit
  | .mk d cs => ⟨ancestors, d⟩ :: visitsList (d :: ancestors) cs

/-- The visits of a list of trees below `ancestors`, tree by tree. -/
def visitsList (ancestors : List NodeData) : List Node → List Visit
  | [] => []
  | n :: ns => visits ancestors n ++ visitsList ancestors ns

end

mutual

/-- The visits of a tree are its nodes in pre-order. -/
theorem map_data_visits (ancestors : List NodeData) :
    (n : Node) → (n.visits ancestors).map Visit.data = n.preorder.map Node.data
  | .mk d cs => by
    rw [visits, preorder, List.map_cons, List.map_cons, map_data_visitsList (d :: ancestors) cs,
      data_mk]

theorem map_data_visitsList (ancestors : List NodeData) : (ns : List Node) →
    (visitsList ancestors ns).map Visit.data = (preorderList ns).map Node.data
  | [] => rfl
  | n :: ns => by
    rw [visitsList, preorderList, List.map_append, List.map_append, map_data_visits ancestors n,
      map_data_visitsList ancestors ns]

end

mutual

/-- The rows of a tree are the rows of its visits, at a depth that counts the ancestors with a
row. -/
theorem rows_eq_filterMap_visits (showAnonymous : Bool) (ancestors : List NodeData) :
    (n : Node) → n.rows showAnonymous (ancestors.countP (·.qualifies showAnonymous)) =
      (n.visits ancestors).filterMap (Visit.row? showAnonymous)
  | .mk d cs => by
    have hcs := rowsList_eq_filterMap_visitsList showAnonymous (d :: ancestors) cs
    rw [visits, rows]
    cases hl : d.label? showAnonymous with
    | none =>
      have hq : d.qualifies showAnonymous = false := by
        rw [← NodeData.isSome_label?, hl, Option.isSome_none]
      have hrow : Visit.row? showAnonymous ⟨ancestors, d⟩ = none := by simp [Visit.row?, hl]
      rw [List.countP_cons_of_neg (by simp [hq])] at hcs
      rw [List.filterMap_cons_none hrow, hcs]
    | some label =>
      have hq : d.qualifies showAnonymous = true := by
        rw [← NodeData.isSome_label?, hl, Option.isSome_some]
      have hrow : Visit.row? showAnonymous ⟨ancestors, d⟩ =
          some (.ofNode (ancestors.countP (·.qualifies showAnonymous)) d label) := by
        simp [Visit.row?, Visit.depth, hl]
      rw [List.countP_cons_of_pos (by simp [hq])] at hcs
      rw [List.filterMap_cons_some hrow, hcs]

theorem rowsList_eq_filterMap_visitsList (showAnonymous : Bool) (ancestors : List NodeData) :
    (ns : List Node) →
      rowsList showAnonymous (ancestors.countP (·.qualifies showAnonymous)) ns =
        (visitsList ancestors ns).filterMap (Visit.row? showAnonymous)
  | [] => rfl
  | n :: ns => by
    rw [rowsList, visitsList, List.filterMap_append,
      rows_eq_filterMap_visits showAnonymous ancestors n,
      rowsList_eq_filterMap_visitsList showAnonymous ancestors ns]

end

end Node

end SyntaxInspector
