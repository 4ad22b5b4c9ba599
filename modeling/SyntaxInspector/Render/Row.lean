import SyntaxInspector.Render.Palette
import SyntaxInspector.Text.Quoted
import SyntaxInspector.Tree.Node

/-!
# Display rows

One row shows one node. Named and missing nodes always have a row, anonymous ones on request.

* `NodeData.label?` — the label of a node that has a row;
* `Row.line` — a row as a line of text;
* `RowSequence` — the output of one render pass.
-/

namespace SyntaxInspector

/-- What a row says a node is. -/
inductive Label where
  /-- A node the grammar names. -/
  | named (kind : String)
  /-- A literal of the grammar. -/
  | anonymous (kind : String)
  /-- A node put in to recover from an error. -/
  | missing (kind : String)
  deriving DecidableEq, Inhabited

namespace Label

/-- The kind of the labelled node. -/
def kind : Label → String
  | .named k => k
  | .anonymous k => k
  | .missing k => k

/-- The label as text; literals are quoted. -/
def text : Label → String
  | .named k => k
  | .anonymous k => jsonQuoted k
  | .missing k => "MISSING " ++ k

/-- The colour of the label. -/
def color (p : Palette) : Label → String
  | .named _ => p.blue
  | .anonymous _ => p.green
  | .missing _ => p.red

end Label

namespace NodeData

/-- Whether a node has a row. -/
def qualifies (showAnonymous : Bool) (d : NodeData) : Bool :=
  d.missing || d.named || showAnonymous

/-- The label of a node that has a row. Being missing comes before being named. -/
def label? (showAnonymous : Bool) (d : NodeData) : Option Label :=
  if d.missing then some (.missing d.kind)
  else if d.named then some (.named d.kind)
  else if showAnonymous then some (.anonymous d.kind)
  else none

@[simp] theorem isSome_label? (showAnonymous : Bool) (d : NodeData) :
    (d.label? showAnonymous).isSome = d.qualifies showAnonymous := by
  unfold label? qualifies
  cases d.missing <;> cases d.named <;> cases showAnonymous <;> rfl

end NodeData

/-- One rendered node. -/
structure Row where
  /-- Number of ancestors that have a row. -/
  depth : Nat
  /-- The node's field in its parent. -/
  field : Option String
  /-- What the node is. -/
  label : Label
  /-- What the node spans. -/
  range : Range
  /-- The node's identity. -/
  id : NodeId
  deriving DecidableEq, Inhabited

namespace Row

/-- The row of a node with a label. -/
def ofNode (depth : Nat) (d : NodeData) (label : Label) : Row :=
  ⟨depth, d.field, label, d.range, d.id⟩

/-- The row as a line of a terminal, without a line feed: two blanks per level, the field, the
label and the two ends of the range. -/
def line (p : Palette) (r : Row) : String :=
  let indent := String.ofList (List.replicate (2 * r.depth) ' ')
  let field := match r.field with
    | some name => p.dim ++ name ++ ":" ++ p.reset ++ " "
    | none => ""
  indent ++ field ++ r.label.color p ++ r.label.text ++ p.reset ++ " " ++
    p.dim ++ r.range.ends ++ p.reset

/-- The row as plain text. -/
def text (r : Row) : String := r.line .plain

end Row

/-- The output of one render pass. -/
structure RowSequence where
  /-- The rows, in document order. -/
  rows : List Row := []
  /-- The pass that made them. -/
  generation : Nat := 0
  deriving DecidableEq, Inhabited

namespace RowSequence

/-- The number of rows. -/
def size (s : RowSequence) : Nat := s.rows.length

/-- The row at an index. -/
def get? (s : RowSequence) (i : Nat) : Option Row := s.rows[i]?

/-- Adds a row to an index of rows by node, unless its node has a row there. -/
def orInsert (index : List (NodeId × Nat)) (row : Row × Nat) : List (NodeId × Nat) :=
  if (index.lookup row.1.id).isSome then index else (row.1.id, row.2) :: index

/-- The index of the rows by their nodes. -/
def byNode (s : RowSequence) : List (NodeId × Nat) := s.rows.zipIdx.foldl orInsert []

/-- The row that the index has for the node with a given id. -/
def rowOf? (s : RowSequence) (id : NodeId) : Option Nat := s.byNode.lookup id

theorem lookup_orInsert (index : List (NodeId × Nat)) (row : Row) (i : Nat) (id : NodeId) :
    (orInsert index (row, i)).lookup id =
      (index.lookup id).or (if row.id == id then some i else none) := by
  by_cases hid : row.id = id
  · subst hid
    cases hindex : index.lookup row.id <;> simp [orInsert, hindex]
  · have hrow : (row.id == id) = false := by simpa using hid
    have hne : (id == row.id) = false := by simpa using Ne.symm hid
    rw [hrow, if_neg Bool.false_ne_true, Option.or_none, orInsert]
    split
    · rfl
    · rw [List.lookup_cons, hne]

/-- The index keeps what it has, and else has the first of the rows added. -/
theorem lookup_foldl_orInsert (rows : List Row) (index : List (NodeId × Nat)) (k : Nat)
    (id : NodeId) :
    ((rows.zipIdx k).foldl orInsert index).lookup id =
      (index.lookup id).or ((rows.findIdx? (·.id == id)).map (· + k)) := by
  induction rows generalizing index k with
  | nil => simp
  | cons row rows ih =>
    rw [List.zipIdx_cons, List.foldl_cons, ih, lookup_orInsert, Option.or_assoc,
      List.findIdx?_cons]
    split
    · simp
    · simp [Function.comp_def, Nat.add_assoc, Nat.add_comm 1]

/-- The index has the first row of each node. -/
theorem rowOf?_eq_findIdx? (s : RowSequence) (id : NodeId) :
    s.rowOf? id = s.rows.findIdx? (·.id == id) := by
  rw [rowOf?, byNode, lookup_foldl_orInsert]
  simp

/-- The row found for an id is the first that has it. -/
theorem rowOf?_eq_some_iff {s : RowSequence} {id : NodeId} {i : Nat} :
    s.rowOf? id = some i ↔ (∃ row, s.get? i = some row ∧ row.id = id) ∧
      ∀ j < i, ∀ row, s.get? j = some row → row.id ≠ id := by
  rw [rowOf?_eq_findIdx?, List.findIdx?_eq_some_iff_getElem]
  unfold get?
  constructor
  · rintro ⟨hlt, hid, hfirst⟩
    refine ⟨⟨s.rows[i], List.getElem?_eq_getElem hlt, eq_of_beq hid⟩, fun j hj row hrow heq => ?_⟩
    obtain ⟨_, rfl⟩ := List.getElem?_eq_some_iff.1 hrow
    exact hfirst j hj (beq_iff_eq.2 heq)
  · rintro ⟨⟨row, hrow, hid⟩, hfirst⟩
    obtain ⟨hlt, rfl⟩ := List.getElem?_eq_some_iff.1 hrow
    refine ⟨hlt, beq_iff_eq.2 hid, fun j hj heq => ?_⟩
    exact hfirst j hj _ (List.getElem?_eq_getElem (Nat.lt_trans hj hlt)) (eq_of_beq heq)

theorem rowOf?_eq_none_iff {s : RowSequence} {id : NodeId} :
    s.rowOf? id = none ↔ ∀ row ∈ s.rows, row.id ≠ id := by
  simp only [rowOf?_eq_findIdx?, List.findIdx?_eq_none_iff, beq_eq_false_iff_ne]

/-- The rows as lines of text. -/
def lines (p : Palette) (s : RowSequence) : String :=
  String.join (s.rows.map fun r => r.line p ++ "\n")

/-- The rows as plain text. -/
def text (s : RowSequence) : String := s.lines .plain

/-- Whether two passes gave the same rows, whatever their generations. -/
def sameRows (s t : RowSequence) : Bool := s.rows == t.rows

end RowSequence

end SyntaxInspector
