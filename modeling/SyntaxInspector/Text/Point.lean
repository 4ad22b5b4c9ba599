/-!
# Points and ranges of a text

A point is a row and a byte column, both counted from zero; a range is half open.

* `Point.advance` — the point reached by writing a text;
* `Point.offsetColumn` — a move along the row that stops at both ends of a 64-bit word;
* `Range.clip` — the part of a range inside an extent.
-/

namespace SyntaxInspector

/-- The number of 64-bit words. -/
def wordCount : Nat := 18446744073709551616

/-- The largest column and the largest byte offset: those of an unsigned 64-bit word. -/
def maxWord : Nat := wordCount - 1

/-- The unsigned 64-bit word nearest to an integer. -/
def clampWord (i : Int) : Nat := min i.toNat maxWord

/-! ### Points -/

/-- A position in a text. -/
structure Point where
  /-- Line number, from zero. -/
  row : Nat
  /-- Byte offset within the line, from zero. -/
  column : Nat
  deriving DecidableEq, Inhabited

namespace Point

/-- The start of a text. -/
def zero : Point := ⟨0, 0⟩

/-- Points are ordered by row, then by column. -/
instance : LT Point := ⟨fun p q => p.row < q.row ∨ p.row = q.row ∧ p.column < q.column⟩

instance : LE Point := ⟨fun p q => p.row < q.row ∨ p.row = q.row ∧ p.column ≤ q.column⟩

theorem lt_def (p q : Point) :
    p < q ↔ p.row < q.row ∨ p.row = q.row ∧ p.column < q.column := Iff.rfl

theorem le_def (p q : Point) :
    p ≤ q ↔ p.row < q.row ∨ p.row = q.row ∧ p.column ≤ q.column := Iff.rfl

@[simp] theorem le_refl (p : Point) : p ≤ p := Or.inr ⟨rfl, Nat.le_refl _⟩

theorem le_trans {p q r : Point} (hpq : p ≤ q) (hqr : q ≤ r) : p ≤ r := by
  simp only [le_def] at *
  omega

theorem le_antisymm {p q : Point} (hpq : p ≤ q) (hqp : q ≤ p) : p = q := by
  obtain ⟨row, column⟩ := p
  obtain ⟨row', column'⟩ := q
  simp only [le_def, mk.injEq] at *
  omega

/-- The order of points is total. -/
theorem not_lt {p q : Point} : ¬ p < q ↔ q ≤ p := by
  simp only [lt_def, le_def]
  omega

instance (p q : Point) : Decidable (p < q) :=
  inferInstanceAs (Decidable (p.row < q.row ∨ p.row = q.row ∧ p.column < q.column))

instance (p q : Point) : Decidable (p ≤ q) :=
  inferInstanceAs (Decidable (p.row < q.row ∨ p.row = q.row ∧ p.column ≤ q.column))

instance : Ord Point := ⟨fun p q => (compare p.row q.row).then (compare p.column q.column)⟩

/-- The point after one character: a line feed starts the next row. -/
def step (p : Point) (c : Char) : Point :=
  if c = '\n' then ⟨p.row + 1, 0⟩ else ⟨p.row, p.column + c.utf8Size⟩

/-- The point after a list of characters. -/
def afterChars (p : Point) (cs : List Char) : Point := cs.foldl step p

@[simp] theorem afterChars_nil (p : Point) : p.afterChars [] = p := rfl

@[simp] theorem afterChars_cons (p : Point) (c : Char) (cs : List Char) :
    p.afterChars (c :: cs) = (p.step c).afterChars cs := rfl

theorem afterChars_append (p : Point) (cs ds : List Char) :
    p.afterChars (cs ++ ds) = (p.afterChars cs).afterChars ds := List.foldl_append

/-- The point reached by writing `text` at `p`. -/
def advance (p : Point) (text : String) : Point := p.afterChars text.toList

/-- Writing two texts is writing one after the other. -/
theorem advance_append (p : Point) (s t : String) :
    p.advance (s ++ t) = (p.advance s).advance t := by
  simp [advance, afterChars_append]

/-- Moves the column by `delta`, stopping at column 0 on the way back and at the largest column on
the way forth. -/
def offsetColumn (p : Point) (delta : Int) : Point :=
  { p with column :=
      if delta < 0 then p.column - delta.natAbs else min (p.column + delta.toNat) maxWord }

@[simp] theorem row_offsetColumn (p : Point) (delta : Int) : (p.offsetColumn delta).row = p.row :=
  rfl

/-- Either way a column that is a word becomes the nearest word. -/
theorem column_offsetColumn {p : Point} (h : p.column ≤ maxWord) (delta : Int) :
    (p.offsetColumn delta).column = clampWord (p.column + delta) := by
  by_cases hdelta : delta < 0
  · simp only [offsetColumn, clampWord, hdelta, if_true]
    omega
  · simp only [offsetColumn, clampWord, hdelta, if_false]
    omega

/-- The point written `(row, column)`. -/
def text (p : Point) : String := s!"({p.row}, {p.column})"

/-- The nearest point between `lo` and `hi`. -/
def clamp (p lo hi : Point) : Point := if p < lo then lo else if hi < p then hi else p

end Point

/-! ### Ranges -/

/-- A half-open span between two points. -/
structure Range where
  /-- First point inside. -/
  start : Point
  /-- First point past the end. -/
  stop : Point
  deriving DecidableEq, Inhabited

namespace Range

/-- The empty range at the start of a text. -/
def zero : Range := ⟨.zero, .zero⟩

/-- Whole rows, from column 0 of the first to column 0 of the row past the last. -/
def rows (first last : Nat) : Range := ⟨⟨first, 0⟩, ⟨last, 0⟩⟩

/-- The empty range at a point. -/
def point (p : Point) : Range := ⟨p, p⟩

/-- A range covers nothing when it ends where it starts, or before. -/
def isEmpty (r : Range) : Bool := decide (r.stop ≤ r.start)

/-- Whether a point lies inside. -/
def containsPoint (r : Range) (p : Point) : Bool := decide (r.start ≤ p) && decide (p < r.stop)

/-- Whether `other` lies between the two ends. -/
def contains (r other : Range) : Bool :=
  decide (r.start ≤ other.start) && decide (other.stop ≤ r.stop)

/-- The part of a range inside `extent`; the new start also bounds the new end. -/
def clip (r extent : Range) : Range :=
  let start := r.start.clamp extent.start extent.stop
  ⟨start, r.stop.clamp start extent.stop⟩

/-- The two ends, `(row, column) - (row, column)`. -/
def ends (r : Range) : String := s!"{r.start.text} - {r.stop.text}"

/-- The range written in brackets. -/
def text (r : Range) : String := s!"[{r.ends}]"

end Range

end SyntaxInspector
