import Mathlib.Algebra.Order.Ring.Int
import SyntaxInspector.Scope.Span

/-!
# Shifts at the limits of words

A shift moves a column by a saturating operation on unsigned words. It then finds out how far the
column went from a difference of signed words, and moves the byte offset as far. Columns in the
upper half of the words are negative as signed words, and their differences may wrap; but the column
goes no farther than it was told to, so the wraps cancel.

* `bmod_signedWord_sub` — what the difference of signed words tells;
* `Anchor.column_shift`, `Anchor.byte_shift` — where a shift leads;
* `Anchor.shift_is_exact` — shifts of all anchors by all distances.
-/

namespace SyntaxInspector

/-- The nearest word, between the smallest one and the largest one. -/
theorem natCast_clampWord (i : Int) : (clampWord i : Int) = max 0 (min i (2 ^ 64 - 1)) := by
  simp only [clampWord, maxWord, wordCount]
  omega

/-- The words wrap, and so does their difference, but the distance between two words is recovered if
it is a signed word itself. -/
theorem bmod_signedWord_sub {m n : Nat} (hle : -2 ^ 63 ≤ (m : Int) - n)
    (hlt : (m : Int) - n < 2 ^ 63) :
    Int.bmod (signedWord m - signedWord n) wordCount = m - n := by
  have hcount : wordCount = 2 ^ 64 := rfl
  rw [signedWord, signedWord, Int.sub_bmod_bmod, Int.bmod_sub_bmod]
  exact Int.bmod_eq_of_le_mul_two (by omega) (by omega)

namespace Anchor

/-- Row, column and byte offset are unsigned 64-bit words. -/
structure FitsWords (a : Anchor) : Prop where
  row : a.point.row < 2 ^ 64
  column : a.point.column < 2 ^ 64
  byte : a.byte < 2 ^ 64

variable {a : Anchor} {delta : Int}

@[simp] theorem row_shift (a : Anchor) (delta : Int) : (a.shift delta).point.row = a.point.row :=
  Point.row_offsetColumn a.point delta

theorem column_shift (h : a.point.column < 2 ^ 64) (delta : Int) :
    ((a.shift delta).point.column : Int) = max 0 (min (a.point.column + delta) (2 ^ 64 - 1)) := by
  have hle : a.point.column ≤ maxWord := by
    simp only [maxWord, wordCount]
    omega
  show ((a.point.offsetColumn delta).column : Int) = _
  rw [Point.column_offsetColumn hle, natCast_clampWord]

/-- A column does not move farther than it was told to. -/
theorem column_shift_sub (h : a.point.column < 2 ^ 64) (hle : -2 ^ 63 ≤ delta)
    (hlt : delta < 2 ^ 63) :
    -2 ^ 63 ≤ ((a.shift delta).point.column : Int) - a.point.column ∧
      ((a.shift delta).point.column : Int) - a.point.column < 2 ^ 63 := by
  rw [column_shift h]
  omega

theorem byte_shift (h : a.point.column < 2 ^ 64) (hle : -2 ^ 63 ≤ delta) (hlt : delta < 2 ^ 63) :
    let moved : Int := (a.shift delta).point.column - a.point.column
    ((a.shift delta).byte : Int) = max 0 (min (a.byte + moved) (2 ^ 64 - 1)) := by
  intro moved
  obtain ⟨hle, hlt⟩ := column_shift_sub h hle hlt
  have hmoved : Int.bmod (signedWord (a.shift delta).point.column - signedWord a.point.column)
      wordCount = moved := bmod_signedWord_sub hle hlt
  rw [← hmoved]
  exact natCast_clampWord _

/-- **Shifts are exact at the limits of words.** Let row, column and byte offset of an anchor be any
unsigned 64-bit words, and let the distance be any signed one.

* The row stays, and the new anchor consists of words again.
* The column moves by the distance, as far as there are words.
* The difference of the two columns as signed words, which may wrap, is how far the column moved.
* The byte offset moves as far as the column did, as far as there are words.
* If the column is not beyond the byte offset and neither of them meets the largest word, the
  start of the row stays where it is, even if the column meets 0. -/
theorem shift_is_exact (a : Anchor) (delta : Int) (ha : a.FitsWords) (hle : -2 ^ 63 ≤ delta)
    (hlt : delta < 2 ^ 63) :
    let b := a.shift delta
    let moved : Int := b.point.column - a.point.column
    (b.point.row = a.point.row ∧ b.FitsWords) ∧
    (b.point.column : Int) = max 0 (min (a.point.column + delta) (2 ^ 64 - 1)) ∧
    Int.bmod (signedWord b.point.column - signedWord a.point.column) wordCount = moved ∧
    (b.byte : Int) = max 0 (min (a.byte + moved) (2 ^ 64 - 1)) ∧
    (a.point.column ≤ a.byte → a.point.column + delta ≤ 2 ^ 64 - 1 → a.byte + moved ≤ 2 ^ 64 - 1 →
      (b.byte : Int) - b.point.column = a.byte - a.point.column) := by
  intro b moved
  have hcolumn : (b.point.column : Int) = max 0 (min (a.point.column + delta) (2 ^ 64 - 1)) :=
    column_shift ha.column delta
  have hbyte : (b.byte : Int) = max 0 (min (a.byte + moved) (2 ^ 64 - 1)) :=
    byte_shift ha.column hle hlt
  have hfits : b.FitsWords := ⟨ha.row, by omega, by omega⟩
  obtain ⟨hmoved, hmoved'⟩ := column_shift_sub ha.column hle hlt
  refine ⟨⟨row_shift a delta, hfits⟩, hcolumn, bmod_signedWord_sub hmoved hmoved', hbyte, ?_⟩
  intro hinside hcolumn' hbyte'
  -- the column is not beyond the byte offset, so the byte offset does not meet 0 before the column
  have hpositive : 0 ≤ (a.byte : Int) + moved := by omega
  omega

/-- The longest way back from the largest column: as signed words the old column is -1 and the new
one the largest of all, so their difference wraps, and the byte offset is too small to follow. From
column 4 the same way ends at column 0, and the start of the row stays where it is. -/
theorem shift_is_exact_largest :
    (let a : Anchor := ⟨⟨3, 2 ^ 64 - 1⟩, 5⟩
     let b := a.shift (-2 ^ 63)
     (b.point.column : Int) = 2 ^ 63 - 1 ∧
      Int.bmod (signedWord b.point.column - signedWord a.point.column) wordCount = -2 ^ 63 ∧
      (b.byte : Int) = 0) ∧
    (let b := (⟨⟨3, 4⟩, 50⟩ : Anchor).shift (-2 ^ 63)
     (b.byte : Int) - b.point.column = 46) := by
  constructor
  · intro a b
    obtain ⟨-, hcolumn, hmoved, hbyte, -⟩ :=
      shift_is_exact a (-2 ^ 63) ⟨by decide, by decide, by decide⟩ (by decide) (by decide)
    have hcolumn : (b.point.column : Int) = 2 ^ 63 - 1 := hcolumn.trans (by decide)
    have hdistance : (b.point.column : Int) - a.point.column = -2 ^ 63 := by
      rw [hcolumn]
      decide
    exact ⟨hcolumn, hmoved.trans hdistance, hbyte.trans (by rw [hdistance]; decide)⟩
  · obtain ⟨-, -, -, -, hstart⟩ := shift_is_exact ⟨⟨3, 4⟩, 50⟩ (-2 ^ 63)
      ⟨by decide, by decide, by decide⟩ (by decide) (by decide)
    exact hstart (by decide) (by decide) (by decide)

end Anchor

end SyntaxInspector
