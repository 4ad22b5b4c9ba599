import Mathlib.Data.List.SplitBy
import SyntaxInspector.Proofs.Text.Boundaries

/-!
# Offsets and points correspond

Writing a text moves a point line by line as it does character by character. The point of an offset
is where the longest leading part of the text leads that has no more bytes, so offsets inside a
character have the point of its start and offsets behind the end that of the end. Between two
boundaries there is a character, and each character leads forward: boundaries are in the order of
their points.

* `Point.afterChars_eq_foldl_afterLine` — points move line by line;
* `isLongestFront_takeBytes` — the longest leading part that has no more bytes;
* `IsBoundary.pointAt_lt_iff` — the order of boundaries;
* `offsets_and_points_correspond` — offsets and points.
-/

namespace SyntaxInspector

/-! ### Line by line -/

/-- The lines of a text, each with the line feed that ends it. What follows the last line feed is a
line as well, unless nothing does. -/
def endedLines (text : String) : List (List Char) :=
  text.toList.splitBy fun c _ => decide (c ≠ '\n')

namespace Point

/-- The point after a line: a new row, if the line has ended. -/
def afterLine (p : Point) (line : List Char) : Point :=
  if line.getLast? = some '\n' then ⟨p.row + 1, 0⟩ else ⟨p.row, p.column + byteLength line⟩

theorem afterLine_singleton (p : Point) (c : Char) : p.afterLine [c] = p.step c := by
  simp [afterLine, step]

theorem afterLine_cons_cons (p : Point) {c : Char} (hc : c ≠ '\n') (d : Char) (line : List Char) :
    p.afterLine (c :: d :: line) = (p.step c).afterLine (d :: line) := by
  rw [step, if_neg hc, afterLine, afterLine, List.getLast?_cons_cons]
  simp only [byteLength_cons, Nat.add_assoc]

/-- Only the last character of a line may be a line feed. -/
theorem afterChars_eq_afterLine (p : Point) {line : List Char} (hne : line ≠ [])
    (hline : line.IsChain fun c _ => decide (c ≠ '\n') = true) :
    p.afterChars line = p.afterLine line := by
  induction line generalizing p with
  | nil => exact absurd rfl hne
  | cons c line ih =>
    cases line with
    | nil => exact (afterLine_singleton p c).symm
    | cons d line =>
      obtain ⟨hc, hline⟩ := List.isChain_cons_cons.1 hline
      rw [afterChars_cons, ih _ (List.cons_ne_nil _ _) hline,
        afterLine_cons_cons p (of_decide_eq_true hc)]

/-- A text leads where its lines lead one after the other. -/
theorem afterChars_eq_foldl_afterLine (p : Point) (text : String) :
    p.afterChars text.toList = (endedLines text).foldl afterLine p := by
  have htext : text.toList = (endedLines text).flatten := (List.flatten_splitBy _ _).symm
  rw [afterChars, htext, List.foldl_flatten]
  exact List.foldl_ext _ _ _ fun q line hline =>
    afterChars_eq_afterLine q (List.ne_nil_of_mem_splitBy hline) (List.isChain_of_mem_splitBy hline)

end Point

/-! ### The longest part that fits -/

/-- A leading part of a text has at most `n` bytes, and no longer one has. -/
structure IsLongestFront (text front : String) (n : Nat) : Prop where
  leads : ∃ back, front ++ back = text
  fits : front.utf8ByteSize ≤ n
  longest : ∀ other back, other ++ back = text → other.utf8ByteSize ≤ n →
    other.utf8ByteSize ≤ front.utf8ByteSize

theorem isLongestFront_takeBytes (text : String) (n : Nat) :
    IsLongestFront text (String.ofList (takeBytes text.toList n)) n := by
  obtain ⟨back, hback⟩ := takeBytes_append text.toList n
  refine ⟨⟨String.ofList back, ?_⟩, ?_, fun other back hother hfits => ?_⟩
  · rw [← String.ofList_append, hback, String.ofList_toList]
  · rw [← byteLength_eq_utf8ByteSize]
    exact byteLength_takeBytes_le _ _
  · have hleads : other.toList <+: text.toList :=
      ⟨back.toList, by rw [← hother, String.toList_append]⟩
    obtain ⟨more, hmore⟩ :=
      isPrefix_takeBytes_iff.2 ⟨hleads, (byteLength_toList other).trans_le hfits⟩
    rw [← byteLength_eq_utf8ByteSize, ← hmore, byteLength_append, byteLength_toList]
    exact Nat.le_add_right _ _

/-! ### The order of boundaries -/

section Order

variable {text : String} {m n : Nat} (base : Point)

theorem pointAt_of_size_le (h : text.utf8ByteSize ≤ n) :
    pointAt text base n = base.advance text := by
  rw [pointAt_eq, takeBytes_of_byteLength_le ((byteLength_toList text).trans_le h), Point.advance]

/-- An offset before the end of a text has a point before its end. -/
theorem pointAt_lt_advance (h : n < text.utf8ByteSize) :
    pointAt text base n < base.advance text := by
  obtain ⟨back, hback⟩ := takeBytes_append text.toList n
  have hne : back ≠ [] := by
    rintro rfl
    have hlength := byteLength_takeBytes_le text.toList n
    rw [List.append_nil] at hback
    rw [hback, byteLength_toList] at hlength
    omega
  rw [Point.advance, ← hback, Point.afterChars_append, pointAt_eq]
  exact Point.lt_afterChars _ hne

theorem IsBoundary.pointAt_lt (hm : IsBoundary text.toList m) (hn : IsBoundary text.toList n)
    (h : m < n) : pointAt text base m < pointAt text base n := by
  obtain ⟨front, middle, back, htext, rfl, rfl⟩ := hm.isWithin_of_le hn (Nat.le_of_lt h)
  have hne : middle ≠ [] := by
    rintro rfl
    rw [List.append_nil] at h
    exact Nat.lt_irrefl _ h
  rw [pointAt_append htext]
  exact Point.lt_afterChars _ hne

/-- Boundaries are in the order of their points. -/
theorem IsBoundary.pointAt_lt_iff (hm : IsBoundary text.toList m) (hn : IsBoundary text.toList n) :
    pointAt text base m < pointAt text base n ↔ m < n := by
  refine ⟨fun h => ?_, hm.pointAt_lt base hn⟩
  by_contra hle
  exact Point.not_lt.2 (pointAt_mono text base (Nat.le_of_not_lt hle)) h

theorem IsBoundary.pointAt_le_iff (hm : IsBoundary text.toList m) (hn : IsBoundary text.toList n) :
    pointAt text base m ≤ pointAt text base n ↔ m ≤ n := by
  rw [← Point.not_lt, hn.pointAt_lt_iff base hm, Nat.not_lt]

theorem IsBoundary.pointAt_inj (hm : IsBoundary text.toList m) (hn : IsBoundary text.toList n) :
    pointAt text base m = pointAt text base n ↔ m = n := by
  refine ⟨fun h => ?_, fun h => h ▸ rfl⟩
  have hmn := (hm.pointAt_le_iff base hn).1 (h ▸ Point.le_refl _)
  have hnm := (hn.pointAt_le_iff base hm).1 (h ▸ Point.le_refl _)
  exact Nat.le_antisymm hmn hnm

end Order

/-- **Offsets and points correspond.** For every text and every point that it starts at:

* writing nothing leads nowhere, writing two texts is writing one after the other, and a text is
  written line by line, where a line that has ended leads to the start of the next row and any other
  moves the column by its bytes;
* the point of an offset is where the longest leading part of the text leads that has no more bytes;
* a later offset never has an earlier point, and from the end of the text on all have its end;
* boundaries are in the order of their points, so different boundaries have different points, and
  the range between two of them is empty just if there is no byte between them. -/
theorem offsets_and_points_correspond (text : String) (base : Point) :
    (base.advance "" = base ∧ (∀ s t, base.advance (s ++ t) = (base.advance s).advance t) ∧
      base.advance text = (endedLines text).foldl Point.afterLine base) ∧
    (∀ n, ∃ front, IsLongestFront text front n ∧ pointAt text base n = base.advance front) ∧
    (∀ m n, m ≤ n → pointAt text base m ≤ pointAt text base n) ∧
    (∀ n, text.utf8ByteSize ≤ n → pointAt text base n = base.advance text) ∧
    ∀ m n, IsBoundary text.toList m → IsBoundary text.toList n →
      (pointAt text base m < pointAt text base n ↔ m < n) ∧
      (pointAt text base m = pointAt text base n ↔ m = n) ∧
      ((⟨pointAt text base m, pointAt text base n⟩ : Range).isEmpty = true ↔ n ≤ m) := by
  refine ⟨⟨rfl, Point.advance_append base, base.afterChars_eq_foldl_afterLine text⟩, fun n => ?_,
    fun m n h => pointAt_mono text base h, fun n h => pointAt_of_size_le base h,
    fun m n hm hn => ⟨hm.pointAt_lt_iff base hn, hm.pointAt_inj base hn, ?_⟩⟩
  · refine ⟨_, isLongestFront_takeBytes text n, ?_⟩
    rw [Point.advance, String.toList_ofList, pointAt_eq]
  · rw [Range.isEmpty, decide_eq_true_iff, hn.pointAt_le_iff base hm]

/-- A text in which an offset lies inside a character, started in the middle of a row. -/
theorem offsets_and_points_correspond_accent :
    pointAt "é\nb" ⟨3, 4⟩ 1 = ⟨3, 4⟩ ∧ pointAt "é\nb" ⟨3, 4⟩ 2 = ⟨3, 6⟩ ∧
    pointAt "é\nb" ⟨3, 4⟩ 1 ≤ pointAt "é\nb" ⟨3, 4⟩ 2 ∧
    pointAt "é\nb" ⟨3, 4⟩ 2 < pointAt "é\nb" ⟨3, 4⟩ 3 ∧
    pointAt "é\nb" ⟨3, 4⟩ 9 = Point.advance ⟨3, 4⟩ "é\nb" := by
  obtain ⟨-, -, hmono, hend, horder⟩ := offsets_and_points_correspond "é\nb" ⟨3, 4⟩
  have hboundary : IsBoundary "é\nb".toList 2 ∧ IsBoundary "é\nb".toList 3 := by decide
  exact ⟨by decide, by decide, hmono 1 2 (by decide),
    (horder 2 3 hboundary.1 hboundary.2).1.2 (by decide), hend 9 (by decide)⟩

end SyntaxInspector
