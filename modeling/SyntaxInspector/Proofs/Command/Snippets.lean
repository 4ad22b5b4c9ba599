import SyntaxInspector.Command.Report
import SyntaxInspector.Proofs.Text.Lines

/-!
# Snippets show the text of ranges

A snippet goes back from the points of a range to the text: its row picks a line and its columns a
piece of that line. For a range between two boundaries of the text this is the piece of text between
them, up to its first line feed. For other ranges it is a piece of the line between two boundaries
of the line, or nothing where there is no such piece.

* `excerpt` — what is shown of a piece of text;
* `snippetEnd`, `snippetStart` — the columns that a snippet is taken between;
* `snippet_eq_excerpt` — ranges between boundaries;
* `snippet_shows_range` — all ranges.
-/

namespace SyntaxInspector

/-- What is shown of a piece of text: the whole of it, if it is on one line and has at most forty
characters; otherwise at most forty characters of its first line, with an ellipsis. -/
def excerpt (piece : String) : String :=
  if '\n' ∉ piece.toList ∧ piece.length ≤ 40 then String.ofList (firstLine piece.toList)
  else String.ofList ((firstLine piece.toList).take 40) ++ "…"

/-! ### Pieces of a line -/

/-- The column of a line up to which a snippet is taken: that of the range's end, if this is on the
line. -/
def snippetEnd (line : String) (r : Range) : Nat :=
  if r.stop.row = r.start.row then min r.stop.column line.utf8ByteSize else line.utf8ByteSize

/-- The column of a line from which a snippet is taken. -/
def snippetStart (line : String) (r : Range) : Nat := min r.start.column (snippetEnd line r)

/-- A piece of a line as it is shown, when the range may go on behind the line. -/
def shortened (piece : String) (goesOn : Bool) : String :=
  if 40 < piece.length || goesOn then String.ofList (piece.toList.take 40) ++ "…" else piece

variable {text line piece : String} {r : Range}

theorem snippet_of_slice (hline : (lines text)[r.start.row]? = some line)
    (hpiece : slice? line (snippetStart line r) (snippetEnd line r) = some piece) :
    snippet text r = shortened piece (decide (r.start.row < r.stop.row)) := by
  obtain ⟨cs, hcs, rfl⟩ := Option.map_eq_some_iff.1 hpiece
  rw [snippetStart, snippetEnd, ← byteLength_toList] at hcs
  simp only [snippet, hline, hcs, shortened, snippetLength, String.length_ofList,
    String.toList_ofList]
  rfl

theorem snippet_of_no_slice (hline : (lines text)[r.start.row]? = some line)
    (hpiece : slice? line (snippetStart line r) (snippetEnd line r) = none) :
    snippet text r = "" := by
  have hcs := Option.map_eq_none_iff.1 hpiece
  rw [snippetStart, snippetEnd, ← byteLength_toList] at hcs
  simp only [snippet, hline, hcs]

theorem snippet_of_no_line (hline : (lines text)[r.start.row]? = none) : snippet text r = "" := by
  simp only [snippet, hline]

/-- A snippet shows the part of a line from the start of its range on. -/
theorem snippet_of_split (hline : (lines text)[r.start.row]? = some line) {front back : List Char}
    (hsplit : line.toList = front ++ piece.toList ++ back)
    (hstart : r.start.column = byteLength front)
    (hend : snippetEnd line r = byteLength (front ++ piece.toList)) :
    snippet text r = shortened piece (decide (r.start.row < r.stop.row)) := by
  refine snippet_of_slice hline (slice?_eq_some_iff.2 ⟨front, back, hsplit, ?_, hend.symm⟩)
  rw [snippetStart, hstart, hend, byteLength_append, Nat.min_eq_left (Nat.le_add_right _ _)]

/-! ### Ranges between boundaries -/

section

variable {front back : List Char}

/-- A piece on one line ends where its own characters do. -/
theorem snippet_of_newline_notMem (h : text.toList = front ++ piece.toList ++ back)
    (hpiece : '\n' ∉ piece.toList) :
    snippet text ⟨Point.zero.afterChars front, Point.zero.afterChars (front ++ piece.toList)⟩ =
      shortened piece false := by
  have hline := getElem?_lines (h.trans (List.append_assoc _ _ _))
  rw [firstLine_append_of_notMem hpiece, ← List.append_assoc] at hline
  have hrow : (Point.zero.afterChars (front ++ piece.toList)).row =
      (Point.zero.afterChars front).row := by
    rw [Point.row_afterChars_zero, Point.row_afterChars_zero, List.count_append,
      List.count_eq_zero.2 hpiece, Nat.add_zero]
  have hcolumn : (Point.zero.afterChars (front ++ piece.toList)).column =
      byteLength (lastLine front ++ piece.toList) := by
    rw [Point.column_afterChars_zero, lastLine_append_of_notMem hpiece]
  have hsnippet := snippet_of_split (r := ⟨Point.zero.afterChars front,
    Point.zero.afterChars (front ++ piece.toList)⟩) hline String.toList_ofList ?_ ?_
  · rwa [hrow, decide_eq_false (Nat.lt_irrefl _)] at hsnippet
  · exact Point.column_afterChars_zero front
  · rw [snippetEnd, if_pos hrow, hcolumn, ← byteLength_eq_utf8ByteSize,
      byteLength_append _ (firstLine back)]
    exact Nat.min_eq_left (Nat.le_add_right _ _)

/-- A piece with a line feed is shown as far as its first line goes, which is as far as the line
does. -/
theorem snippet_of_newline {first more : List Char}
    (h : text.toList = front ++ (first ++ '\n' :: more) ++ back) (hfirst : '\n' ∉ first) :
    snippet text ⟨Point.zero.afterChars front,
        Point.zero.afterChars (front ++ (first ++ '\n' :: more))⟩ =
      shortened (String.ofList first) true := by
  have hline := getElem?_lines (h.trans (List.append_assoc _ _ _))
  rw [List.append_assoc, List.cons_append, firstLine_append_newline hfirst] at hline
  have hrow : (Point.zero.afterChars front).row <
      (Point.zero.afterChars (front ++ (first ++ '\n' :: more))).row := by
    rw [Point.row_afterChars_zero, Point.row_afterChars_zero, List.count_append,
      List.count_append, List.count_cons_self]
    omega
  have hsplit : (String.ofList (lastLine front ++ first)).toList =
      lastLine front ++ (String.ofList first).toList ++ [] := by
    rw [String.toList_ofList, String.toList_ofList, List.append_nil]
  have hsnippet := snippet_of_split (r := ⟨Point.zero.afterChars front,
    Point.zero.afterChars (front ++ (first ++ '\n' :: more))⟩) hline hsplit ?_ ?_
  · rwa [decide_eq_true hrow] at hsnippet
  · exact Point.column_afterChars_zero front
  · rw [snippetEnd, if_neg (Nat.ne_of_gt hrow), ← byteLength_eq_utf8ByteSize, String.toList_ofList]

theorem snippet_eq_excerpt (h : text.toList = front ++ piece.toList ++ back) :
    snippet text ⟨Point.zero.afterChars front, Point.zero.afterChars (front ++ piece.toList)⟩ =
      excerpt piece := by
  by_cases hpiece : '\n' ∈ piece.toList
  · obtain ⟨first, more, hsplit, hfirst⟩ := List.eq_append_cons_of_mem hpiece
    rw [hsplit] at h ⊢
    rw [snippet_of_newline h hfirst, excerpt, if_neg (fun hshort => hshort.1 hpiece), hsplit,
      firstLine_append_newline hfirst, shortened, Bool.or_true, if_pos rfl, String.toList_ofList]
  · rw [snippet_of_newline_notMem h hpiece, excerpt, firstLine_of_notMem hpiece, shortened,
      Bool.or_false, String.ofList_toList]
    by_cases hlong : 40 < piece.length
    · rw [if_pos (decide_eq_true hlong), if_neg (fun hshort => Nat.not_le.2 hlong hshort.2)]
    · rw [if_neg (by simpa using hlong), if_pos ⟨hpiece, Nat.not_lt.1 hlong⟩]

end

/-! ### All ranges -/

/-- What is shown of a piece without line feeds has none, and at most one character more than the
piece may have. -/
theorem shortened_on_one_line (goesOn : Bool) (hpiece : '\n' ∉ piece.toList) :
    '\n' ∉ (shortened piece goesOn).toList ∧ (shortened piece goesOn).length ≤ 41 := by
  rw [shortened]
  split
  · rw [String.toList_append, String.toList_ofList, List.mem_append, not_or, String.length_append,
      String.length_ofList, List.length_take]
    refine ⟨⟨fun h => hpiece (List.mem_of_mem_take h), by decide⟩, ?_⟩
    exact Nat.add_le_add (Nat.min_le_left 40 _) (Nat.le_refl 1)
  · rename_i hshort
    rw [Bool.or_eq_true, not_or, decide_eq_true_iff] at hshort
    exact ⟨hpiece, by omega⟩

theorem newline_notMem_of_slice? {m n : Nat} (hline : '\n' ∉ line.toList)
    (hpiece : slice? line m n = some piece) : '\n' ∉ piece.toList := by
  obtain ⟨front, back, hsplit, -⟩ := slice?_eq_some_iff.1 hpiece
  rw [hsplit, List.mem_append, List.mem_append, not_or, not_or] at hline
  exact hline.1.2

/-- A snippet is a piece of the line that the range starts on, or nothing. -/
theorem snippet_cases (text : String) (r : Range) :
    (∃ line piece, (lines text)[r.start.row]? = some line ∧
      slice? line (snippetStart line r) (snippetEnd line r) = some piece ∧
      snippet text r = shortened piece (decide (r.start.row < r.stop.row))) ∨
    (∀ line, (lines text)[r.start.row]? = some line →
      slice? line (snippetStart line r) (snippetEnd line r) = none) ∧ snippet text r = "" := by
  cases hline : (lines text)[r.start.row]? with
  | none =>
    exact .inr ⟨fun line h => (Option.some_ne_none line h.symm).elim, snippet_of_no_line hline⟩
  | some line =>
    cases hpiece : slice? line (snippetStart line r) (snippetEnd line r) with
    | none =>
      refine .inr ⟨fun line' h => ?_, snippet_of_no_slice hline hpiece⟩
      rwa [← Option.some.inj h]
    | some piece => exact .inl ⟨line, piece, rfl, hpiece, snippet_of_slice hline hpiece⟩

/-- **Snippets show the text of ranges.**

* For the range between two boundaries of a text in order, the snippet is what is shown of the text
  between them: the whole of it, if it is on one line and has at most forty characters; otherwise at
  most forty characters of its first line, with an ellipsis.
* For any range there is a snippet, on one line and of at most forty-one characters. Either the row
  on which the range starts is a line of the text, its columns are boundaries of this line, and the
  piece between them is shown; or there is no such line or a column is inside a character, and the
  snippet is empty. -/
theorem snippet_shows_range (text : String) :
    (∀ m n, IsBoundary text.toList m → IsBoundary text.toList n → m ≤ n →
      ∃ piece, slice? text m n = some piece ∧
        snippet text ⟨pointAt text .zero m, pointAt text .zero n⟩ = excerpt piece) ∧
    ∀ r : Range,
      ('\n' ∉ (snippet text r).toList ∧ (snippet text r).length ≤ 41) ∧
      ((∃ line piece, (lines text)[r.start.row]? = some line ∧
          slice? line (snippetStart line r) (snippetEnd line r) = some piece ∧
          snippet text r = shortened piece (decide (r.start.row < r.stop.row))) ∨
        (∀ line, (lines text)[r.start.row]? = some line →
          ¬ (IsBoundary line.toList (snippetStart line r) ∧
            IsBoundary line.toList (snippetEnd line r))) ∧ snippet text r = "") := by
  refine ⟨fun m n hm hn h => ?_, fun r => ?_⟩
  · obtain ⟨piece, hpiece⟩ := hm.exists_slice? hn h
    obtain ⟨front, back, htext, rfl, rfl⟩ := slice?_eq_some_iff.1 hpiece
    refine ⟨piece, hpiece, ?_⟩
    rw [pointAt_of_append htext, pointAt_of_append (htext.trans (List.append_assoc _ _ _))]
    exact snippet_eq_excerpt htext
  · rcases snippet_cases text r with ⟨line, piece, hline, hpiece, hsnippet⟩ | ⟨hnone, hsnippet⟩
    · have hnewline := newline_notMem_of_mem_lines (List.mem_of_getElem? hline)
      refine ⟨?_, .inl ⟨line, piece, hline, hpiece, hsnippet⟩⟩
      rw [hsnippet]
      exact shortened_on_one_line _ (newline_notMem_of_slice? hnewline hpiece)
    · refine ⟨by rw [hsnippet]; decide, .inr ⟨fun line hline ⟨hstart, hend⟩ => ?_, hsnippet⟩⟩
      obtain ⟨piece, hpiece⟩ := hstart.exists_slice? hend (Nat.min_le_right _ _)
      rw [hnone line hline] at hpiece
      cases hpiece

/-- A piece on one line, one over three lines, a range that starts inside a character and one behind
the text. -/
theorem snippet_shows_range_accent :
    (∃ piece, slice? "é = [\n1\n]" 0 4 = some piece ∧
      snippet "é = [\n1\n]" ⟨⟨0, 0⟩, ⟨0, 4⟩⟩ = excerpt piece) ∧
    excerpt "é =" = "é =" ∧
    (∃ piece, slice? "é = [\n1\n]" 5 10 = some piece ∧
      snippet "é = [\n1\n]" ⟨⟨0, 5⟩, ⟨2, 1⟩⟩ = excerpt piece) ∧
    excerpt "[\n1\n]" = "[…" ∧
    snippet "é = [\n1\n]" ⟨⟨0, 1⟩, ⟨0, 4⟩⟩ = "" ∧ snippet "é = [\n1\n]" ⟨⟨9, 0⟩, ⟨9, 1⟩⟩ = "" := by
  obtain ⟨hboundaries, hranges⟩ := snippet_shows_range "é = [\n1\n]"
  refine ⟨hboundaries 0 4 (by decide) (by decide) (by decide), by decide +kernel,
    hboundaries 5 10 (by decide) (by decide) (by decide), by decide +kernel, ?_, ?_⟩
  · rcases (hranges ⟨⟨0, 1⟩, ⟨0, 4⟩⟩).2 with ⟨line, piece, hline, hpiece, -⟩ | ⟨-, hempty⟩
    · have hfirst : (lines "é = [\n1\n]")[0]? = some "é = [" := by decide +kernel
      have hnone : slice? "é = [" 1 4 = none := by decide +kernel
      obtain rfl := Option.some.inj (hfirst.symm.trans hline)
      exact absurd (hnone.symm.trans hpiece) (Option.some_ne_none piece).symm
    · exact hempty
  · rcases (hranges ⟨⟨9, 0⟩, ⟨9, 1⟩⟩).2 with ⟨line, piece, hline, -⟩ | ⟨-, hempty⟩
    · have hnone : (lines "é = [\n1\n]")[9]? = none := by decide +kernel
      exact absurd (hnone.symm.trans hline) (Option.some_ne_none line).symm
    · exact hempty

end SyntaxInspector
