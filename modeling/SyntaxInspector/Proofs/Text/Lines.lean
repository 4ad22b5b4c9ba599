import Mathlib.Data.List.DropRight
import SyntaxInspector.Proofs.Text.Boundaries
import SyntaxInspector.Proofs.Text.Splitting

/-!
# Rows and lines

A point that leading characters of a text lead to has the number of their line feeds as its row, and
the bytes behind the last of them as its column. The line with that number is made of what stands
around the point, up to the line feeds next to it.

* `firstLine`, `lastLine` — the parts of a text before and behind all line feeds;
* `Point.afterChars_zero` — row and column of a point;
* `getElem?_lines` — the line of a point;
* `newline_notMem_of_mem_lines` — lines have no line feeds.
-/

namespace SyntaxInspector

/-! ### Parts without line feeds -/

/-- The part of a text before its first line feed. -/
def firstLine (cs : List Char) : List Char := cs.takeWhile (· ≠ '\n')

/-- The part of a text behind its last line feed. -/
def lastLine (cs : List Char) : List Char := cs.rtakeWhile (· ≠ '\n')

section

variable {cs ds : List Char} {c : Char}

theorem firstLine_append_of_notMem (h : '\n' ∉ cs) : firstLine (cs ++ ds) = cs ++ firstLine ds :=
  List.takeWhile_append_of_pos fun _ hc => decide_eq_true (ne_of_mem_of_not_mem hc h)

theorem firstLine_append_newline (h : '\n' ∉ cs) : firstLine (cs ++ '\n' :: ds) = cs :=
  (firstLine_append_of_notMem h).trans (List.append_nil cs)

theorem firstLine_of_notMem (h : '\n' ∉ cs) : firstLine cs = cs :=
  List.takeWhile_eq_self_iff.2 fun _ hc => decide_eq_true (ne_of_mem_of_not_mem hc h)

theorem lastLine_append_singleton (hc : c ≠ '\n') : lastLine (cs ++ [c]) = lastLine cs ++ [c] :=
  List.rtakeWhile_concat_pos _ _ _ (decide_eq_true hc)

theorem lastLine_append_newline : lastLine (cs ++ ['\n']) = [] :=
  List.rtakeWhile_concat_neg _ _ _ (by decide)

theorem lastLine_append_of_notMem (h : '\n' ∉ ds) : lastLine (cs ++ ds) = lastLine cs ++ ds := by
  induction ds using List.reverseRecOn with
  | nil => rw [List.append_nil, List.append_nil]
  | append_singleton ds c ih =>
    rw [List.mem_append, not_or, List.mem_singleton] at h
    rw [← List.append_assoc, lastLine_append_singleton (Ne.symm h.2), ih h.1, List.append_assoc]

end

/-! ### Row and column -/

theorem count_append_singleton_of_ne {cs : List Char} {c : Char} (hc : c ≠ '\n') :
    (cs ++ [c]).count '\n' = cs.count '\n' := by
  rw [List.count_append, List.count_cons_of_ne hc, List.count_nil, Nat.add_zero]

theorem Point.afterChars_zero (cs : List Char) :
    Point.zero.afterChars cs = ⟨cs.count '\n', byteLength (lastLine cs)⟩ := by
  induction cs using List.reverseRecOn with
  | nil => rfl
  | append_singleton cs c ih =>
    rw [afterChars_append, ih, afterChars_cons, afterChars_nil, step]
    by_cases hc : c = '\n'
    · rw [if_pos hc, hc, lastLine_append_newline, List.count_append, List.count_singleton_self,
        byteLength_nil]
    · rw [if_neg hc, lastLine_append_singleton hc, count_append_singleton_of_ne hc,
        byteLength_append, byteLength_cons, byteLength_nil, Nat.add_zero]

theorem Point.row_afterChars_zero (cs : List Char) :
    (Point.zero.afterChars cs).row = cs.count '\n' := by
  rw [afterChars_zero]

theorem Point.column_afterChars_zero (cs : List Char) :
    (Point.zero.afterChars cs).column = byteLength (lastLine cs) := by
  rw [afterChars_zero]

/-! ### Lines -/

theorem length_splitChars_newline (cs : List Char) :
    (splitChars (· = '\n') cs).length = cs.count '\n' + 1 := by
  induction cs with
  | nil => rfl
  | cons c cs ih =>
    rw [splitChars_eq_splitOnP] at ih ⊢
    rw [List.splitOnP_cons_eq_if_modifyHead]
    by_cases hc : c = '\n'
    · rw [if_pos (decide_eq_true hc), List.length_cons, ih, hc, List.count_cons_self]
    · rw [if_neg (by simp [hc]), List.length_modifyHead, ih, List.count_cons_of_ne hc]

theorem getElem?_zero_splitChars_newline (cs : List Char) :
    (splitChars (· = '\n') cs)[0]? = some (firstLine cs) := by
  induction cs with
  | nil => rfl
  | cons c cs ih =>
    rw [splitChars_eq_splitOnP] at ih ⊢
    rw [List.splitOnP_cons_eq_if_modifyHead, firstLine]
    by_cases hc : c = '\n'
    · rw [if_pos (decide_eq_true hc), List.takeWhile_cons_of_neg (by simp [hc])]
      rfl
    · rw [if_neg (by simp [hc]), List.takeWhile_cons_of_pos (by simp [hc]),
        List.getElem?_modifyHead_zero, ih]
      rfl

/-- The line around a place: if the place is behind a line feed, the first line of what follows. -/
theorem getElem?_splitChars_newline (front back : List Char) :
    (splitChars (· = '\n') (front ++ back))[front.count '\n']? =
      some (lastLine front ++ firstLine back) := by
  induction front using List.reverseRecOn generalizing back with
  | nil => exact getElem?_zero_splitChars_newline back
  | append_singleton front c ih =>
    by_cases hc : c = '\n'
    · have hsplit : splitChars (· = '\n') (front ++ [c] ++ back) =
          splitChars (· = '\n') front ++ splitChars (· = '\n') back := by
        rw [List.append_assoc, List.singleton_append]
        simp only [splitChars_eq_splitOnP]
        exact List.splitOnP_append_cons front back (decide_eq_true hc)
      have hcount : (front ++ [c]).count '\n' = (splitChars (· = '\n') front).length := by
        rw [hc, List.count_append, List.count_singleton_self, length_splitChars_newline]
      rw [hsplit, hcount, List.getElem?_append_right (Nat.le_refl _), Nat.sub_self,
        getElem?_zero_splitChars_newline, hc, lastLine_append_newline, List.nil_append]
    · rw [count_append_singleton_of_ne hc, List.append_assoc, List.singleton_append, ih,
        lastLine_append_singleton hc, List.append_assoc, List.singleton_append]
      exact congrArg (fun line => some (lastLine front ++ line))
        (List.takeWhile_cons_of_pos (decide_eq_true hc))

/-- The line of a point. -/
theorem getElem?_lines {text : String} {front back : List Char} (h : text.toList = front ++ back) :
    (lines text)[(Point.zero.afterChars front).row]? =
      some (String.ofList (lastLine front ++ firstLine back)) := by
  rw [lines, splitText, h, List.getElem?_map, Point.row_afterChars_zero,
    getElem?_splitChars_newline front back]
  rfl

theorem newline_notMem_of_mem_lines {text line : String} (h : line ∈ lines text) :
    '\n' ∉ line.toList := by
  obtain ⟨piece, hpiece, rfl⟩ := List.mem_map.1 h
  rw [String.toList_ofList]
  intro hmem
  have hsep := eq_false_of_mem_splitChars hpiece hmem
  exact of_decide_eq_false hsep rfl

end SyntaxInspector
