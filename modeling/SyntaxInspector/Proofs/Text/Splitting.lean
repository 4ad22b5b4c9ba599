import SyntaxInspector.Text.Split

/-!
# Splitting and joining undo each other

Splitting and joining at a separator are those of lists in general. So what is split and joined
again is the same text, and pieces without the separator come back from the text they are joined to.

* `splitChars_eq_splitOnP`, `joinChars_eq_intercalate` — splitting and joining as for any list;
* `joinText_splitText` — joining what was split;
* `splitText_joinText` — splitting what was joined.
-/

namespace SyntaxInspector

theorem splitChars_eq_splitOnP (sep : Char → Bool) (cs : List Char) :
    splitChars sep cs = cs.splitOnP sep := by
  induction cs with
  | nil => rfl
  | cons c cs ih =>
    rw [splitChars, ih, List.splitOnP_cons_eq_if_modifyHead]
    split
    · rfl
    · cases hpieces : cs.splitOnP sep with
      | nil => exact absurd hpieces (List.splitOnP_ne_nil sep cs)
      | cons piece rest => rfl

/-- No piece has a separator in it. -/
theorem eq_false_of_mem_splitChars {sep : Char → Bool} {cs piece : List Char}
    (h : piece ∈ splitChars sep cs) {c : Char} (hc : c ∈ piece) : sep c = false := by
  induction cs generalizing piece with
  | nil =>
    rw [List.mem_singleton.1 h] at hc
    exact absurd hc List.not_mem_nil
  | cons d cs ih =>
    rw [splitChars] at h
    split at h
    · rcases List.mem_cons.1 h with rfl | h
      · exact absurd hc List.not_mem_nil
      · exact ih h hc
    · rename_i hd
      split at h
      · rename_i hpieces
        exact absurd hpieces (splitChars_ne_nil sep cs)
      · rename_i first rest hpieces
        rcases List.mem_cons.1 h with rfl | h
        · rcases List.mem_cons.1 hc with rfl | hc
          · exact Bool.eq_false_iff.2 hd
          · exact ih (hpieces ▸ List.mem_cons_self) hc
        · exact ih (hpieces ▸ List.mem_cons_of_mem _ h) hc

theorem joinChars_eq_intercalate (sep : Char) (pieces : List (List Char)) :
    joinChars sep pieces = [sep].intercalate pieces := by
  induction pieces with
  | nil => rfl
  | cons piece rest ih =>
    cases rest with
    | nil => rw [joinChars, List.intercalate_singleton]
    | cons next rest =>
      rw [joinChars_cons _ _ (List.cons_ne_nil _ _), ih, List.intercalate_cons_cons,
        List.append_assoc, List.singleton_append]

theorem joinText_eq_intercalate (sep : Char) (pieces : List String) :
    joinText sep pieces = (String.singleton sep).intercalate pieces := by
  rw [joinText, joinChars_eq_intercalate, ← String.toList_inj, String.toList_ofList,
    String.toList_intercalate, String.toList_singleton]

/-- Pieces that do not have the separator come back. -/
theorem splitChars_joinChars {sep : Char} {pieces : List (List Char)} (hne : pieces ≠ [])
    (h : ∀ piece ∈ pieces, sep ∉ piece) :
    splitChars (· = sep) (joinChars sep pieces) = pieces := by
  rw [splitChars_eq_splitOnP, joinChars_eq_intercalate]
  have hsplit := List.splitOn_intercalate sep h hne
  rw [List.splitOn_eq_splitOnP] at hsplit
  exact hsplit

theorem map_ofList_map_toList (texts : List String) :
    (texts.map String.toList).map String.ofList = texts := by
  rw [List.map_map]
  exact (List.map_congr_left fun text _ => String.ofList_toList).trans (List.map_id _)

theorem map_toList_splitText (sep : Char → Bool) (text : String) :
    (splitText sep text).map String.toList = splitChars sep text.toList := by
  rw [splitText, List.map_map]
  exact (List.map_congr_left fun cs _ => String.toList_ofList).trans (List.map_id _)

theorem joinText_splitText (sep : Char) (text : String) :
    joinText sep (splitText (· = sep) text) = text := by
  rw [joinText, map_toList_splitText, joinChars_splitChars, String.ofList_toList]

theorem splitText_joinText {sep : Char} {pieces : List String} (hne : pieces ≠ [])
    (h : ∀ piece ∈ pieces, sep ∉ piece.toList) :
    splitText (· = sep) (joinText sep pieces) = pieces := by
  have hchars : ∀ cs ∈ pieces.map String.toList, sep ∉ cs := by
    intro cs hcs
    obtain ⟨piece, hpiece, rfl⟩ := List.mem_map.1 hcs
    exact h piece hpiece
  have hne' : pieces.map String.toList ≠ [] := mt List.map_eq_nil_iff.1 hne
  rw [splitText, joinText, String.toList_ofList, splitChars_joinChars hne' hchars,
    map_ofList_map_toList]

end SyntaxInspector
