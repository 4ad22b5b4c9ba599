import SyntaxInspector.Proofs.Scope.Pipeline
import SyntaxInspector.Proofs.Text.Boundaries

/-!
# Marks of capture names

The marks in a query text are found by a search for words that goes on after the end of each word it
finds. As a word is an at sign with a name behind it, and a name has none, words never overlap, and
so the search finds them all.

* `mem_occurrences_iff` — a search for a word that starts as it does not go on;
* `IsNamedAt` — a query text names a capture;
* `capture_marks_are_exact` — the marks of all captures.
-/

namespace SyntaxInspector

/-! ### Words that do not overlap -/

section Occurrences

variable {head : Char} {tail cs rest : List Char} {offset skip o : Nat}

/-- A word stands at the start of a text or in the rest of it. -/
theorem exists_append_cons_iff {word : List Char} {c : Char} :
    (∃ front, c :: cs = front ++ word ++ rest ∧ o = offset + byteLength front) ↔
      (c :: cs = word ++ rest ∧ o = offset) ∨
      ∃ front, cs = front ++ word ++ rest ∧ o = offset + c.utf8Size + byteLength front := by
  constructor
  · rintro ⟨front, htext, rfl⟩
    cases front with
    | nil => exact .inl ⟨htext, rfl⟩
    | cons d front =>
      obtain ⟨rfl, hcs⟩ := List.cons.inj htext
      exact .inr ⟨front, hcs, by rw [byteLength_cons, Nat.add_assoc]⟩
  · rintro (⟨htext, rfl⟩ | ⟨front, rfl, rfl⟩)
    · exact ⟨[], htext, rfl⟩
    · exact ⟨c :: front, rfl, by rw [byteLength_cons, Nat.add_assoc]⟩

/-- A word that has its first character only once is found wherever it stands: what the search skips
does not have that character. -/
theorem mem_occurrences_iff (htail : head ∉ tail) (hskip : head ∉ cs.take skip) :
    (o, rest) ∈ occurrences (head :: tail) offset skip cs ↔
      ∃ front, cs = front ++ (head :: tail) ++ rest ∧ o = offset + byteLength front := by
  induction cs generalizing offset skip with
  | nil => simp [occurrences]
  | cons c cs ih =>
    rw [exists_append_cons_iff]
    cases skip with
    | succ skip =>
      obtain ⟨hc, hskip⟩ := not_or.1 (List.mem_cons.not.1 hskip)
      rw [occurrences, ih hskip]
      refine ⟨.inr, fun h => h.resolve_left ?_⟩
      rintro ⟨htext, -⟩
      exact hc (List.cons.inj htext).1.symm
    | zero =>
      rw [occurrences]
      by_cases hprefix : (head :: tail).isPrefixOf (c :: cs) = true
      · obtain ⟨back, hback⟩ := List.isPrefixOf_iff_prefix.1 hprefix
        obtain ⟨rfl, rfl⟩ := List.cons.inj hback
        rw [if_pos hprefix, List.mem_cons, ih (by simpa using htail)]
        refine or_congr_left ?_
        rw [← hback, List.drop_left, Prod.mk.injEq, List.append_cancel_left_eq, and_comm,
          eq_comm (a := back)]
      · rw [if_neg hprefix, ih (by simp)]
        refine ⟨.inr, fun h => h.resolve_left ?_⟩
        rintro ⟨htext, -⟩
        exact hprefix (List.isPrefixOf_iff_prefix.2 ⟨rest, htext.symm⟩)

/-- A search goes forward. -/
theorem pairwise_occurrences (word : List Char) (offset skip : Nat) (cs : List Char) :
    (∀ found ∈ occurrences word offset skip cs, offset ≤ found.1) ∧
      (occurrences word offset skip cs).Pairwise fun found next => found.1 < next.1 := by
  fun_induction occurrences word offset skip cs with
  | case1 => simp
  | case2 offset skip c cs ih =>
    exact ⟨fun found hfound => Nat.le_trans (Nat.le_add_right _ _) (ih.1 found hfound), ih.2⟩
  | case3 offset c cs hprefix ih =>
    have hpos := c.utf8Size_pos
    constructor
    · intro found hfound
      rcases List.mem_cons.1 hfound with rfl | hfound
      · exact Nat.le_refl _
      · exact Nat.le_trans (Nat.le_add_right _ _) (ih.1 found hfound)
    · refine List.pairwise_cons.2 ⟨fun found hfound => ?_, ih.2⟩
      have := ih.1 found hfound
      omega
  | case4 offset c cs hprefix ih =>
    exact ⟨fun found hfound => Nat.le_trans (Nat.le_add_right _ _) (ih.1 found hfound), ih.2⟩

end Occurrences

/-! ### Names of captures -/

/-- What is written for a capture: an at sign and its name. -/
def captureWord (name : String) : List Char := '@' :: name.toList

/-- Between two parts of a query text a capture is named, and not one whose name goes on. -/
structure IsNamedAt (source name : String) (front back : List Char) : Prop where
  text : source.toList = front ++ captureWord name ++ back
  ends : ∀ c ∈ back.head?, c ≠ '.' ∧ c ≠ '_' ∧ isAlphanumeric c = false

theorem continuesName_eq_false_iff {back : List Char} :
    continuesName back = false ↔
      ∀ c ∈ back.head?, c ≠ '.' ∧ c ≠ '_' ∧ isAlphanumeric c = false := by
  cases back with
  | nil => simp [continuesName]
  | cons c back => simp [continuesName, and_assoc]

/-- The byte offsets at which the marks of a name are. -/
def markOffsets (source name : String) : List Nat :=
  ((occurrences (captureWord name) 0 0 source.toList).filter (!continuesName ·.2)).map Prod.fst

/-- The mark of a name at a byte offset. -/
def CaptureMark.at (source name : String) (index offset : Nat) : CaptureMark :=
  ⟨⟨pointAt source .zero offset, pointAt source .zero (offset + byteLength (captureWord name))⟩,
    .ofIndex index, name⟩

variable {source name : String}

theorem marksOf_eq (source name : String) (index : Nat) :
    marksOf source name index = (markOffsets source name).map (.at source name index) := by
  rw [markOffsets, List.map_map]
  rfl

theorem captureMarks_eq (q : CompiledQuery) :
    captureMarks q = q.captureNames.zipIdx.flatMap fun (name, index) =>
      (markOffsets q.source name).map (.at q.source name index) :=
  List.flatMap_congr fun p _ => marksOf_eq q.source p.1 p.2

/-- Every mark stands for a declared name, and has the category of the name's index. -/
theorem exists_index_of_mem_captureMarks {q : CompiledQuery} {m : CaptureMark}
    (h : m ∈ captureMarks q) :
    ∃ index, q.captureNames[index]? = some m.captureName ∧ m.category = .ofIndex index := by
  rw [captureMarks_eq] at h
  obtain ⟨⟨name, index⟩, hdeclared, hm⟩ := List.mem_flatMap.1 h
  obtain ⟨o, -, rfl⟩ := List.mem_map.1 hm
  exact ⟨index, List.mem_zipIdx_iff_getElem?.1 hdeclared, rfl⟩

theorem pairwise_markOffsets (source name : String) :
    (markOffsets source name).Pairwise (· < ·) :=
  List.pairwise_map.2 ((pairwise_occurrences _ 0 0 source.toList).2.filter _)

/-- Marks are where the capture is named. -/
theorem mem_markOffsets_iff (hname : '@' ∉ name.toList) {o : Nat} :
    o ∈ markOffsets source name ↔
      ∃ front back, IsNamedAt source name front back ∧ byteLength front = o := by
  rw [markOffsets, List.mem_map]
  constructor
  · rintro ⟨⟨o, back⟩, hmem, rfl⟩
    obtain ⟨hfound, hends⟩ := List.mem_filter.1 hmem
    obtain ⟨front, htext, rfl⟩ := (mem_occurrences_iff hname (by simp)).1 hfound
    rw [Bool.not_eq_true', continuesName_eq_false_iff] at hends
    exact ⟨front, back, ⟨htext, hends⟩, (Nat.zero_add _).symm⟩
  · rintro ⟨front, back, ⟨htext, hends⟩, rfl⟩
    refine ⟨(byteLength front, back), List.mem_filter.2 ⟨?_, ?_⟩, rfl⟩
    · exact (mem_occurrences_iff hname (by simp)).2 ⟨front, htext, (Nat.zero_add _).symm⟩
    · rw [Bool.not_eq_true', continuesName_eq_false_iff]
      exact hends

/-- A mark reaches from where the text before the name leads to where the text with it does. -/
theorem IsNamedAt.range_at {front back : List Char} (h : IsNamedAt source name front back)
    (index : Nat) :
    (CaptureMark.at source name index (byteLength front)).range =
      ⟨Point.zero.afterChars front, Point.zero.afterChars (front ++ captureWord name)⟩ := by
  have hstart : pointAt source .zero (byteLength front) = Point.zero.afterChars front := by
    have htext := h.text
    rw [List.append_assoc] at htext
    exact pointAt_of_append htext .zero
  have hstop := pointAt_of_append h.text .zero
  rw [byteLength_append] at hstop
  rw [CaptureMark.at, hstart, hstop]

/-- **Capture marks are exact.** Let no declared name have an at sign in it.

* The marks are those of the declared names, name by name, each at increasing byte offsets.
* The offsets of a name are just those at which it stands with an at sign before it and no character
  of names behind it.
* The range of a mark starts where the text before it leads and ends where the text with it does.
* A highlight of any query run is of the category of its capture's marks. Where names are declared
  once, it is of the category of all marks of its name. -/
theorem capture_marks_are_exact (q : CompiledQuery)
    (hnames : ∀ name ∈ q.captureNames, '@' ∉ name.toList) :
    ∃ offsets : String → List Nat,
      captureMarks q = q.captureNames.zipIdx.flatMap
        (fun (name, index) => (offsets name).map (.at q.source name index)) ∧
      (∀ name ∈ q.captureNames, (offsets name).Pairwise (· < ·) ∧ ∀ o, o ∈ offsets name ↔
        ∃ front back, IsNamedAt q.source name front back ∧ byteLength front = o) ∧
      (∀ name front back, IsNamedAt q.source name front back → ∀ index,
        (CaptureMark.at q.source name index (byteLength front)).range =
          ⟨Point.zero.afterChars front, Point.zero.afterChars (front ++ captureWord name)⟩) ∧
      ∀ t text r captures, ∀ hl ∈ (resolveHighlights q t text r captures).1, ∃ c ∈ captures,
        (∃ range, hl = .ofCapture q c range) ∧
        (∀ name o, (CaptureMark.at q.source name c.nameIndex o).category = hl.category) ∧
        (q.captureNames.Nodup → c.nameIndex < q.captureNames.length →
          ∀ m ∈ captureMarks q, m.captureName = hl.captureName → m.category = hl.category) := by
  refine ⟨markOffsets q.source, captureMarks_eq q, fun name hmem => ⟨pairwise_markOffsets _ name,
    fun o => mem_markOffsets_iff (hnames name hmem)⟩,
    fun name front back h index => h.range_at index, fun t text r captures hl hmem => ?_⟩
  obtain ⟨c, hc, range, rfl⟩ := CompiledQuery.exists_capture_of_mem_resolveHighlights hmem
  refine ⟨c, hc, ⟨range, rfl⟩, fun _ _ => rfl, fun hnodup hlt m hm hname => ?_⟩
  obtain ⟨index, hget, hcategory⟩ := exists_index_of_mem_captureMarks hm
  obtain ⟨hindex, hget⟩ := List.getElem?_eq_some_iff.1 hget
  -- names declared once have one index
  have heq : index = c.nameIndex := by
    refine CompiledQuery.captureName_inj hnodup hindex hlt ?_
    rw [CompiledQuery.captureName_of_lt hindex, hget, hname]
    rfl
  rw [hcategory, heq]
  rfl

/-- A query in which the first of three names starts the second, and stands right behind the
third. -/
def namingQuery : CompiledQuery :=
  ⟨"json", "(x) @a\n(é) @a.b @é@a", ["a", "a.b", "é"], []⟩

/-- The first name has two marks in spite of the longer one. -/
theorem capture_marks_are_exact_namingQuery :
    captureMarks namingQuery =
      [⟨⟨⟨0, 4⟩, ⟨0, 6⟩⟩, ⟨1⟩, "a"⟩, ⟨⟨⟨1, 13⟩, ⟨1, 15⟩⟩, ⟨1⟩, "a"⟩,
        ⟨⟨⟨1, 5⟩, ⟨1, 9⟩⟩, ⟨2⟩, "a.b"⟩, ⟨⟨⟨1, 10⟩, ⟨1, 13⟩⟩, ⟨3⟩, "é"⟩] ∧
    ∃ offsets : String → List Nat,
      captureMarks namingQuery = namingQuery.captureNames.zipIdx.flatMap
        (fun (name, index) => (offsets name).map (.at namingQuery.source name index)) ∧
      4 ∈ offsets "a" ∧ 20 ∈ offsets "a" := by
  obtain ⟨offsets, hmarks, hoffsets, -⟩ := capture_marks_are_exact namingQuery (by decide +kernel)
  have ha := (hoffsets "a" (by decide)).2
  refine ⟨by decide +kernel, offsets, hmarks, ?_, ?_⟩
  · have hends : continuesName ['\n', '(', 'é', ')', ' ', '@', 'a', '.', 'b', ' ', '@', 'é', '@',
        'a'] = false := by decide +kernel
    exact (ha 4).2 ⟨['(', 'x', ')', ' '], _, ⟨rfl, continuesName_eq_false_iff.1 hends⟩, rfl⟩
  · exact (ha 20).2 ⟨"(x) @a\n(é) @a.b @é".toList, [], ⟨rfl, by simp⟩, rfl⟩

end SyntaxInspector
