import SyntaxInspector.Proofs.Query.Marks

/-!
# Marks that overlap

A capture name starts with an at sign and has none inside, so marks that start at different at signs
lie apart. At one at sign there may be several declared names, each the beginning of the next. A
name is not marked where a longer one goes on, except if it goes on with a hyphen: names may have
hyphens, but a hyphen is not taken for a part of a name by the search for marks.

* `IsNameChar`, `IsCaptureName` — the characters of capture names;
* `IsNamedAt.eq_or_apart` — two names in one text;
* `IsNamedAt.hyphenExtends` — two names at one place;
* `marks_meet_at_hyphens_only` — the marks of all captures.
-/

namespace SyntaxInspector

/-! ### Ranges and names -/

/-- Two ranges start at different points and have nothing in common. -/
structure Range.Apart (r r' : Range) : Prop where
  start : r.start ≠ r'.start
  disjoint : r.stop ≤ r'.start ∨ r'.stop ≤ r.start

instance (r r' : Range) : Decidable (r.Apart r') :=
  decidable_of_iff (r.start ≠ r'.start ∧ (r.stop ≤ r'.start ∨ r'.stop ≤ r.start))
    ⟨fun ⟨h, h'⟩ => ⟨h, h'⟩, fun h => ⟨h.start, h.disjoint⟩⟩

theorem Range.Apart.symm {r r' : Range} (h : r.Apart r') : r'.Apart r :=
  ⟨h.start.symm, h.disjoint.symm⟩

/-- A character that capture names may have. -/
def IsNameChar (c : Char) : Prop := isAlphanumeric c = true ∨ c = '_' ∨ c = '-' ∨ c = '.'

instance : DecidablePred IsNameChar := fun c =>
  inferInstanceAs (Decidable (isAlphanumeric c = true ∨ c = '_' ∨ c = '-' ∨ c = '.'))

/-- A name is made of such characters only. -/
def IsCaptureName (name : String) : Prop := ∀ c ∈ name.toList, IsNameChar c

-- without the list, every character there is would be tried
instance : DecidablePred IsCaptureName := fun name => List.decidableBAll IsNameChar name.toList

theorem IsCaptureName.at_notMem {name : String} (h : IsCaptureName name) : '@' ∉ name.toList := by
  have hat : ¬ IsNameChar '@' := by decide +kernel
  exact fun hmem => hat (h '@' hmem)

/-- A name is the beginning of another one, which goes on with a hyphen. -/
def HyphenExtends (short long : String) : Prop :=
  ∃ more, long.toList = short.toList ++ '-' :: more

/-! ### Two names in one text -/

section

variable {source name name' : String} {front front' back back' : List Char}

/-- Where a second name stands behind the start of a first, it stands behind all of it. -/
theorem exists_eq_captureWord_append {between : List Char} (hname : '@' ∉ name.toList)
    (h : captureWord name ++ back = between ++ (captureWord name' ++ back'))
    (hne : between ≠ []) : ∃ gap, between = captureWord name ++ gap := by
  rcases List.append_eq_append_iff.1 h with ⟨gap, hbetween, -⟩ | ⟨inner, hword, hinner⟩
  · exact ⟨gap, hbetween⟩
  · cases inner with
    | nil => exact ⟨[], by rw [hword]; simp⟩
    | cons c inner =>
      -- the second at sign would be inside the first name
      obtain ⟨d, between, rfl⟩ := List.exists_cons_of_ne_nil hne
      obtain ⟨rfl, -⟩ := List.cons.inj hinner
      obtain ⟨-, hinside⟩ := List.cons.inj hword
      refine absurd ?_ hname
      rw [hinside]
      exact List.mem_append_right _ List.mem_cons_self

/-- A name that stands behind another one has a range apart from it. -/
theorem apart_of_front_eq (gap : List Char) :
    Range.Apart ⟨Point.zero.afterChars front, Point.zero.afterChars (front ++ captureWord name)⟩
      ⟨Point.zero.afterChars (front ++ (captureWord name ++ gap)),
        Point.zero.afterChars (front ++ (captureWord name ++ gap) ++ captureWord name')⟩ := by
  constructor
  · intro heq
    have hword : captureWord name ++ gap ≠ [] := by simp [captureWord]
    have hlt := Point.lt_afterChars (Point.zero.afterChars front) hword
    have hsame : Point.zero.afterChars front =
        Point.zero.afterChars (front ++ (captureWord name ++ gap)) := heq
    rw [← Point.afterChars_append, ← hsame] at hlt
    exact Point.not_lt.2 (Point.le_refl _) hlt
  · refine .inl ?_
    rw [← List.append_assoc, Point.afterChars_append Point.zero (front ++ captureWord name)]
    exact Point.le_afterChars _ _

/-- Two names stand at one place, or their ranges lie apart. -/
theorem IsNamedAt.eq_or_apart (h : IsNamedAt source name front back)
    (h' : IsNamedAt source name' front' back') (hname : '@' ∉ name.toList)
    (hname' : '@' ∉ name'.toList) (index index' : Nat) :
    front = front' ∨ Range.Apart (CaptureMark.at source name index (byteLength front)).range
      (CaptureMark.at source name' index' (byteLength front')).range := by
  rw [h.range_at, h'.range_at]
  have htext := h.text.symm.trans h'.text
  rw [List.append_assoc, List.append_assoc] at htext
  rcases List.append_eq_append_iff.1 htext with
    ⟨between, rfl, hrest⟩ | ⟨between, rfl, hrest⟩
  · by_cases hne : between = []
    · exact .inl (by rw [hne, List.append_nil])
    · obtain ⟨gap, rfl⟩ := exists_eq_captureWord_append hname hrest hne
      exact .inr (apart_of_front_eq gap)
  · by_cases hne : between = []
    · exact .inl (by rw [hne, List.append_nil])
    · obtain ⟨gap, rfl⟩ := exists_eq_captureWord_append hname' hrest hne
      exact .inr (apart_of_front_eq gap).symm

/-- The character with which a longer name goes on behind a name that is marked is a hyphen. -/
theorem IsNamedAt.hyphenExtends_of_append (h : IsNamedAt source name front back)
    {more : List Char} (hlong : name'.toList = name.toList ++ more) (hback : back = more ++ back')
    (hne : name ≠ name') (hchars : IsCaptureName name') : HyphenExtends name name' := by
  cases more with
  | nil => exact absurd (String.toList_injective (by simpa using hlong.symm)) hne
  | cons c more =>
    have hc : IsNameChar c := hchars c (by rw [hlong]; simp)
    obtain ⟨hdot, hunderscore, halphanumeric⟩ := h.ends c (by rw [hback]; rfl)
    have hhyphen : c = '-' := by
      rcases hc with hc | hc | hc | hc
      · rw [halphanumeric] at hc
        cases hc
      · exact absurd hc hunderscore
      · exact hc
      · exact absurd hc hdot
    exact ⟨more, hhyphen ▸ hlong⟩

/-- Of two names that are marked at one place, one goes on with a hyphen where the other ends. -/
theorem IsNamedAt.hyphenExtends (h : IsNamedAt source name front back)
    (h' : IsNamedAt source name' front back') (hne : name ≠ name')
    (hchars : IsCaptureName name) (hchars' : IsCaptureName name') :
    HyphenExtends name name' ∨ HyphenExtends name' name := by
  have htext := h.text.symm.trans h'.text
  rw [List.append_assoc, List.append_assoc] at htext
  have hnames : name.toList ++ back = name'.toList ++ back' :=
    (List.cons.inj (List.append_cancel_left htext)).2
  rcases List.append_eq_append_iff.1 hnames with ⟨more, hlong, hback⟩ | ⟨more, hlong, hback⟩
  · exact .inl (h.hyphenExtends_of_append hlong hback hne hchars')
  · exact .inr (h'.hyphenExtends_of_append hlong hback hne.symm hchars)

/-- Where a longer name is marked, a name that it extends by a hyphen is marked too. -/
theorem IsNamedAt.of_hyphenExtends (h : IsNamedAt source name' front back)
    (hextends : HyphenExtends name name') :
    ∃ back', IsNamedAt source name front back' := by
  obtain ⟨more, hlong⟩ := hextends
  have hends : continuesName ('-' :: (more ++ back)) = false := by
    have hhyphen : isAlphanumeric '-' = false := by decide +kernel
    simp [continuesName, hhyphen]
  refine ⟨'-' :: (more ++ back), ?_, continuesName_eq_false_iff.1 hends⟩
  rw [h.text, captureWord, captureWord, hlong]
  simp

end

/-! ### The marks of a query -/

theorem CaptureMark.at_mem_captureMarks {q : CompiledQuery} {name : String} {index : Nat}
    {front back : List Char} (hget : q.captureNames[index]? = some name)
    (hname : '@' ∉ name.toList) (h : IsNamedAt q.source name front back) :
    CaptureMark.at q.source name index (byteLength front) ∈ captureMarks q := by
  rw [captureMarks_eq]
  exact List.mem_flatMap.2 ⟨(name, index), List.mem_zipIdx_iff_getElem?.2 hget,
    List.mem_map_of_mem ((mem_markOffsets_iff hname).2 ⟨front, back, h, rfl⟩)⟩

section

variable {q : CompiledQuery}

/-- Two marks lie apart, or a hyphen is behind one of their names in the other. -/
theorem pairwise_apart_or_hyphenExtends (hnodup : q.captureNames.Nodup)
    (hchars : ∀ name ∈ q.captureNames, IsCaptureName name) :
    (captureMarks q).Pairwise fun m m' => m.range.Apart m'.range ∨
      m.range.start = m'.range.start ∧
        (HyphenExtends m.captureName m'.captureName ∨
          HyphenExtends m'.captureName m.captureName) := by
  have hat : ∀ name ∈ q.captureNames, '@' ∉ name.toList :=
    fun name hmem => (hchars name hmem).at_notMem
  rw [captureMarks_eq, List.pairwise_flatMap]
  constructor
  · -- one name at two places
    rintro ⟨name, index⟩ hp
    have hname := hat name (List.fst_mem_of_mem_zipIdx hp)
    refine List.pairwise_map.2 ((pairwise_markOffsets q.source name).imp_of_mem ?_)
    intro o o' ho ho' hlt
    obtain ⟨front, back, h, rfl⟩ := (mem_markOffsets_iff hname).1 ho
    obtain ⟨front', back', h', rfl⟩ := (mem_markOffsets_iff hname).1 ho'
    refine .inl ((h.eq_or_apart h' hname hname index index).resolve_left ?_)
    rintro rfl
    exact Nat.lt_irrefl _ hlt
  · -- two names, perhaps at one place
    have hdistinct : q.captureNames.zipIdx.Pairwise fun p p' => p.1 ≠ p'.1 :=
      List.pairwise_map.1 (by rwa [List.zipIdx_map_fst])
    refine hdistinct.imp_of_mem ?_
    rintro ⟨name, index⟩ ⟨name', index'⟩ hp hp' hne m hm m' hm'
    have hmem := List.fst_mem_of_mem_zipIdx hp
    have hmem' := List.fst_mem_of_mem_zipIdx hp'
    obtain ⟨o, ho, rfl⟩ := List.mem_map.1 hm
    obtain ⟨o', ho', rfl⟩ := List.mem_map.1 hm'
    obtain ⟨front, back, h, rfl⟩ := (mem_markOffsets_iff (hat name hmem)).1 ho
    obtain ⟨front', back', h', rfl⟩ := (mem_markOffsets_iff (hat name' hmem')).1 ho'
    rcases h.eq_or_apart h' (hat name hmem) (hat name' hmem') index index' with rfl | hapart
    · exact .inr ⟨rfl, h.hyphenExtends h' hne (hchars name hmem) (hchars name' hmem')⟩
    · exact .inl hapart

/-- Where a name is marked that extends a declared one by a hyphen, both are marked. -/
theorem exists_marks_of_hyphenExtends {short long : String} {front back : List Char}
    (hchars : ∀ name ∈ q.captureNames, IsCaptureName name) (hshort : short ∈ q.captureNames)
    (hlong : long ∈ q.captureNames) (hextends : HyphenExtends short long)
    (h : IsNamedAt q.source long front back) :
    ∃ m ∈ captureMarks q, ∃ m' ∈ captureMarks q, m.captureName = short ∧
      m'.captureName = long ∧ m.range.start = Point.zero.afterChars front ∧
      m'.range.start = Point.zero.afterChars front := by
  obtain ⟨back', h'⟩ := h.of_hyphenExtends hextends
  obtain ⟨index, hget⟩ := List.getElem?_of_mem hshort
  obtain ⟨index', hget'⟩ := List.getElem?_of_mem hlong
  refine ⟨_, CaptureMark.at_mem_captureMarks hget (hchars short hshort).at_notMem h',
    _, CaptureMark.at_mem_captureMarks hget' (hchars long hlong).at_notMem h, rfl, rfl, ?_, ?_⟩
  · rw [h'.range_at]
  · rw [h.range_at]

end

/-- **Marks meet at hyphens only.** Let names be declared once and made of the characters of names.

* Two marks lie apart, or they start at one point and the name of one goes on with a hyphen where
  the name of the other ends.
* So all marks lie apart if no declared name extends another one by a hyphen.
* But wherever a name is marked that extends a declared one by a hyphen, that one is marked too. -/
theorem marks_meet_at_hyphens_only (q : CompiledQuery) (hnodup : q.captureNames.Nodup)
    (hchars : ∀ name ∈ q.captureNames, IsCaptureName name) :
    ((captureMarks q).Pairwise fun m m' => m.range.Apart m'.range ∨
      m.range.start = m'.range.start ∧
        (HyphenExtends m.captureName m'.captureName ∨
          HyphenExtends m'.captureName m.captureName)) ∧
    ((∀ short ∈ q.captureNames, ∀ long ∈ q.captureNames, ¬ HyphenExtends short long) →
      (captureMarks q).Pairwise fun m m' => m.range.Apart m'.range) ∧
    ∀ short ∈ q.captureNames, ∀ long ∈ q.captureNames, HyphenExtends short long →
      ∀ front back, IsNamedAt q.source long front back →
        ∃ m ∈ captureMarks q, ∃ m' ∈ captureMarks q, m.captureName = short ∧
          m'.captureName = long ∧ m.range.start = Point.zero.afterChars front ∧
          m'.range.start = Point.zero.afterChars front := by
  have hmeet := pairwise_apart_or_hyphenExtends hnodup hchars
  refine ⟨hmeet, fun hnone => hmeet.imp_of_mem ?_, ?_⟩
  · intro m m' hm hm' h
    refine h.resolve_right ?_
    obtain ⟨index, hget, -⟩ := exists_index_of_mem_captureMarks hm
    obtain ⟨index', hget', -⟩ := exists_index_of_mem_captureMarks hm'
    have hmem := List.mem_of_getElem? hget
    have hmem' := List.mem_of_getElem? hget'
    rintro ⟨-, hextends | hextends⟩
    · exact hnone _ hmem _ hmem' hextends
    · exact hnone _ hmem' _ hmem hextends
  · intro short hshort long hlong hextends front back h
    exact exists_marks_of_hyphenExtends hchars hshort hlong hextends h

/-- A query with two names, one of which extends the other by a hyphen. -/
def hyphenQuery : CompiledQuery := ⟨"json", "(array) @a-b (number) @a", ["a-b", "a"], [{}, {}]⟩

/-- A query in which a name goes on with all other characters of names. -/
def joinedQuery : CompiledQuery :=
  ⟨"json", "(array) @a.b (number) @a_b (string) @a", ["a.b", "a_b", "a"], [{}, {}, {}]⟩

/-- No two marks of these names meet. -/
theorem marks_meet_at_hyphens_only_joinedQuery :
    (captureMarks joinedQuery).length = 3 ∧
    (captureMarks joinedQuery).Pairwise fun m m' => m.range.Apart m'.range := by
  have hnone : ∀ short ∈ joinedQuery.captureNames, ∀ long ∈ joinedQuery.captureNames,
      ¬ HyphenExtends short long := by
    rintro short - long hlong ⟨more, heq⟩
    have hhyphen : ∀ name ∈ joinedQuery.captureNames, '-' ∉ name.toList := by decide
    refine hhyphen long hlong ?_
    rw [heq]
    simp
  exact ⟨by decide +kernel, (marks_meet_at_hyphens_only joinedQuery (by decide)
    (by decide +kernel)).2.1 hnone⟩

/-- At the first at sign both the name and its beginning are marked. -/
theorem hyphenated_name_marked_twice :
    hyphenQuery.captureNames.Nodup ∧
    (∀ name ∈ hyphenQuery.captureNames, IsCaptureName name) ∧
    captureMarks hyphenQuery =
      [⟨⟨⟨0, 8⟩, ⟨0, 12⟩⟩, ⟨1⟩, "a-b"⟩, ⟨⟨⟨0, 8⟩, ⟨0, 10⟩⟩, ⟨2⟩, "a"⟩,
        ⟨⟨⟨0, 22⟩, ⟨0, 24⟩⟩, ⟨2⟩, "a"⟩] ∧
    ¬ (captureMarks hyphenQuery).Pairwise fun m m' => m.range.Apart m'.range :=
  ⟨by decide, by decide +kernel, by decide +kernel, by decide +kernel⟩

end SyntaxInspector
