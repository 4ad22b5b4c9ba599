import SyntaxInspector.Text.Bytes

/-!
# Boundaries, points and slices

A byte offset of a text is a boundary if some leading characters have just that many bytes. Then its
point is the one these characters lead to, and two boundaries in order have a slice between them.
Points follow offsets: later offsets never have earlier points, and along one row the column moves
as far as the offset does.

* `byteLength_toList` — the bytes of a text;
* `charsBefore_eq` — looking back for a boundary finds the longest leading part that fits;
* `pointAt_of_append` — the point of a boundary;
* `pointAt_mono` — points follow offsets;
* `IsBoundary.isWithin_of_le` — two boundaries in order have characters between them;
* `slice?_eq_some_iff` — slices are these characters;
* `IsBoundary.column_eq` — columns along one row.
-/

namespace SyntaxInspector

/-! ### Bytes of texts -/

theorem byteLength_eq_utf8ByteSize (cs : List Char) :
    byteLength cs = (String.ofList cs).utf8ByteSize := by
  induction cs with
  | nil => rfl
  | cons c cs ih =>
    rw [byteLength_cons, ih, String.ofList_cons, String.utf8ByteSize_append,
      String.utf8ByteSize_singleton]

theorem byteLength_toList (s : String) : byteLength s.toList = s.utf8ByteSize := by
  rw [byteLength_eq_utf8ByteSize, String.ofList_toList]

/-! ### The longest part that fits -/

/-- The longest run of leading characters with at most `n` bytes. -/
def takeBytes : List Char → Nat → List Char
  | [], _ => []
  | c :: cs, n => if c.utf8Size ≤ n then c :: takeBytes cs (n - c.utf8Size) else []

/-- What is taken are leading characters. -/
theorem takeBytes_append (cs : List Char) (n : Nat) : ∃ back, takeBytes cs n ++ back = cs := by
  induction cs generalizing n with
  | nil => exact ⟨[], rfl⟩
  | cons c cs ih =>
    rw [takeBytes]
    split
    · obtain ⟨back, h⟩ := ih (n - c.utf8Size)
      exact ⟨back, by rw [List.cons_append, h]⟩
    · exact ⟨c :: cs, rfl⟩

theorem byteLength_takeBytes_le (cs : List Char) (n : Nat) : byteLength (takeBytes cs n) ≤ n := by
  induction cs generalizing n with
  | nil => simp [takeBytes]
  | cons c cs ih =>
    rw [takeBytes]
    split
    · have := ih (n - c.utf8Size)
      simp only [byteLength_cons]
      omega
    · simp

theorem takeBytes_append_byteLength (front back : List Char) :
    takeBytes (front ++ back) (byteLength front) = front := by
  induction front with
  | nil =>
    cases back with
    | nil => rfl
    | cons c cs =>
      have hpos := c.utf8Size_pos
      rw [List.nil_append, byteLength_nil, takeBytes, if_neg (by omega)]
  | cons c cs ih =>
    rw [List.cons_append, byteLength_cons, takeBytes, if_pos (Nat.le_add_right _ _),
      Nat.add_sub_cancel_left, ih]

theorem takeBytes_isPrefix (cs : List Char) {m n : Nat} (h : m ≤ n) :
    takeBytes cs m <+: takeBytes cs n := by
  induction cs generalizing m n with
  | nil => exact List.nil_prefix
  | cons c cs ih =>
    rw [takeBytes, takeBytes]
    by_cases hm : c.utf8Size ≤ m
    · have hn : c.utf8Size ≤ n := by omega
      rw [if_pos hm, if_pos hn]
      exact (List.cons_prefix_cons).2 ⟨rfl, ih (by omega)⟩
    · rw [if_neg hm]
      exact List.nil_prefix

/-- What starts the part that is taken: all that starts the text and has no more bytes. -/
theorem isPrefix_takeBytes_iff {front cs : List Char} {n : Nat} :
    front <+: takeBytes cs n ↔ front <+: cs ∧ byteLength front ≤ n := by
  constructor
  · intro h
    have hlength := byteLength_takeBytes_le cs n
    obtain ⟨more, hmore⟩ := h
    rw [← hmore, byteLength_append] at hlength
    exact ⟨(List.prefix_append _ more).trans (hmore ▸ takeBytes_append cs n), by omega⟩
  · rintro ⟨⟨back, rfl⟩, hle⟩
    have hprefix := takeBytes_isPrefix (front ++ back) hle
    rwa [takeBytes_append_byteLength] at hprefix

theorem takeBytes_of_byteLength_le {cs : List Char} {n : Nat} (h : byteLength cs ≤ n) :
    takeBytes cs n = cs := by
  have htaken : takeBytes cs n <+: cs := takeBytes_append cs n
  have hall : cs <+: takeBytes cs n := isPrefix_takeBytes_iff.2 ⟨List.prefix_rfl, h⟩
  exact htaken.eq_of_length_le hall.length_le

/-! ### Cutting at a boundary -/

theorem cutAt?_append_byteLength (front back : List Char) :
    cutAt? (front ++ back) (byteLength front) = some (front, back) := by
  induction front with
  | nil => simp [cutAt?]
  | cons c cs ih =>
    have hpos := c.utf8Size_pos
    obtain ⟨n, hn⟩ : ∃ n, c.utf8Size + byteLength cs = n + 1 := ⟨_, (Nat.succ_pred (by omega)).symm⟩
    have hrest : n + 1 - c.utf8Size = byteLength cs := by omega
    rw [List.cons_append, byteLength_cons, hn, cutAt?, if_pos (by omega), hrest, ih]
    rfl

variable {text : List Char} {m n : Nat}

theorem isSome_cutAt?_iff : (cutAt? text n).isSome = true ↔ IsBoundary text n := by
  constructor
  · intro h
    obtain ⟨⟨front, back⟩, hcut⟩ := Option.isSome_iff_exists.1 h
    obtain ⟨rfl, rfl⟩ := cutAt?_eq_some hcut
    exact ⟨front, back, rfl, rfl⟩
  · rintro ⟨front, back, rfl, rfl⟩
    rw [cutAt?_append_byteLength]
    rfl

instance : Decidable (IsBoundary text n) := decidable_of_iff _ isSome_cutAt?_iff

theorem IsBoundary.le_byteLength (h : IsBoundary text n) : n ≤ byteLength text := by
  obtain ⟨front, back, rfl, rfl⟩ := h
  rw [byteLength_append]
  exact Nat.le_add_right _ _

/-- Leading characters are as long as their boundary says. -/
theorem IsBoundary.takeBytes_append (h : IsBoundary text n) :
    ∃ back, text = takeBytes text n ++ back ∧ byteLength (takeBytes text n) = n := by
  obtain ⟨front, back, rfl, rfl⟩ := h
  rw [takeBytes_append_byteLength]
  exact ⟨back, rfl, rfl⟩

/-- Two boundaries in order have characters between them. -/
theorem IsBoundary.isWithin_of_le (hm : IsBoundary text m) (hn : IsBoundary text n) (h : m ≤ n) :
    IsWithin text (m, n) := by
  obtain ⟨_, -, hlength⟩ := hm.takeBytes_append
  obtain ⟨back, htext, hlength'⟩ := hn.takeBytes_append
  obtain ⟨middle, hmiddle⟩ := takeBytes_isPrefix text h
  refine ⟨takeBytes text m, middle, back, ?_, hlength, ?_⟩
  · rw [hmiddle]
    exact htext
  · rw [hmiddle]
    exact hlength'

theorem IsWithin.boundaries {i : ByteSpan} (h : IsWithin text i) :
    IsBoundary text i.1 ∧ IsBoundary text i.2 ∧ i.1 ≤ i.2 := by
  obtain ⟨front, middle, back, rfl, hstart, hstop⟩ := h
  refine ⟨⟨front, middle ++ back, List.append_assoc _ _ _, hstart⟩,
    ⟨front ++ middle, back, rfl, hstop⟩, ?_⟩
  rw [byteLength_append] at hstop
  omega

/-! ### Looking back for a boundary -/

theorem isBoundary_takeBytes (cs : List Char) (n : Nat) :
    IsBoundary cs (byteLength (takeBytes cs n)) := by
  obtain ⟨back, hback⟩ := takeBytes_append cs n
  exact ⟨takeBytes cs n, back, hback.symm, rfl⟩

/-- An offset that is no boundary leaves no more characters before it than the offset before. -/
theorem takeBytes_succ_of_not_isBoundary {cs : List Char} {n : Nat} (h : ¬ IsBoundary cs (n + 1)) :
    takeBytes cs (n + 1) = takeBytes cs n := by
  have hle := byteLength_takeBytes_le cs (n + 1)
  have hne : byteLength (takeBytes cs (n + 1)) ≠ n + 1 :=
    fun heq => h (heq ▸ isBoundary_takeBytes cs (n + 1))
  have hfits : takeBytes cs (n + 1) <+: takeBytes cs n :=
    isPrefix_takeBytes_iff.2 ⟨takeBytes_append cs (n + 1), by omega⟩
  exact hfits.eq_of_length_le (takeBytes_isPrefix cs (Nat.le_succ n)).length_le

/-- Step by step back from any offset the first boundary is the end of the longest leading part that
fits. -/
theorem lastBoundary_eq (cs : List Char) (n : Nat) :
    lastBoundary cs n = byteLength (takeBytes cs n) := by
  induction n with
  | zero => exact (Nat.le_zero.1 (byteLength_takeBytes_le cs 0)).symm
  | succ n ih =>
    rw [lastBoundary]
    split
    · rename_i hcut
      obtain ⟨-, -, hlength⟩ := (isSome_cutAt?_iff.1 hcut).takeBytes_append
      exact hlength.symm
    · rename_i hcut
      rw [ih, takeBytes_succ_of_not_isBoundary fun hb => hcut (isSome_cutAt?_iff.2 hb)]

/-- Looking back from the offset, or from the end, and reading on from the start find the same
characters. -/
theorem charsBefore_eq (cs : List Char) (n : Nat) : charsBefore cs n = takeBytes cs n := by
  have hmin : takeBytes cs (min n (byteLength cs)) = takeBytes cs n := by
    rcases Nat.le_total n (byteLength cs) with hle | hle
    · rw [Nat.min_eq_left hle]
    · rw [Nat.min_eq_right hle, takeBytes_of_byteLength_le (Nat.le_refl _),
        takeBytes_of_byteLength_le hle]
  obtain ⟨back, hback⟩ := takeBytes_append cs n
  have hcut := cutAt?_append_byteLength (takeBytes cs n) back
  rw [hback] at hcut
  rw [charsBefore, lastBoundary_eq, hmin, hcut]
  rfl

theorem pointAt_eq (s : String) (base : Point) (n : Nat) :
    pointAt s base n = base.afterChars (takeBytes s.toList n) := by
  rw [pointAt, charsBefore_eq]

/-! ### Slices -/

/-- A slice is what lies between two boundaries. -/
theorem sliceChars?_eq_some_iff {piece : List Char} :
    sliceChars? text m n = some piece ↔
      ∃ front back, text = front ++ piece ++ back ∧ byteLength front = m ∧
        byteLength (front ++ piece) = n := by
  constructor
  · intro h
    unfold sliceChars? at h
    split at h
    · rename_i hle
      obtain ⟨⟨front, rest⟩, hcut, h⟩ := Option.bind_eq_some_iff.1 h
      obtain ⟨⟨front', back⟩, hcut', h⟩ := Option.bind_eq_some_iff.1 h
      cases h
      obtain ⟨rfl, hstart⟩ := cutAt?_eq_some hcut
      obtain ⟨rfl, hlength⟩ := cutAt?_eq_some hcut'
      refine ⟨front, back, (List.append_assoc _ _ _).symm, hstart, ?_⟩
      rw [byteLength_append, hstart, hlength]
      omega
    · cases h
  · rintro ⟨front, back, rfl, rfl, rfl⟩
    have hrest : byteLength (front ++ piece) - byteLength front = byteLength piece := by
      rw [byteLength_append, Nat.add_sub_cancel_left]
    have hle : byteLength front ≤ byteLength (front ++ piece) := by
      rw [byteLength_append]
      exact Nat.le_add_right _ _
    rw [sliceChars?, if_pos hle, hrest, List.append_assoc, cutAt?_append_byteLength]
    change ((cutAt? (piece ++ back) (byteLength piece)).bind fun r => some r.1) = some piece
    rw [cutAt?_append_byteLength]
    rfl

theorem slice?_eq_some_iff {s piece : String} :
    slice? s m n = some piece ↔
      ∃ front back, s.toList = front ++ piece.toList ++ back ∧ byteLength front = m ∧
        byteLength (front ++ piece.toList) = n := by
  rw [slice?, Option.map_eq_some_iff, ← sliceChars?_eq_some_iff]
  constructor
  · rintro ⟨cs, hcs, rfl⟩
    rwa [String.toList_ofList]
  · intro h
    exact ⟨piece.toList, h, String.ofList_toList⟩

/-- Two boundaries in order have a slice between them. -/
theorem IsBoundary.exists_slice? {s : String} (hm : IsBoundary s.toList m)
    (hn : IsBoundary s.toList n) (h : m ≤ n) : ∃ piece, slice? s m n = some piece := by
  obtain ⟨front, middle, back, htext, hstart, hstop⟩ := hm.isWithin_of_le hn h
  refine ⟨String.ofList middle, slice?_eq_some_iff.2 ⟨front, back, ?_⟩⟩
  rw [String.toList_ofList]
  exact ⟨htext, hstart, hstop⟩

/-! ### Points of boundaries -/

namespace Point

theorem le_step (p : Point) (c : Char) : p ≤ p.step c := by
  rw [step, le_def]
  split
  · exact .inl (Nat.lt_succ_self _)
  · exact .inr ⟨rfl, Nat.le_add_right _ _⟩

/-- Writing a text never leads back. -/
theorem le_afterChars (p : Point) (cs : List Char) : p ≤ p.afterChars cs := by
  induction cs generalizing p with
  | nil => exact le_refl p
  | cons c cs ih => exact le_trans (le_step p c) (ih _)

theorem lt_of_le_of_lt {p q r : Point} (hpq : p ≤ q) (hqr : q < r) : p < r := by
  simp only [lt_def, le_def] at *
  omega

/-- Writing a text that is not empty leads forward. -/
theorem lt_afterChars (p : Point) {cs : List Char} (h : cs ≠ []) : p < p.afterChars cs := by
  obtain ⟨front, c, rfl⟩ := List.eq_nil_or_concat cs |>.resolve_left h
  have hstep : ∀ q : Point, q < q.step c := by
    intro q
    have hpos := c.utf8Size_pos
    rw [step, lt_def]
    split
    · exact .inl (Nat.lt_succ_self _)
    · exact .inr ⟨rfl, Nat.lt_add_of_pos_right hpos⟩
  rw [List.concat_eq_append, afterChars_append]
  exact lt_of_le_of_lt (le_afterChars p front) (hstep _)

/-- A text that stays on a row moves the column by its length. -/
theorem afterChars_of_row_eq {p : Point} {cs : List Char} (h : (p.afterChars cs).row = p.row) :
    p.afterChars cs = ⟨p.row, p.column + byteLength cs⟩ := by
  induction cs generalizing p with
  | nil => rfl
  | cons c cs ih =>
    rw [afterChars_cons] at h ⊢
    have hle := le_afterChars (p.step c) cs
    rw [le_def] at hle
    by_cases hc : c = '\n'
    · -- a line feed would have led to a later row
      have hrow : (p.step c).row = p.row + 1 := by rw [step, if_pos hc]
      omega
    · have hstep : p.step c = ⟨p.row, p.column + c.utf8Size⟩ := by rw [step, if_neg hc]
      rw [hstep] at h ⊢
      rw [ih h, byteLength_cons, Nat.add_assoc]

theorem column_afterChars_le (p : Point) (cs : List Char) :
    (p.afterChars cs).column ≤ p.column + byteLength cs := by
  induction cs generalizing p with
  | nil => exact Nat.le_add_right _ _
  | cons c cs ih =>
    have hstep : (p.step c).column ≤ p.column + c.utf8Size := by
      rw [step]
      split
      · exact Nat.zero_le _
      · exact Nat.le_refl _
    have := ih (p.step c)
    rw [afterChars_cons, byteLength_cons]
    omega

end Point

variable {s : String}

/-- The point of a boundary is where the characters before it lead. -/
theorem pointAt_of_append {front back : List Char} (h : s.toList = front ++ back) (base : Point) :
    pointAt s base (byteLength front) = base.afterChars front := by
  rw [pointAt_eq, h, takeBytes_append_byteLength]

/-- A later offset has no earlier point. -/
theorem pointAt_mono (s : String) (base : Point) (h : m ≤ n) :
    pointAt s base m ≤ pointAt s base n := by
  obtain ⟨more, hmore⟩ := takeBytes_isPrefix s.toList h
  rw [pointAt_eq, pointAt_eq, ← hmore, Point.afterChars_append]
  exact Point.le_afterChars _ _

/-- From a boundary on, a text is read as if it started there. -/
theorem pointAt_append {front middle back : List Char}
    (h : s.toList = front ++ middle ++ back) (base : Point) :
    pointAt s base (byteLength (front ++ middle)) =
      (pointAt s base (byteLength front)).afterChars middle := by
  rw [pointAt_of_append h, Point.afterChars_append]
  rw [List.append_assoc] at h
  rw [pointAt_of_append h]

/-- Along one row the column moves as far as the offset does. -/
theorem IsBoundary.column_eq (hm : IsBoundary s.toList m) (hn : IsBoundary s.toList n) (h : m ≤ n)
    (hrow : (pointAt s .zero n).row = (pointAt s .zero m).row) :
    (pointAt s .zero n).column = (pointAt s .zero m).column + (n - m) := by
  obtain ⟨front, middle, back, htext, rfl, rfl⟩ := hm.isWithin_of_le hn h
  rw [pointAt_append htext] at hrow ⊢
  rw [Point.afterChars_of_row_eq hrow, byteLength_append, Nat.add_sub_cancel_left]

theorem column_pointAt_le (s : String) (n : Nat) : (pointAt s .zero n).column ≤ n := by
  have hcolumn := Point.column_afterChars_le .zero (takeBytes s.toList n)
  have hlength := byteLength_takeBytes_le s.toList n
  have hzero : Point.zero.column = 0 := rfl
  rw [pointAt_eq]
  omega

end SyntaxInspector
