import SyntaxInspector.Proofs.Text.Offsets
import SyntaxInspector.Session.Query

/-!
# Bounds of queries

Clipping a range to an extent moves its start between the ends of the extent, and then its end
between the new start and the end of the extent. As long as the extent does not end before it
starts, neither limit is on the wrong side of the other, and what is left is what the two have in
common. A query asks for what lies within such a clipping to its text.

* `Point.clamp?`, `Range.clip?` — the same with limits on the wrong side refused;
* `Point.clamp_le_iff`, `Point.lt_clamp_iff` — the place of a clamped point;
* `Range.containsPoint_clip_iff` — what is left of a range;
* `CompiledQuery.bounds_clip_exactly` — clipping and the bounds of a query.
-/

namespace SyntaxInspector

/-! ### Clamping points -/

namespace Point

/-- The nearest point between two limits; refused if the upper one comes first. -/
def clamp? (p lo hi : Point) : Option Point := if lo ≤ hi then some (p.clamp lo hi) else none

variable {p q lo hi : Point}

theorem le_clamp (h : lo ≤ hi) : lo ≤ p.clamp lo hi := by
  unfold clamp
  split
  · exact le_refl lo
  · rename_i hp
    split
    · exact h
    · exact not_lt.1 hp

theorem clamp_le (h : lo ≤ hi) : p.clamp lo hi ≤ hi := by
  unfold clamp
  split
  · exact h
  · split
    · exact le_refl hi
    · rename_i hp
      exact not_lt.1 hp

theorem clamp_of_le_of_le (hlo : lo ≤ p) (hhi : p ≤ hi) : p.clamp lo hi = p := by
  rw [clamp, if_neg (not_lt.2 hlo), if_neg (not_lt.2 hhi)]

theorem clamp_of_le (h : lo ≤ hi) (hp : p ≤ lo) : p.clamp lo hi = lo := by
  unfold clamp
  split
  · rfl
  · rename_i hlo
    rw [le_antisymm hp (not_lt.1 hlo), if_neg (not_lt.2 h)]

theorem clamp_of_ge (h : lo ≤ hi) (hp : hi ≤ p) : p.clamp lo hi = hi := by
  rw [clamp, if_neg (not_lt.2 (le_trans h hp))]
  split
  · rfl
  · rename_i hhi
    exact le_antisymm (not_lt.1 hhi) hp

/-- What a clamped point is not behind: the lower limit is not, and the point or the upper limit is
not either. -/
theorem clamp_le_iff (h : lo ≤ hi) : p.clamp lo hi ≤ q ↔ lo ≤ q ∧ (p ≤ q ∨ hi ≤ q) := by
  unfold clamp
  split
  · simp only [le_def, lt_def] at *
    omega
  · split <;>
    · simp only [le_def, lt_def] at *
      omega

theorem lt_clamp_iff (h : lo ≤ hi) : q < p.clamp lo hi ↔ q < lo ∨ q < p ∧ q < hi := by
  have hclamp : q < p.clamp lo hi ↔ ¬ p.clamp lo hi ≤ q := by
    rw [← not_lt, Decidable.not_not]
  rw [hclamp, clamp_le_iff h, not_and_or, not_or]
  simp only [← not_lt, Decidable.not_not]

end Point

/-! ### Clipping ranges -/

namespace Range

/-- The part of a range inside `extent`; refused if a clamp is. -/
def clip? (r extent : Range) : Option Range := do
  let start ← r.start.clamp? extent.start extent.stop
  let stop ← r.stop.clamp? start extent.stop
  return ⟨start, stop⟩

variable {r extent : Range} {p : Point}

theorem containsPoint_iff : r.containsPoint p = true ↔ r.start ≤ p ∧ p < r.stop := by
  rw [containsPoint, Bool.and_eq_true, decide_eq_true_iff, decide_eq_true_iff]

theorem contains_iff {other : Range} :
    r.contains other = true ↔ r.start ≤ other.start ∧ other.stop ≤ r.stop := by
  rw [contains, Bool.and_eq_true, decide_eq_true_iff, decide_eq_true_iff]

theorem start_clip_le (h : extent.start ≤ extent.stop) : (r.clip extent).start ≤ extent.stop :=
  Point.clamp_le h

/-- Neither clamp is refused. -/
theorem clip?_eq_some (h : extent.start ≤ extent.stop) : r.clip? extent = some (r.clip extent) := by
  have hstart : r.start.clamp? extent.start extent.stop = some (r.clip extent).start := if_pos h
  have hstop : r.stop.clamp? (r.clip extent).start extent.stop = some (r.clip extent).stop :=
    if_pos (start_clip_le h)
  rw [clip?, hstart]
  change (r.stop.clamp? (r.clip extent).start extent.stop).bind _ = _
  rw [hstop]
  rfl

theorem start_le_stop_clip (h : extent.start ≤ extent.stop) :
    (r.clip extent).start ≤ (r.clip extent).stop :=
  Point.le_clamp (start_clip_le h)

theorem contains_clip (h : extent.start ≤ extent.stop) : extent.contains (r.clip extent) = true :=
  contains_iff.2 ⟨Point.le_clamp h, Point.clamp_le (start_clip_le h)⟩

/-- What is left of a range are the points that it has in common with the extent. -/
theorem containsPoint_clip_iff (h : extent.start ≤ extent.stop) :
    (r.clip extent).containsPoint p = true ↔
      r.containsPoint p = true ∧ extent.containsPoint p = true := by
  rw [containsPoint_iff, containsPoint_iff, containsPoint_iff]
  have hstart : (r.clip extent).start ≤ p ↔ extent.start ≤ p ∧ (r.start ≤ p ∨ extent.stop ≤ p) :=
    Point.clamp_le_iff h
  have hstop : p < (r.clip extent).stop ↔
      p < (r.clip extent).start ∨ p < r.stop ∧ p < extent.stop :=
    Point.lt_clamp_iff (start_clip_le h)
  constructor
  · rintro ⟨hle, hlt⟩
    -- the point is not before the new start, so it is before both ends
    obtain ⟨hlt, hlt'⟩ := (hstop.1 hlt).resolve_left (Point.not_lt.2 hle)
    obtain ⟨hle', hor⟩ := hstart.1 hle
    exact ⟨⟨hor.resolve_right fun hge => Point.not_lt.2 hge hlt', hlt⟩, hle', hlt'⟩
  · rintro ⟨⟨hle, hlt⟩, hle', hlt'⟩
    exact ⟨hstart.2 ⟨hle', .inl hle⟩, hstop.2 (.inr ⟨hlt, hlt'⟩)⟩

/-- A range inside the extent is left as it is. -/
theorem clip_of_inside (hr : r.start ≤ r.stop) (h : extent.contains r = true) :
    r.clip extent = r := by
  obtain ⟨hstart, hstop⟩ := contains_iff.1 h
  rw [clip, Point.clamp_of_le_of_le hstart (Point.le_trans hr hstop),
    Point.clamp_of_le_of_le hr hstop]

/-- Of a range around the extent the extent is left. -/
theorem clip_of_covers (h : extent.start ≤ extent.stop) (hr : r.contains extent = true) :
    r.clip extent = extent := by
  obtain ⟨hstart, hstop⟩ := contains_iff.1 hr
  rw [clip, Point.clamp_of_le h hstart, Point.clamp_of_ge h hstop]

theorem containsPoint_rows_iff {first last : Nat} :
    (rows first last).containsPoint p = true ↔ first ≤ p.row ∧ p.row < last := by
  simp only [containsPoint_iff, Point.le_def, Point.lt_def, rows]
  omega

end Range

/-! ### Bounds of queries -/

theorem start_le_stop_extentOf (text : String) : (extentOf text).start ≤ (extentOf text).stop :=
  Point.le_afterChars _ _

/-- The places of a text's characters lie in its extent. -/
theorem containsPoint_extentOf {text : String} {n : Nat} (h : n < text.utf8ByteSize) :
    (extentOf text).containsPoint (pointAt text .zero n) = true :=
  Range.containsPoint_iff.2 ⟨Point.le_afterChars _ _, pointAt_lt_advance .zero h⟩

namespace CompiledQuery

theorem effectiveBounds_none (text : String) : effectiveBounds text none = extentOf text :=
  Range.clip_of_inside (start_le_stop_extentOf text)
    (Range.contains_iff.2 ⟨Point.le_refl _, Point.le_refl _⟩)

/-- Bounds around the whole text are as good as none. -/
theorem effectiveBounds_of_covers {text : String} {bounds : Range}
    (h : bounds.contains (extentOf text) = true) :
    effectiveBounds text (some bounds) = effectiveBounds text none := by
  rw [effectiveBounds_none]
  exact Range.clip_of_covers (start_le_stop_extentOf text) h

theorem execute_of_covers {text : String} {bounds : Range}
    (h : bounds.contains (extentOf text) = true) (e : Engine) (q : CompiledQuery) (t : SyntaxTree) :
    execute e q t text (some bounds) = execute e q t text none := by
  rw [execute, execute, effectiveBounds_of_covers h]

end CompiledQuery

theorem Session.runQuery_of_covers {s : Session} {bounds : Range}
    (h : bounds.contains (extentOf s.text) = true) (e : Engine) :
    s.runQuery e (some bounds) = s.runQuery e none := by
  have hfound : ∀ q t, s.resolve e q t (some bounds) = s.resolve e q t none := by
    intro q t
    rw [resolve, resolve, CompiledQuery.execute_of_covers h]
  simp only [runQuery, hfound]

namespace CompiledQuery

theorem containsPoint_effectiveBounds_rows_iff {text : String} {first last : Nat} {p : Point} :
    (effectiveBounds text (some (.rows first last))).containsPoint p = true ↔
      (extentOf text).containsPoint p = true ∧ first ≤ p.row ∧ p.row < last := by
  have hclip : (effectiveBounds text (some (.rows first last))).containsPoint p = true ↔
      (Range.rows first last).containsPoint p = true ∧ (extentOf text).containsPoint p = true :=
    Range.containsPoint_clip_iff (start_le_stop_extentOf text)
  rw [hclip, Range.containsPoint_rows_iff, and_comm]

/-- **Clipping is intersection.** For every range, also one that ends before it starts, and every
extent that does not:

* no clamp of the clipping is refused, what is left does not end before it starts and lies inside
  the extent, and its points are those which the range and the extent have in common;
* clipping again changes nothing, and of a range around the extent the extent is left.

So for every text:

* the bounds of a query are clipped to the text without any clamp being refused, and a run asks the
  engine for what it captures in tree and text within the clipped bounds, each capture with the node
  of the tree that it is of;
* when whole rows are asked for, a place of the text is within the bounds just if it is on one of
  them, and so are the places of all its characters;
* a query run within bounds around the whole text is the same as one without bounds, and so is the
  run of a session's query. -/
theorem bounds_clip_exactly :
    (∀ r extent : Range, extent.start ≤ extent.stop →
      r.clip? extent = some (r.clip extent) ∧
      (r.clip extent).start ≤ (r.clip extent).stop ∧
      extent.contains (r.clip extent) = true ∧
      (∀ p, (r.clip extent).containsPoint p = true ↔
        r.containsPoint p = true ∧ extent.containsPoint p = true) ∧
      (r.clip extent).clip extent = r.clip extent ∧
      (r.contains extent = true → r.clip extent = extent)) ∧
    ∀ text : String,
      (∀ bounds : Option Range, (bounds.getD (extentOf text)).clip? (extentOf text) =
        some (effectiveBounds text bounds)) ∧
      (∀ e q t bounds, ∃ clipped,
        (bounds.getD (extentOf text)).clip? (extentOf text) = some clipped ∧
        execute e q t text bounds =
          (e.captures q.grammar q.source ⟨t, text⟩ clipped).filterMap fun raw =>
            (t.node? raw.node).map (⟨raw.pattern, raw.capture, ·⟩)) ∧
      (∀ first last p, (extentOf text).containsPoint p = true →
        ((effectiveBounds text (some (.rows first last))).containsPoint p = true ↔
          first ≤ p.row ∧ p.row < last)) ∧
      (∀ first last n, n < text.utf8ByteSize →
        ((effectiveBounds text (some (.rows first last))).containsPoint (pointAt text .zero n) =
          true ↔ first ≤ (pointAt text .zero n).row ∧ (pointAt text .zero n).row < last)) ∧
      ∀ bounds : Range, bounds.contains (extentOf text) = true →
        (∀ e q t, execute e q t text (some bounds) = execute e q t text none) ∧
        ∀ e (s : Session), s.text = text → s.runQuery e (some bounds) = s.runQuery e none := by
  refine ⟨fun r extent h => ⟨Range.clip?_eq_some h, Range.start_le_stop_clip h,
    Range.contains_clip h, fun p => Range.containsPoint_clip_iff h,
    Range.clip_of_inside (Range.start_le_stop_clip h) (Range.contains_clip h),
    Range.clip_of_covers h⟩, fun text => ⟨fun bounds => ?_, fun e q t bounds => ?_,
    fun first last p h => ?_, fun first last n h => ?_,
    fun bounds h => ⟨execute_of_covers h, ?_⟩⟩⟩
  · exact Range.clip?_eq_some (start_le_stop_extentOf text)
  · exact ⟨_, Range.clip?_eq_some (start_le_stop_extentOf text), rfl⟩
  · rw [containsPoint_effectiveBounds_rows_iff, and_iff_right h]
  · rw [containsPoint_effectiveBounds_rows_iff, and_iff_right (containsPoint_extentOf h)]
  · rintro e s rfl
    exact Session.runQuery_of_covers h e

/-- An engine that captures the root, under the numbers of the first and the last row within the
bounds. -/
def rowsEngine : Engine :=
  { Engine.none with captures := fun _ _ _ bounds => [⟨bounds.start.row, bounds.stop.row, 0⟩] }

/-- A tree of one node. -/
def loneTree : SyntaxTree :=
  ⟨0, .mk ⟨"document", true, false, none, ⟨⟨0, 0⟩, ⟨2, 1⟩⟩, 0, 6, .plain 0⟩ [], []⟩

/-- A range that ends before it starts is clipped to nothing, and of one that starts before an
extent the common part is left. In a text of three rows, asking for the second keeps what is on it
and has the engine asked for it, and rows that reach past the end are as good as no bounds. -/
theorem bounds_clip_exactly_threeRows :
    (⟨⟨7, 0⟩, ⟨1, 0⟩⟩ : Range).clip? ⟨⟨0, 0⟩, ⟨3, 4⟩⟩ = some ⟨⟨3, 4⟩, ⟨3, 4⟩⟩ ∧
    (⟨⟨0, 9⟩, ⟨2, 0⟩⟩ : Range).clip ⟨⟨1, 1⟩, ⟨3, 4⟩⟩ = ⟨⟨1, 1⟩, ⟨2, 0⟩⟩ ∧
    ((⟨⟨0, 9⟩, ⟨2, 0⟩⟩ : Range).clip ⟨⟨1, 1⟩, ⟨3, 4⟩⟩).containsPoint ⟨1, 5⟩ = true ∧
    (effectiveBounds "é\na\nb" (some (.rows 1 2))).containsPoint (pointAt "é\na\nb" .zero 3) =
      true ∧
    (effectiveBounds "é\na\nb" (some (.rows 1 2))).containsPoint ⟨0, 1⟩ = false ∧
    (execute rowsEngine ⟨"json", "(document) @d", ["d"], [{}]⟩ loneTree "é\na\nb"
      (some (.rows 1 2))).map (fun c => (c.patternIndex, c.nameIndex)) = [(1, 2)] ∧
    (execute rowsEngine ⟨"json", "(document) @d", ["d"], [{}]⟩ loneTree "é\na\nb"
      (some (.rows 1 99))).map (fun c => (c.patternIndex, c.nameIndex)) = [(1, 2)] ∧
    ∀ e q t, execute e q t "é\na\nb" (some (.rows 0 99)) = execute e q t "é\na\nb" none := by
  obtain ⟨hclip, htext⟩ := bounds_clip_exactly
  obtain ⟨-, hrun, hrows, hplaces, hcovers⟩ := htext "é\na\nb"
  have hinverted := (hclip ⟨⟨7, 0⟩, ⟨1, 0⟩⟩ ⟨⟨0, 0⟩, ⟨3, 4⟩⟩ (by decide)).1
  obtain ⟨-, -, -, hcommon, -⟩ := hclip ⟨⟨0, 9⟩, ⟨2, 0⟩⟩ ⟨⟨1, 1⟩, ⟨3, 4⟩⟩ (by decide)
  -- what the engine is asked for are the rows after clipping
  have hasked : ∀ bounds clipped, (Range.clip? bounds (extentOf "é\na\nb")) = some clipped →
      (execute rowsEngine ⟨"json", "(document) @d", ["d"], [{}]⟩ loneTree "é\na\nb"
        (some bounds)).map (fun c => (c.patternIndex, c.nameIndex)) =
          [(clipped.start.row, clipped.stop.row)] := by
    intro bounds clipped hclipped
    obtain ⟨clipped', hclipped', hexecute⟩ := hrun rowsEngine
      ⟨"json", "(document) @d", ["d"], [{}]⟩ loneTree (some bounds)
    obtain rfl : clipped = clipped' := Option.some.inj (hclipped.symm.trans hclipped')
    rw [hexecute]
    rfl
  refine ⟨hinverted.trans (by decide), by decide, (hcommon _).2 (by decide),
    (hplaces 1 2 3 (by decide)).2 (by decide), ?_, hasked _ ⟨⟨1, 0⟩, ⟨2, 0⟩⟩ (by decide),
    hasked _ ⟨⟨1, 0⟩, ⟨2, 1⟩⟩ (by decide), (hcovers (.rows 0 99) (by decide)).1⟩
  exact Bool.eq_false_iff.2 ((hrows 1 2 ⟨0, 1⟩ (by decide)).not.2 (by decide))

end CompiledQuery

end SyntaxInspector
