import SyntaxInspector.Query.Compiled

/-!
# Adjusted spans

A span is a pair of anchors, so it can be moved by rows and columns and searched by bytes.

* `Anchor.shift` — a move along the row, points and bytes together;
* `Span.adjust?` — one adjustment;
* `Span.adjustAll?` — all adjustments of a capture, in order.
-/

namespace SyntaxInspector

/-- An unsigned 64-bit word read as a signed one. -/
def signedWord (n : Nat) : Int := Int.bmod n wordCount

/-- Moves an anchor along its row. The byte offset moves as far as the column did, the distance
being a signed 64-bit word. -/
def Anchor.shift (a : Anchor) (delta : Int) : Anchor :=
  let point := a.point.offsetColumn delta
  let moved := Int.bmod (signedWord point.column - signedWord a.point.column) wordCount
  ⟨point, clampWord (a.byte + moved)⟩

/-- The part of a document between two anchors. -/
structure Span where
  /-- Where it starts. -/
  start : Anchor
  /-- Where it ends. -/
  stop : Anchor
  deriving DecidableEq, Inhabited

namespace Span

/-- The span of a node. -/
def ofNode (d : NodeData) : Span := ⟨d.startAnchor, d.endAnchor⟩

/-- The points of a span. -/
def range (s : Span) : Range := ⟨s.start.point, s.stop.point⟩

/-- The anchors of the first match of a regular expression within a span; none if the span's bytes
are no slice of the text or nothing matches. -/
def firstMatch? (s : Span) (r : Regex) (text : String) : Option Span := do
  let piece ← slice? text s.start.byte s.stop.byte
  let (a, b) ← r.find piece
  let anchor := fun offset => (⟨pointAt piece s.start.point offset, s.start.byte + offset⟩ : Anchor)
  return ⟨anchor a, anchor b⟩

/-- Applies one adjustment for a captured node; `none` when it leads nowhere. -/
def adjust? (s : Span) (t : SyntaxTree) (c : Cursor) (text : String) : Adjustment → Option Span
  | .startAt d => (d.resolve? t c .start).map ({ s with start := · })
  | .endAt d => (d.resolve? t c .stop).map ({ s with stop := · })
  | .offsetStart delta => some { s with start := s.start.shift delta }
  | .offsetEnd delta => some { s with stop := s.stop.shift delta }
  | .aroundMatch r => s.firstMatch? r text
  | .startBeforeMatch r => (s.firstMatch? r text).map fun m => { s with start := m.start }
  | .endAfterMatch r => (s.firstMatch? r text).map fun m => { s with stop := m.stop }

/-- Applies adjustments in order. -/
def adjustAll? (t : SyntaxTree) (c : Cursor) (text : String) : Span → List Adjustment → Option Span
  | s, [] => some s
  | s, a :: rest => (s.adjust? t c text a).bind fun s => adjustAll? t c text s rest

end Span

end SyntaxInspector
