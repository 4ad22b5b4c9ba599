import SyntaxInspector.Session.Basic

/-!
# Cursor and rows of a session

* `Session.moveCursor` — follows the host's cursor;
* `Session.selectRow` — makes the node of a row the active one;
* `Session.nodeAt` — the node at a point.
-/

namespace SyntaxInspector

namespace Session

/-- Makes the innermost node around a selection the active one. -/
def track (s : Session) (selection : Range) : Session :=
  match s.activeTree? with
  | none => s
  | some t =>
    let node := t.root.atRange selection s.options.showAnonymous
    { s with activeNode := some node, highlightedRow := s.rows.rowOf? node.id }

/-- Follows the host's cursor, unless a render is in progress or the movement is the echo of the
last row selected. -/
def moveCursor (s : Session) (selection : Range) : Session × Option Nat :=
  let echoed := s.pendingEcho == some selection
  let s := { s with selection := some selection, pendingEcho := none }
  let s := if echoed || s.inFlight.isSome then s else s.track selection
  (s, s.highlightedRow)

/-- Makes the node of a row the active one and gives its range, for the host to select. -/
def selectRow (s : Session) (index : Nat) : Session × Except SessionError Range :=
  let s := { s with pendingEcho := none }
  match s.rows.get? index with
  | none => (s, .error (.nodeNotFound (.row index)))
  | some row =>
    match s.activeTree? with
    | none => (s, .error (.noActiveTree s.activeLayer.id))
    | some t =>
      match t.root.withIdAt? row.range.start row.id with
      | none => (s, .error (.nodeNotFound (.node row.id)))
      | some node =>
        ({ s with
          activeNode := some node
          highlightedRow := some index
          pendingEcho := some node.range },
          .ok node.range)

/-- The innermost node at a point. -/
def nodeAt (s : Session) (p : Point) : Except SessionError NodeInfo :=
  match s.activeTree? with
  | none => .error (.noActiveTree s.activeLayer.id)
  | some t => .ok (t.root.atPoint p s.options.showAnonymous)

end Session

end SyntaxInspector
