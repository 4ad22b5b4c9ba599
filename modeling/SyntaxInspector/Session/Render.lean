import SyntaxInspector.Session.Position
import SyntaxInspector.Session.Query

/-!
# Rendering and layers of a session

A render of the active layer is begun, run by the host in slices, and taken over when it is done.
It is stale as soon as another render has begun, the document has changed or another layer is
active, and stale rows are not taken over.

* `Session.beginRender`, `Session.finishRender`, `Session.update` — rendering;
* `Session.documentChanged`, `Session.setActiveLayer` — changes of what is inspected;
* `Session.setShowAnonymous`, `Session.setShowInjectionRanges` — options.
-/

namespace SyntaxInspector

namespace Session

/-! ### Rendering -/

/-- Makes every render begun so far stale. -/
def invalidateRender (s : Session) : Session :=
  { s with counter := s.counter.next, inFlight := none }

/-- Begins a render of the active layer, on a copy of its tree. -/
def beginRender (s : Session) : Session × Except SessionError Job :=
  match s.activeTree? with
  | none => (s, .error (.noActiveTree s.activeLayer.id))
  | some t =>
    let counter := s.counter.next
    ({ s with counter, inFlight := some counter.current },
      .ok ⟨some t.copy.root, s.options.render, counter.token, {}⟩)

/-- Whether rows come from the render in progress. -/
def isCurrent (s : Session) (rows : RowSequence) : Bool :=
  s.inFlight == some rows.generation && s.counter.current == rows.generation

/-- Finds the active node, or the node under the cursor if there was one, in the rows. -/
def retrack (s : Session) : Session :=
  match s.selection with
  | some selection => s.track selection
  | none => { s with highlightedRow := s.activeNode.bind fun n => s.rows.rowOf? n.id }

/-- Runs the query again, if there is one. -/
def rerunQuery (e : Engine) (s : Session) : Session :=
  if s.query.isSome then (runQuery e s none).1 else s

/-- Takes over the rows of a render; whether they were not stale. All that depends on the rows is
found anew. -/
def finishRender (e : Engine) (s : Session) (rows : RowSequence) : Session × Bool :=
  if s.isCurrent rows then
    let s := { s with inFlight := none, pendingEcho := none, rows }
    let s := (s.retrack.rerunQuery e).refreshOverlay
    (s.emit (.renderComplete rows.generation rows.size), true)
  else (s, false)

/-- Renders the active layer from start to end. -/
def update (e : Engine) (s : Session) : Session × Except SessionError RowSequence :=
  match s.beginRender with
  | (s, .error err) => (s, .error err)
  | (s, .ok job) =>
    let s := match job.finish s.counter with
      | some rows => (s.finishRender e rows).1
      | none => s
    (s, .ok s.rows)

/-! ### Layers -/

/-- Forgets all that comes from the layer that was active. -/
def clearLayerState (s : Session) : Session :=
  { s.clearQuery with rows := {}, activeNode := none, highlightedRow := none, pendingEcho := none }

/-- Takes in a changed document. If the active layer has vanished, the root becomes active. -/
def documentChanged (s : Session) (snapshot : Snapshot) : Session :=
  let s := { s with text := snapshot.text }.invalidateRender
  match s.registry.refresh snapshot with
  | (registry, none) => { s with registry }.refreshOverlay
  | (registry, some previous) =>
    (({ s with registry }.clearLayerState.hideOverlayAtRoot).emit
      (.activeLayerChanged previous .root true)).refreshOverlay

/-- Makes a layer the active one. -/
def setActiveLayer (s : Session) (id : LayerId) : Session × Except SessionError Unit :=
  if (s.registry.find? id).isNone then (s, .error (.layerNotFound id))
  else if s.registry.active = id then (s, .ok ())
  else
    let previous := s.registry.active
    let s := { s with registry := { s.registry with active := id } }
    let s := s.invalidateRender.clearLayerState.hideOverlayAtRoot.refreshOverlay
    (s.emit (.activeLayerChanged previous id false), .ok ())

/-! ### Options -/

/-- Shows anonymous nodes or not, from the next render on. -/
def setShowAnonymous (s : Session) (shown : Bool) : Session :=
  if s.options.showAnonymous = shown then s
  else { s with options := { s.options with showAnonymous := shown } }.invalidateRender

/-- Marks the ranges of injected layers or not; whether they are marked now. -/
def setShowInjectionRanges (s : Session) (shown : Bool) : Session × Bool :=
  let s := { s with options := { s.options with showInjectionRanges := shown } }
  let s := s.hideOverlayAtRoot.refreshOverlay
  (s, s.options.showInjectionRanges)

/-! ### Events -/

/-- Adds a subscriber and gives its handle. -/
def subscribe (s : Session) : Session × Nat :=
  let (events, handle) := s.events.subscribe
  ({ s with events }, handle)

/-- Removes a subscriber; whether there was one. -/
def unsubscribe (s : Session) (handle : Nat) : Session × Bool :=
  let (events, found) := s.events.unsubscribe handle
  ({ s with events }, found)

end Session

end SyntaxInspector
