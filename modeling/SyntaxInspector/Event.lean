import SyntaxInspector.Tree.NodeId

/-!
# Events

An emitter hands every event to its subscribers, in the order they subscribed, and keeps a log of
what was emitted and who received it. Handles of subscribers are never used twice.
-/

namespace SyntaxInspector

/-- What subscribers are told. -/
inductive Event where
  /-- The active layer changed; `fellBack` if that was because it vanished. -/
  | activeLayerChanged (previous current : LayerId) (fellBack : Bool)
  /-- The rows of a render pass were taken over. -/
  | renderComplete (generation rows : Nat)
  deriving DecidableEq

/-- An event and the handles of those who received it. -/
structure Emission where
  /-- The event. -/
  event : Event
  /-- Who received it, in order. -/
  receivers : List Nat
  deriving DecidableEq

/-- Subscribers and the events so far. -/
structure Emitter where
  /-- Handles of the subscribers, in the order they subscribed. -/
  subscribers : List Nat := []
  /-- The next handle. -/
  nextHandle : Nat := 0
  /-- What was emitted, oldest first. -/
  log : List Emission := []
  deriving DecidableEq, Inhabited

namespace Emitter

/-- Adds a subscriber and gives its handle. -/
def subscribe (e : Emitter) : Emitter × Nat :=
  ({ e with subscribers := e.subscribers ++ [e.nextHandle], nextHandle := e.nextHandle + 1 },
    e.nextHandle)

/-- Removes a subscriber; whether there was one. -/
def unsubscribe (e : Emitter) (handle : Nat) : Emitter × Bool :=
  ({ e with subscribers := e.subscribers.filter (· != handle) }, e.subscribers.contains handle)

/-- Hands an event to all subscribers. -/
def emit (e : Emitter) (event : Event) : Emitter :=
  { e with log := e.log ++ [⟨event, e.subscribers⟩] }

@[simp] theorem subscribers_emit (e : Emitter) (event : Event) :
    (e.emit event).subscribers = e.subscribers := rfl

@[simp] theorem log_subscribe (e : Emitter) : e.subscribe.1.log = e.log := rfl

@[simp] theorem log_unsubscribe (e : Emitter) (handle : Nat) :
    (e.unsubscribe handle).1.log = e.log := rfl

/-- The events delivered since the log had `seen` entries, receiver by receiver. -/
def deliveredSince (e : Emitter) (seen : Nat) : List (Nat × Event) :=
  (e.log.drop seen).flatMap fun m => m.receivers.map (·, m.event)

/-- An emission reaches the subscribers of the moment, in their order. -/
theorem deliveredSince_emit (e : Emitter) (event : Event) :
    (e.emit event).deliveredSince e.log.length = e.subscribers.map (·, event) := by
  simp [deliveredSince, emit]

/-- The emitter spelt out. -/
def summary (e : Emitter) : String :=
  s!"Emitter \x7b subscribers: {e.subscribers.length} \x7d"

end Emitter

end SyntaxInspector
