import SyntaxInspector.Render.Pool
import SyntaxInspector.Session.Render

/-!
# Hosts

A host owns a document and a session on it, runs the session's renders in slices of its own choice
and hands their rows back when it likes. Whatever a host does is an operation (`Op`), so a run is a
list of operations.

* `Host.step` — one operation and its reply;
* `Host.run` — a list of operations.
-/

namespace SyntaxInspector

/-- A render that was begun: the job while it is in progress, its rows once they are complete. -/
structure Ticket where
  /-- The job, unless it is gone. -/
  job : Option Job
  /-- The rows, once complete. -/
  rows : Option RowSequence

/-- A document, a session on it, and the renders begun. -/
structure Host where
  /-- The document. -/
  document : Document
  /-- The session. -/
  session : Session
  /-- The renders begun, in order. -/
  tickets : List Ticket := []
  /-- The number of the next tree. -/
  nextTree : Nat

/-- What a host may do. -/
inductive Op where
  /-- Gives the document a new text. -/
  | setText (text : String)
  /-- Tells the session of the document as it is. -/
  | refresh
  /-- Tells the session of a document as a snapshot shows it. -/
  | change (snapshot : Snapshot)
  /-- Tells the session of a document built from a description. -/
  | describe (text : String) (languageName : String) (parsed : Bool) (layers : List LayerSpec)
  /-- Makes a layer the active one. -/
  | activate (id : LayerId)
  /-- Renders from start to end. -/
  | update
  /-- Begins a render. -/
  | begin
  /-- Runs one slice of a render. -/
  | resume (ticket : Nat)
  /-- Runs a render to its end. -/
  | finish (ticket : Nat)
  /-- Hands the rows of a render to the session. -/
  | commit (ticket : Nat)
  /-- Shows anonymous nodes or not. -/
  | showAnonymous (shown : Bool)
  /-- Marks injected ranges or not. -/
  | showInjectionRanges (shown : Bool)
  /-- Takes a query text into use. -/
  | compileQuery (source : String)
  /-- Runs the query again. -/
  | runQuery (bounds : Option Range)
  /-- Forgets the query. -/
  | clearQuery
  /-- Moves the cursor. -/
  | moveCursor (selection : Range)
  /-- Selects a row. -/
  | selectRow (index : Nat)
  /-- Subscribes to events. -/
  | subscribe
  /-- Ends a subscription. -/
  | unsubscribe (handle : Nat)

/-- What a host gets back. -/
inductive Reply where
  /-- Nothing. -/
  | nothing
  /-- The operation was carried out. -/
  | done
  /-- The operation failed. -/
  | failed (e : SessionError)
  /-- A render was begun under a number and a generation. -/
  | begun (ticket generation : Nat)
  /-- What became of a render. -/
  | progress (p : Progress)
  /-- A yes or no. -/
  | flag (b : Bool)
  /-- The render has no rows. -/
  | noRows
  /-- The session's rows. -/
  | rows (rows : RowSequence)
  /-- The session's highlights. -/
  | highlights (highlights : List Highlight)
  /-- The highlighted row. -/
  | row (row : Option Nat)
  /-- A range to select. -/
  | range (range : Range)
  /-- A subscription. -/
  | handle (handle : Nat)

namespace Host

/-- A host with a document that may have a text already, and a session on it. -/
def start (document : Document) (nextTree : Nat) (options : SessionOptions) : Host :=
  { document, session := .start document.snapshot options, nextTree }

/-- The reply to an operation that may fail. -/
def replyOf {α : Type} (ok : α → Reply) : Except SessionError α → Reply
  | .ok a => ok a
  | .error e => .failed e

/-- The ticket with a number. -/
def ticket? (h : Host) (number : Nat) : Option Ticket := h.tickets[number]?

/-- Puts a ticket in place of the one with the same number. -/
def setTicket (h : Host) (number : Nat) (t : Ticket) : Host :=
  { h with tickets := h.tickets.set number t }

/-- Runs one slice of a render. -/
def resume (h : Host) (number : Nat) : Host × Progress :=
  match h.ticket? number with
  | some ⟨some job, rows⟩ =>
    match job.resume h.session.counter with
    | .yielded job => (h.setTicket number ⟨some job, rows⟩, .yielded)
    | .cancelled => (h.setTicket number ⟨none, rows⟩, .cancelled)
    | .complete rows => (h.setTicket number ⟨none, some rows⟩, .complete rows)
  | _ => (h, .gone)

/-- Runs a render to its end. -/
def finish (h : Host) (number : Nat) : Host × Progress :=
  match h.ticket? number with
  | some ⟨some job, rows⟩ =>
    match job.finish h.session.counter with
    | some rows => (h.setTicket number ⟨none, some rows⟩, .complete rows)
    | none => (h.setTicket number ⟨none, rows⟩, .cancelled)
  | _ => (h, .gone)

/-- Carries out one operation. -/
def step (e : Engine) (h : Host) : Op → Host × Reply
  | .setText text =>
    match h.document.setText e h.nextTree text with
    | (.ok document, nextTree) => ({ h with document, nextTree }, .done)
    | (.error err, nextTree) => ({ h with nextTree }, .failed (.parse err))
  | .refresh => ({ h with session := h.session.documentChanged h.document.snapshot }, .nothing)
  | .change snapshot => ({ h with session := h.session.documentChanged snapshot }, .nothing)
  | .describe text languageName parsed layers =>
    match Snapshot.build e h.nextTree text languageName parsed layers with
    | (.ok snapshot, nextTree) =>
      ({ h with session := h.session.documentChanged snapshot, nextTree }, .nothing)
    | (.error err, nextTree) => ({ h with nextTree }, .failed (.ofDescription err))
  | .activate id =>
    let (session, result) := h.session.setActiveLayer id
    ({ h with session }, replyOf (fun _ => .done) result)
  | .update =>
    let (session, result) := h.session.update e
    ({ h with session }, replyOf .rows result)
  | .begin =>
    match h.session.beginRender with
    | (session, .error err) => ({ h with session }, .failed err)
    | (session, .ok job) =>
      ({ h with session, tickets := h.tickets ++ [⟨some job, none⟩] },
        .begun h.tickets.length job.generation)
  | .resume number =>
    let (h, progress) := h.resume number
    (h, .progress progress)
  | .finish number =>
    let (h, progress) := h.finish number
    (h, .progress progress)
  | .commit number =>
    match (h.ticket? number).bind Ticket.rows with
    | none => (h, .noRows)
    | some rows =>
      let (session, committed) := h.session.finishRender e rows
      ({ h with session }, .flag committed)
  | .showAnonymous shown => ({ h with session := h.session.setShowAnonymous shown }, .nothing)
  | .showInjectionRanges shown =>
    let (session, visible) := h.session.setShowInjectionRanges shown
    ({ h with session }, .flag visible)
  | .compileQuery source =>
    let (session, result) := h.session.compileQuery e source
    ({ h with session }, replyOf .highlights result)
  | .runQuery bounds =>
    let (session, result) := h.session.runQuery e bounds
    ({ h with session }, replyOf .highlights result)
  | .clearQuery => ({ h with session := h.session.clearQuery }, .nothing)
  | .moveCursor selection =>
    let (session, row) := h.session.moveCursor selection
    ({ h with session }, .row row)
  | .selectRow index =>
    let (session, result) := h.session.selectRow index
    ({ h with session }, replyOf .range result)
  | .subscribe =>
    let (session, handle) := h.session.subscribe
    ({ h with session }, .handle handle)
  | .unsubscribe handle =>
    let (session, found) := h.session.unsubscribe handle
    ({ h with session }, .flag found)

/-- Carries out operations in order. -/
def run (e : Engine) (h : Host) (ops : List Op) : Host := ops.foldl (fun h op => (h.step e op).1) h

@[simp] theorem run_nil (e : Engine) (h : Host) : h.run e [] = h := rfl

@[simp] theorem run_cons (e : Engine) (h : Host) (op : Op) (ops : List Op) :
    h.run e (op :: ops) = (h.step e op).1.run e ops := rfl

theorem run_append (e : Engine) (h : Host) (ops ops' : List Op) :
    h.run e (ops ++ ops') = (h.run e ops).run e ops' := List.foldl_append

end Host

end SyntaxInspector
