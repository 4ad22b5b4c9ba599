import Mathlib.Data.List.Induction
import Mathlib.Data.List.Nodup
import SyntaxInspector.Event

/-!
# Delivery of events

Subscribers of an emitter come and go in any order. One of them receives what is emitted from its
subscription on until it is unsubscribed, and nothing else; whoever asks to be unsubscribed is told
whether there was anything to do.

* `Emitter.Call`, `Emitter.run` — calls in any order, with any handles;
* `Emitter.Sound` — handles are below the next one and in the order they were issued;
* `Emitter.IsLive` — a handle has been issued and not been unsubscribed since;
* `Emitter.received_step`, `Emitter.received_run_subscribe`, `Emitter.received_run_of_gone` — what
  one call delivers to a handler, and what many do;
* `Emitter.events_are_delivered` — all runs of an emitter.
-/

namespace SyntaxInspector

namespace Emitter

/-- What may be done with an emitter. -/
inductive Call where
  /-- Adds a subscriber. -/
  | subscribe
  /-- Removes the subscriber with a handle, if there is one. -/
  | unsubscribe (handle : Nat)
  /-- Hands an event to all subscribers. -/
  | emit (event : Event)
  deriving DecidableEq

/-- The event that a call emits, if it emits one. -/
def Call.event? : Call → Option Event
  | .emit event => some event
  | _ => none

/-- The events that calls emit, in order. -/
def emitted (calls : List Call) : List Event := calls.filterMap Call.event?

/-- Carries out one call. -/
def step (e : Emitter) : Call → Emitter
  | .subscribe => e.subscribe.1
  | .unsubscribe handle => (e.unsubscribe handle).1
  | .emit event => e.emit event

/-- Carries out calls in order. -/
def run (e : Emitter) (calls : List Call) : Emitter := calls.foldl step e

@[simp] theorem run_nil (e : Emitter) : e.run [] = e := rfl

@[simp] theorem run_cons (e : Emitter) (c : Call) (calls : List Call) :
    e.run (c :: calls) = (e.step c).run calls := rfl

theorem run_append (e : Emitter) (calls calls' : List Call) :
    e.run (calls ++ calls') = (e.run calls).run calls' := List.foldl_append

/-- The handles that calls issue, in the order of the subscriptions. -/
def issued : Emitter → List Call → List Nat
  | _, [] => []
  | e, c :: calls => (if c = .subscribe then [e.subscribe.2] else []) ++ issued (e.step c) calls

/-- The events that the handler with a handle has received, in order and as often as it has. -/
def received (e : Emitter) (handle : Nat) : List Event :=
  ((e.deliveredSince 0).filter fun d => d.1 == handle).map Prod.snd

/-- A handle has been issued by one of the calls, and no later one has unsubscribed it. -/
def IsLive (calls : List Call) (handle : Nat) : Prop :=
  ∃ before after, calls = before ++ .subscribe :: after ∧ (run {} before).subscribe.2 = handle ∧
    .unsubscribe handle ∉ after

/-- The subscribers are in the order they subscribed, and no handle is in use that has not been
issued. -/
structure Sound (e : Emitter) : Prop where
  ordered : e.subscribers.Pairwise (· < ·)
  subscribed : ∀ handle ∈ e.subscribers, handle < e.nextHandle
  delivered : ∀ m ∈ e.log, ∀ handle ∈ m.receivers, handle < e.nextHandle

variable {e : Emitter} {c : Call} {handle : Nat}

/-! ### One call -/

theorem sound_empty : Sound {} := ⟨.nil, nofun, nofun⟩

theorem Sound.step (h : e.Sound) (c : Call) : (e.step c).Sound := by
  cases c with
  | subscribe =>
    refine ⟨List.pairwise_append.2 ⟨h.ordered, List.pairwise_singleton _ _, ?_⟩, ?_, ?_⟩
    · intro a ha b hb
      rw [List.mem_singleton.1 hb]
      exact h.subscribed a ha
    · intro a ha
      rcases List.mem_append.1 ha with hmem | hmem
      · exact Nat.lt_succ_of_lt (h.subscribed a hmem)
      · rw [List.mem_singleton.1 hmem]
        exact Nat.lt_succ_self _
    · exact fun m hm a ha => Nat.lt_succ_of_lt (h.delivered m hm a ha)
  | unsubscribe handle =>
    exact ⟨h.ordered.filter _, fun a ha => h.subscribed a (List.mem_of_mem_filter ha), h.delivered⟩
  | emit event =>
    refine ⟨h.ordered, h.subscribed, fun m hm => ?_⟩
    rcases List.mem_append.1 hm with hmem | hmem
    · exact h.delivered m hmem
    · rw [List.mem_singleton.1 hmem]
      exact h.subscribed

theorem Sound.run (h : e.Sound) (calls : List Call) : (e.run calls).Sound := by
  induction calls generalizing e with
  | nil => exact h
  | cons c calls ih => exact ih (h.step c)

/-- Handles are issued one after the other. -/
theorem nextHandle_step (e : Emitter) (c : Call) :
    (e.step c).nextHandle = e.nextHandle + if c = .subscribe then 1 else 0 := by
  cases c <;> rfl

/-- A call removes at most the subscriber it names, and adds at most a new one. -/
theorem mem_subscribers_step :
    handle ∈ (e.step c).subscribers ↔
      handle ∈ e.subscribers ∧ c ≠ .unsubscribe handle ∨
        c = .subscribe ∧ handle = e.nextHandle := by
  cases c with
  | subscribe => simp [step, subscribe]
  | unsubscribe a =>
    simp only [step, unsubscribe, List.mem_filter, bne_iff_ne, ne_eq, Call.unsubscribe.injEq,
      reduceCtorEq, false_and, or_false]
    rw [eq_comm]
  | emit event => simp [step]

theorem received_eq_nil (h : e.Sound) (hnew : e.nextHandle ≤ handle) : e.received handle = [] := by
  rw [received, List.map_eq_nil_iff, List.filter_eq_nil_iff]
  intro d hd
  obtain ⟨m, hm, hd⟩ := List.mem_flatMap.1 hd
  obtain ⟨a, ha, rfl⟩ := List.mem_map.1 hd
  have hlt := h.delivered m (List.mem_of_mem_drop hm) a ha
  simp only [beq_iff_eq]
  omega

/-- Only an event is delivered, and only to subscribers, to each of them once. -/
theorem received_step (h : e.Sound) (c : Call) (handle : Nat) :
    (e.step c).received handle =
      e.received handle ++ if handle ∈ e.subscribers then c.event?.toList else [] := by
  cases c with
  | subscribe => simp [received, deliveredSince, step, Call.event?]
  | unsubscribe a => simp [received, deliveredSince, step, Call.event?]
  | emit event =>
    have hnew : ((e.subscribers.map (·, event)).filter fun d => d.1 == handle).map Prod.snd =
        if handle ∈ e.subscribers then [event] else [] := by
      have hnodup : e.subscribers.Nodup := h.ordered.imp Nat.ne_of_lt
      rw [List.filter_map, List.map_map]
      show (e.subscribers.filter (· == handle)).map (fun _ => event) = _
      rw [List.filter_beq, hnodup.count, List.map_replicate]
      by_cases hmem : handle ∈ e.subscribers <;> simp [hmem]
    simp [received, deliveredSince, step, emit, Call.event?, hnew]

/-! ### Many calls -/

theorem nextHandle_run (e : Emitter) (calls : List Call) :
    (e.run calls).nextHandle = e.nextHandle + calls.count .subscribe := by
  induction calls generalizing e with
  | nil => rfl
  | cons c calls ih =>
    rw [run_cons, ih, nextHandle_step, List.count_cons]
    simp only [beq_iff_eq]
    omega

theorem issued_eq (e : Emitter) (calls : List Call) :
    issued e calls = List.range' e.nextHandle (calls.count .subscribe) := by
  induction calls generalizing e with
  | nil => rfl
  | cons c calls ih =>
    rw [issued, ih, nextHandle_step]
    by_cases hc : c = .subscribe
    · subst hc
      rw [if_pos rfl, if_pos rfl, List.count_cons_self, List.range'_succ]
      rfl
    · simp [hc]

/-- A new emitter counts its subscriptions. -/
theorem issued_empty (calls : List Call) :
    issued {} calls = List.range (run {} calls).nextHandle := by
  rw [issued_eq, nextHandle_run, Nat.zero_add, List.range_eq_range']

/-- Subscribers keep the order in which they subscribed. -/
theorem subscribers_run_sublist (e : Emitter) (calls : List Call) :
    (e.run calls).subscribers.Sublist (e.subscribers ++ issued e calls) := by
  induction calls generalizing e with
  | nil => simp [issued]
  | cons c calls ih =>
    refine (ih (e.step c)).trans ?_
    cases c with
    | subscribe => simp [issued, step, subscribe]
    | unsubscribe a => exact List.filter_sublist.append (.refl _)
    | emit event => simp [issued, step]

/-- Without its subscription a handler receives nothing any more, for its handle is not issued
again. -/
theorem received_run_of_gone (h : e.Sound) (hgone : handle ∉ e.subscribers)
    (hissued : handle < e.nextHandle) (calls : List Call) :
    (e.run calls).received handle = e.received handle := by
  induction calls generalizing e with
  | nil => rfl
  | cons c calls ih =>
    have hgone' : handle ∉ (e.step c).subscribers := by
      rw [mem_subscribers_step]
      rintro (⟨hmem, -⟩ | ⟨-, heq⟩)
      · exact hgone hmem
      · omega
    have hissued' : handle < (e.step c).nextHandle := by
      rw [nextHandle_step]
      omega
    rw [run_cons, ih (h.step c) hgone' hissued', received_step h, if_neg hgone, List.append_nil]

/-- A subscriber receives what is emitted until it is unsubscribed. -/
theorem received_run_of_mem (h : e.Sound) (hmem : handle ∈ e.subscribers) (calls : List Call) :
    (e.run calls).received handle =
      e.received handle ++ emitted (calls.takeWhile (· ≠ .unsubscribe handle)) := by
  induction calls generalizing e with
  | nil => simp [emitted]
  | cons c calls ih =>
    have hstep := received_step h c handle
    rw [if_pos hmem] at hstep
    rw [run_cons]
    by_cases hc : c = .unsubscribe handle
    · have hgone : handle ∉ (e.step c).subscribers := by
        rw [mem_subscribers_step, hc]
        simp
      have hissued : handle < (e.step c).nextHandle :=
        nextHandle_step e c ▸ Nat.lt_add_right _ (h.subscribed handle hmem)
      rw [received_run_of_gone (h.step c) hgone hissued, hstep, hc]
      simp [emitted, Call.event?]
    · have hmem' : handle ∈ (e.step c).subscribers := mem_subscribers_step.2 (.inl ⟨hmem, hc⟩)
      rw [ih (h.step c) hmem', hstep, List.takeWhile_cons_of_pos (by simpa using hc)]
      cases hevent : c.event? <;> simp [emitted, hevent]

/-- The subscribers after some calls are those whose handles are live. -/
theorem mem_subscribers_run_iff (calls : List Call) (handle : Nat) :
    handle ∈ (run {} calls).subscribers ↔ IsLive calls handle := by
  induction calls using List.reverseRecOn with
  | nil => simp [IsLive]
  | append_singleton calls c ih =>
    rw [run_append, run_cons, run_nil, mem_subscribers_step, ih]
    constructor
    · rintro (⟨⟨before, after, rfl, hhandle, hafter⟩, hc⟩ | ⟨rfl, rfl⟩)
      · refine ⟨before, after ++ [c], by simp, hhandle, fun hmem => ?_⟩
        rcases List.mem_append.1 hmem with hmem | hmem
        · exact hafter hmem
        · exact hc (List.mem_singleton.1 hmem).symm
      · exact ⟨calls, [], rfl, rfl, nofun⟩
    · rintro ⟨before, after, heq, hhandle, hafter⟩
      rcases List.eq_nil_or_concat after with rfl | ⟨after, d, rfl⟩
      · obtain ⟨rfl, hc⟩ := List.append_inj' heq rfl
        cases hc
        exact .inr ⟨rfl, hhandle.symm⟩
      · rw [List.concat_eq_append] at heq hafter
        rw [← List.cons_append, ← List.append_assoc] at heq
        obtain ⟨rfl, hc⟩ := List.append_inj' heq rfl
        cases hc
        refine .inl ⟨⟨before, after, rfl, hhandle, fun hmem => ?_⟩, ?_⟩
        · exact hafter (List.mem_append_left _ hmem)
        · rintro rfl
          exact hafter (List.mem_append_right _ List.mem_cons_self)

/-- Handles do not collide as words of 64 bits, as long as there are more words than handles. -/
theorem nodup_words_issued {calls : List Call} (hcount : calls.count .subscribe < UInt64.size) :
    ((issued {} calls).map UInt64.ofNat).Nodup := by
  have hword : ∀ handle ∈ issued {} calls, (UInt64.ofNat handle).toNat = handle := by
    intro handle hmem
    rw [issued_empty, List.mem_range, nextHandle_run, Nat.zero_add] at hmem
    exact UInt64.toNat_ofNat_of_lt (Nat.lt_trans hmem hcount)
  refine List.Nodup.map_on (fun a ha b hb heq => ?_) (issued_empty calls ▸ List.nodup_range)
  rw [← hword a ha, ← hword b hb, heq]

/-- A new subscriber has received nothing, and it receives what is emitted until it is
unsubscribed. -/
theorem received_run_subscribe (h : e.Sound) (calls : List Call) :
    (e.run (.subscribe :: calls)).received e.subscribe.2 =
      emitted (calls.takeWhile (· ≠ .unsubscribe e.subscribe.2)) := by
  have hmem : e.subscribe.2 ∈ (e.step .subscribe).subscribers :=
    mem_subscribers_step.2 (.inr ⟨rfl, rfl⟩)
  have hnew : e.received e.subscribe.2 = [] := received_eq_nil h (Nat.le_refl _)
  rw [run_cons, received_run_of_mem (h.step _) hmem, received_step h, hnew]
  simp [Call.event?]

/-- **Events are delivered to those who are subscribed.** After any calls of an emitter, with any
handles,

* the handles that were issued increase from subscription to subscription, so that none is issued
  twice, and they are distinct as words of 64 bits while no more of them are issued than there are
  words;
* a handler has received the events emitted after its subscription and before it was first
  unsubscribed, each once and in order;
* nothing has been received under a handle that was not issued;
* an event was handed to the handlers whose handles were live, in the order they subscribed;
* whoever unsubscribes a handle is told whether it was live. -/
theorem events_are_delivered (calls : List Call) :
    ((issued {} calls).Pairwise (· < ·) ∧
      (calls.count .subscribe < UInt64.size → ((issued {} calls).map UInt64.ofNat).Nodup)) ∧
    (∀ before after, calls = before ++ .subscribe :: after →
      let handle := (run {} before).subscribe.2
      (run {} calls).received handle = emitted (after.takeWhile (· ≠ .unsubscribe handle))) ∧
    (∀ handle ∉ issued {} calls, (run {} calls).received handle = []) ∧
    (∀ before event after, calls = before ++ .emit event :: after →
      ∃ receivers : List Nat,
        ((run {} before).step (.emit event)).deliveredSince (run {} before).log.length =
          receivers.map (·, event) ∧
        receivers.Sublist (issued {} before) ∧
        ∀ handle, handle ∈ receivers ↔ IsLive before handle) ∧
    ∀ handle, ((run {} calls).unsubscribe handle).2 = true ↔ IsLive calls handle := by
  have hsound : ∀ calls, (run {} calls).Sound := sound_empty.run
  refine ⟨⟨?_, nodup_words_issued⟩, ?_, fun handle hnew => ?_, ?_, fun handle => ?_⟩
  · rw [issued_empty]
    exact List.pairwise_lt_range
  · rintro before after rfl
    intro handle
    rw [run_append]
    exact received_run_subscribe (hsound before) after
  · rw [issued_empty, List.mem_range] at hnew
    exact received_eq_nil (hsound calls) (Nat.le_of_not_lt hnew)
  · rintro before event after -
    exact ⟨(run {} before).subscribers, deliveredSince_emit _ event,
      subscribers_run_sublist {} before, mem_subscribers_run_iff before⟩
  · rw [← mem_subscribers_run_iff]
    exact List.contains_iff_mem

/-- Two subscribers. The handle of the second one is unsubscribed before it is issued, and that of
the first one twice. -/
def comings : List Call :=
  [.unsubscribe 1, .subscribe, .emit (.renderComplete 1 3), .subscribe, .emit (.renderComplete 2 5),
    .unsubscribe 0, .emit (.renderComplete 3 4), .unsubscribe 0]

/-- One event is for both of them, and the second one can still be unsubscribed. -/
theorem events_are_delivered_comings :
    (run {} comings).received 0 = [.renderComplete 1 3, .renderComplete 2 5] ∧
    (run {} comings).received 1 = [.renderComplete 2 5, .renderComplete 3 4] ∧
    ((run {} comings).unsubscribe 1).2 = true := by
  obtain ⟨-, hreceived, -, -, hanswer⟩ := events_are_delivered comings
  refine ⟨hreceived [.unsubscribe 1] _ rfl, ?_, ?_⟩
  · exact hreceived [.unsubscribe 1, .subscribe, .emit (.renderComplete 1 3)] _ rfl
  · exact (hanswer 1).2
      ⟨[.unsubscribe 1, .subscribe, .emit (.renderComplete 1 3)], _, rfl, rfl, by decide⟩

end Emitter

end SyntaxInspector
