import FsGateway.Gateway.Connection

/-!
# What an event does to a connection

A callback that was sent waits in the queue, is with a worker, or was answered. This module says
once what each event does to a connection; everything about whole runs rests on it.

* `dispatch_cases`: a callback that is read is answered at once, or a worker is spawned for it.
* `Worker.Finishes`: what ends the call of a worker by an instant.
* `Change`: what an event can do, and what it needs. `step_change`: a step does nothing else.
* `Effect`: what of it matters to where the callbacks are.
-/

namespace FsGateway.Gateway

open Kernel (Session Queued Answered Answer Ticket Demand)
open Client (Cause)

/-! ## Callbacks and workers -/

/-- The callback that an event sends. -/
def Event.sent? : Event → Option Queued
  | .send item => some item
  | _ => none

/-- The callbacks that are sent in the course of events. -/
def Event.sent (events : List Event) : List Queued := events.filterMap Event.sent?

theorem Event.sent_append (first second : List Event) :
    Event.sent (first ++ second) = Event.sent first ++ Event.sent second :=
  List.filterMap_append

theorem Event.sent_concat (events : List Event) (e : Event) :
    Event.sent (events ++ [e]) = Event.sent events ++ e.sent?.toList := by
  rw [Event.sent_append]
  cases h : e.sent? <;> simp [Event.sent, h]

namespace Worker

/-- The callback that a worker serves. -/
def item (w : Worker) : Queued := ⟨w.ticket, w.header, .operation w.operation w.payload⟩

/-- A worker whose call is canceled. -/
def cancel (w : Worker) : Worker := { w with isCanceled := true }

/-- A worker whose request was posted, and whose reply comes at an instant, if ever. -/
def post (w : Worker) (reply : Option (Nat × Client.Outcome)) : Worker :=
  { w with stage := .posted reply }

theorem isSpawned_iff {w : Worker} : w.isSpawned = true ↔ w.stage = .spawned := by
  unfold isSpawned
  split <;> simp_all

/-- What ends the call of a worker by an instant. -/
inductive Finishes (w : Worker) (now : Nat) : Client.End → Prop
  | canceled {reply : Option (Nat × Client.Outcome)} : w.stage = .posted reply →
      w.isCanceled = true → Finishes w now .canceled
  | expired {reply : Option (Nat × Client.Outcome)} : w.stage = .posted reply →
      w.isCanceled = false → w.isExpired now = true → Finishes w now .deadline
  | replied {i : Nat} {outcome : Client.Outcome} : w.stage = .posted (some (i, outcome)) →
      w.isCanceled = false → w.isExpired now = false → i ≤ now → Finishes w now (.reply outcome)

theorem ending_eq_some_iff {w : Worker} {now : Nat} {e : Client.End} :
    w.ending? now = some e ↔ w.Finishes now e := by
  constructor
  · intro h
    cases hstage : w.stage with
    | spawned =>
      rw [ending?, hstage] at h
      cases h
    | posted reply =>
      rw [ending?, hstage] at h
      cases hcanceled : w.isCanceled with
      | true =>
        rw [hcanceled] at h
        cases h
        exact .canceled hstage hcanceled
      | false =>
        cases hexpired : w.isExpired now with
        | true =>
          rw [hcanceled, hexpired] at h
          cases h
          exact .expired hstage hcanceled hexpired
        | false =>
          rw [hcanceled, hexpired] at h
          obtain ⟨⟨i, outcome⟩, hreply, rfl⟩ := Option.map_eq_some_iff.mp h
          obtain ⟨rfl, hle⟩ := Option.filter_eq_some_iff.mp hreply
          exact .replied hstage hcanceled hexpired (of_decide_eq_true hle)
  · intro h
    cases h with
    | canceled hstage hcanceled => simp [ending?, hstage, hcanceled]
    | expired hstage hcanceled hexpired => simp [ending?, hstage, hcanceled, hexpired]
    | replied hstage hcanceled hexpired hle => simp [ending?, hstage, hcanceled, hexpired, hle]

/-- An event ends the call of a worker with an answer: the call fails when it is to be posted, or
it was posted and is over. -/
inductive Ends (c : Settings) (w : Worker) (now : Nat) : Event → Answer → Prop
  | failed {reply : Option (Nat × Client.Outcome)} {cause : Cause} :
    w.request c.client c.target now = .error cause →
      Ends c w now (.start w.ticket reply) (.error cause.toErrno)
  | finished {e : Client.End} : w.ending? now = some e →
      Ends c w now (.finish w.ticket) (w.answer c.client e)

theorem Ends.sent?_eq_none {c : Settings} {w : Worker} {now : Nat} {e : Event} {answer : Answer}
    (h : w.Ends c now e answer) : e.sent? = none := by
  cases h <;> rfl

theorem Ends.ne_receive {c : Settings} {w : Worker} {now : Nat} {e : Event} {answer : Answer}
    (h : w.Ends c now e answer) : e ≠ .receive := by
  cases h <;> simp

end Worker

/-- The answers that a connection gives by itself to what the kernel asks for. -/
inductive Refuses (c : Settings) : Demand → Answer → Prop
  | unsupported (opcode : String) : Refuses c (.unsupported opcode) (.error Errno.enosys)
  | readOnly {op : Wire.Operation} (payload : op.Request) :
    c.isReadOnly = true → op.isMutating = true →
      Refuses c (.operation op payload) (.error Errno.erofs)

namespace Connection

variable {c : Settings} {k k' : Connection}

/-! ## Recording answers -/

@[simp] theorem record_answers (as : List Answered) :
    (k.record as).answers = k.answers ++ as.map fun a => (k.now, a) := rfl

@[simp] theorem record_session (as : List Answered) : (k.record as).session = k.session := rfl

@[simp] theorem record_workers (as : List Answered) : (k.record as).workers = k.workers := rfl

@[simp] theorem record_inFlight (as : List Answered) : (k.record as).inFlight = k.inFlight := rfl

@[simp] theorem record_phase (as : List Answered) : (k.record as).phase = k.phase := rfl

@[simp] theorem record_fresh (as : List Answered) : (k.record as).fresh = k.fresh := rfl

theorem record_nil : k.record [] = k := by simp [record]

/-! ## Changes that leave the callbacks where they are -/

/-- The callbacks stay where they are, and the connection at most begins to serve. -/
structure Keeps (k k' : Connection) : Prop where
  queue : k'.session.queue = k.session.queue
  isOpen : k'.session.isOpen = k.session.isOpen
  items : k'.workers.map Worker.item = k.workers.map Worker.item
  inFlight : k'.inFlight = k.inFlight
  answers : k'.answers = k.answers
  fresh : k'.fresh = k.fresh
  phase : k'.phase = k.phase ∨ k.phase = .ready ∧ k'.phase = .serving

/-- A change to workers that does not touch what they serve. -/
theorem map_item_map {f : Worker → Worker} (hf : ∀ w, (f w).item = w.item) (ws : List Worker) :
    (ws.map f).map Worker.item = ws.map Worker.item := by
  rw [List.map_map]
  exact List.map_congr_left fun w _ => hf w

theorem interrupt_keeps (unique : UInt64) : Keeps k (k.interrupt unique) := by
  unfold interrupt
  split
  · exact ⟨rfl, rfl, rfl, rfl, rfl, rfl, Or.inl rfl⟩
  · refine ⟨rfl, rfl, ?_, rfl, rfl, rfl, Or.inl rfl⟩
    refine map_item_map (fun w => ?_) _
    split <;> rfl

/-- The connection after the interruption that the kernel asks for, if it asks for one. -/
def heed (k : Connection) : Demand → Connection
  | .operation .interrupt payload => k.interrupt (Wire.InterruptRequest.intrUnique payload)
  | _ => k

theorem heed_keeps (d : Demand) : Keeps k (k.heed d) := by
  unfold heed
  split
  · exact interrupt_keeps _
  · exact ⟨rfl, rfl, rfl, rfl, rfl, rfl, Or.inl rfl⟩

theorem heed_eq {op : Wire.Operation} (payload : op.Request) (h : op ≠ .interrupt) :
    k.heed (.operation op payload) = k := by
  cases op <;> first | rfl | exact absurd rfl h

/-! ## Reading -/

/-- The worker that a connection spawns for a callback. -/
structure IsWorkerFor (c : Settings) (now : Nat) (item : Queued) (w : Worker) : Prop where
  item : w.item = item
  deadline : w.deadline = c.requestTimeout.map (now + ·)
  isCanceled : w.isCanceled = false
  stage : w.stage = .spawned
  isForwarded : ¬ (c.isReadOnly = true ∧ w.operation.isMutating = true)

theorem forward_cases (item : Queued) {op : Wire.Operation} (payload : op.Request)
    (h : item.callback.demand = .operation op payload) :
    (∃ answer, Refuses c item.callback.demand answer ∧
      k.forward c item op payload = k.record [⟨item.ticket, answer⟩]) ∨
    ∃ w, IsWorkerFor c k.now item w ∧ k.forward c item op payload = k.spawn w := by
  unfold forward
  split
  · rename_i hro
    obtain ⟨hc, hop⟩ := Bool.and_eq_true_iff.mp hro
    exact Or.inl ⟨_, h ▸ .readOnly payload hc hop, rfl⟩
  · rename_i hro
    refine Or.inr ⟨_, ⟨?_, rfl, rfl, rfl, fun hw => hro (Bool.and_eq_true_iff.mpr hw)⟩, rfl⟩
    obtain ⟨ticket, header, demand⟩ := item
    cases h
    rfl

/-- A callback that is read is answered at once, or an interruption that it asks for is made and a
worker is spawned for it. -/
theorem dispatch_cases (k : Connection) (c : Settings) (item : Queued) :
    (∃ answer, Refuses c item.callback.demand answer ∧
      k.dispatch c item = k.record [⟨item.ticket, answer⟩]) ∨
    ∃ w, IsWorkerFor c k.now item w ∧
      k.dispatch c item = (k.heed item.callback.demand).spawn w := by
  unfold dispatch
  split
  · rename_i opcode h
    exact Or.inl ⟨_, h ▸ .unsupported opcode, rfl⟩
  · rename_i payload h
    have hnow : (k.heed item.callback.demand).now = k.now := by
      rw [h, heed, interrupt]
      split <;> rfl
    have hheed : k.interrupt (Wire.InterruptRequest.intrUnique payload) =
        k.heed item.callback.demand := by rw [h, heed]
    rw [hheed]
    rcases forward_cases (k := k.heed item.callback.demand) (c := c) item payload h with
      ⟨answer, hr, -⟩ | ⟨w, hw, he⟩
    · -- an interruption changes nothing on the backend, so it is never refused
      rw [h] at hr
      cases hr with
      | readOnly _ _ hop => cases hop
    · exact Or.inr ⟨w, hnow ▸ hw, he⟩
  · rename_i op payload hne h
    have hop : op ≠ .interrupt := by
      rintro rfl
      exact hne payload rfl HEq.rfl
    rw [h, heed_eq payload hop, ← h]
    exact forward_cases item payload h

/-! ## Changes -/

/-- The connection with other callbacks in its queue. -/
def withQueue (k : Connection) (queue : List Queued) : Connection :=
  { k with session := { k.session with queue := queue } }

@[simp] theorem withQueue_phase (queue : List Queued) : (k.withQueue queue).phase = k.phase := rfl

/-- The connection after a worker has posted its request. The delay of the reply counts from now. -/
def posted (k : Connection) (w : Worker) (reply : Option (Nat × Client.Outcome))
    (request : Client.Request) : Connection :=
  { k with
    workers := k.workers.map fun x =>
      if x.ticket = w.ticket then x.post (reply.map fun r => (k.now + r.1, r.2)) else x
    posts := k.posts ++ [(w.ticket, request)] }

/-- What an event can do to a connection, with what it needs. -/
inductive Change (c : Settings) (k : Connection) : Event → Connection → Prop
  /-- A callback joins the queue. -/
  | queued (item : Queued) : k.session.hasSender = true → k.session.isOpen = true →
      k.fresh ≤ item.ticket → Change c k (.send item)
        { k.withQueue (k.session.queue ++ [item]) with fresh := item.ticket + 1 }
  /-- A callback that nobody will read is dropped. -/
  | dropped (item : Queued) : k.session.hasSender = true → k.session.isOpen = false →
      k.fresh ≤ item.ticket →
      Change c k (.send item) ({ k with fresh := item.ticket + 1 }.record [item.dropped])
  | hungUp : Change c k .hangUp { k with session := k.session.hangUp }
  | toldToStop : Change c k .shutDown { k with isShutDown := true }
  | served : k.phase = .ready → Change c k .serve { k with phase := .serving }
  /-- A callback is read and answered at once. -/
  | refused {item : Queued} {queue : List Queued} {answer : Answer} :
      k.phase = .serving → k.isShutDown = false → k.session.queue = item :: queue →
      Refuses c item.callback.demand answer →
      Change c k .receive ((k.withQueue queue).record [⟨item.ticket, answer⟩])
  /-- A callback is read and a worker is spawned for it. -/
  | spawned {item : Queued} {queue : List Queued} {w : Worker} :
      k.phase = .serving → k.isShutDown = false → k.session.queue = item :: queue →
      IsWorkerFor c k.now item w →
      Change c k .receive (((k.withQueue queue).heed item.callback.demand).spawn w)
  /-- The connection stops reading. -/
  | stopped : k.phase = .serving → k.mayStop = true → Change c k .stop (k.stop c)
  | posted {w : Worker} {reply : Option (Nat × Client.Outcome)} {request : Client.Request} :
      w ∈ k.workers → w.stage = .spawned → w.request c.client c.target k.now = .ok request →
      Change c k (.start w.ticket reply) (k.posted w reply request)
  /-- The call of a worker cannot be posted. -/
  | failed {w : Worker} {reply : Option (Nat × Client.Outcome)} {cause : Cause} :
      w ∈ k.workers → w.stage = .spawned → w.request c.client c.target k.now = .error cause →
      Change c k (.start w.ticket reply) (k.retire w (.error cause.toErrno))
  /-- The call of a worker is over. -/
  | finished {w : Worker} {e : Client.End} : w ∈ k.workers → w.ending? k.now = some e →
      Change c k (.finish w.ticket) (k.retire w (w.answer c.client e))
  /-- The time for draining is up. -/
  | expired {limit : Nat} : k.phase = .draining → k.drainLimit = some limit → limit ≤ k.now →
      k.workers ≠ [] → Change c k .expire k.cancelAll
  /-- The last worker is done. -/
  | drained : k.phase = .draining → k.workers = [] → Change c k .drained { k with phase := .closed }
  | elapsed (duration : Nat) : Change c k (.elapse duration) { k with now := k.now + duration }

theorem receive_eq_next_iff {s t : Session} {item : Queued} :
    s.receive = .next item t ↔
      ∃ queue, s.queue = item :: queue ∧ t = { s with queue := queue } := by
  unfold Session.receive
  split
  · rename_i item' queue hq
    constructor
    · intro h
      cases h
      exact ⟨queue, hq, rfl⟩
    · rintro ⟨queue', hq', rfl⟩
      cases hq.symm.trans hq'
      rfl
  · rename_i hq
    constructor
    · intro h
      split at h <;> cases h
    · rintro ⟨queue', hq', -⟩
      cases hq.symm.trans hq'

theorem worker?_mem {ticket : Ticket} {w : Worker} (h : k.worker? ticket = some w) :
    w ∈ k.workers ∧ w.ticket = ticket :=
  ⟨List.mem_of_find?_eq_some h, by simpa using List.find?_some h⟩

theorem start_change {w : Worker} (hw : w ∈ k.workers) (hstage : w.stage = .spawned)
    (reply : Option (Nat × Client.Outcome)) :
    Change c k (.start w.ticket reply) (k.start c w reply) := by
  unfold start
  split
  · rename_i cause h
    exact .failed hw hstage h
  · rename_i request h
    exact .posted hw hstage h

/-- A step does what its event can do, and nothing else. -/
theorem step_change {e : Event} (h : k.step c e = some k') : Change c k e k' := by
  cases e with
  | send item =>
    simp only [step, Session.send] at h
    split at h
    · rename_i hguard
      obtain ⟨hsender, hfresh⟩ := Bool.and_eq_true_iff.mp hguard
      have hfresh : k.fresh ≤ item.ticket := by simpa using hfresh
      split at h
      · rename_i hopen
        cases h
        rw [record_nil]
        exact .queued item hsender hopen hfresh
      · rename_i hopen
        cases h
        exact .dropped item hsender (by simpa using hopen) hfresh
    · cases h
  | hangUp =>
    cases h
    exact .hungUp
  | shutDown =>
    cases h
    exact .toldToStop
  | serve =>
    simp only [step] at h
    split at h
    · rename_i hready
      cases h
      exact .served hready
    · cases h
  | receive =>
    simp only [step] at h
    split at h
    · rename_i hguard
      obtain ⟨hserving, hreads⟩ := Bool.and_eq_true_iff.mp hguard
      have hserving : k.phase = .serving := by simpa using hserving
      have hreads : k.isShutDown = false := by simpa using hreads
      split at h
      · rename_i item session hnext
        cases h
        obtain ⟨queue, hq, rfl⟩ := receive_eq_next_iff.mp hnext
        change Change c k .receive ((k.withQueue queue).dispatch c item)
        rcases dispatch_cases (k.withQueue queue) c item with ⟨answer, hr, he⟩ | ⟨w, hw, he⟩
        · rw [he]
          exact .refused hserving hreads hq hr
        · rw [he]
          exact .spawned hserving hreads hq hw
      · cases h
    · cases h
  | stop =>
    simp only [step] at h
    split at h
    · rename_i hguard
      cases h
      obtain ⟨hserving, hmay⟩ := Bool.and_eq_true_iff.mp hguard
      exact .stopped (by simpa using hserving) hmay
    · cases h
  | start ticket reply =>
    obtain ⟨w, hw, rfl⟩ := Option.map_eq_some_iff.mp h
    obtain ⟨hfind, hspawned⟩ := Option.filter_eq_some_iff.mp hw
    obtain ⟨hmem, rfl⟩ := worker?_mem hfind
    exact start_change hmem (Worker.isSpawned_iff.mp hspawned) reply
  | finish ticket =>
    obtain ⟨w, hw, hend⟩ := Option.bind_eq_some_iff.mp h
    obtain ⟨e, he, hretire⟩ := Option.bind_eq_some_iff.mp hend
    obtain ⟨hmem, rfl⟩ := worker?_mem hw
    cases hretire
    exact .finished hmem he
  | expire =>
    simp only [step] at h
    split at h
    · rename_i hguard
      cases h
      obtain ⟨hguard, hworkers⟩ := Bool.and_eq_true_iff.mp hguard
      obtain ⟨hphase, hlimit⟩ := Bool.and_eq_true_iff.mp hguard
      obtain ⟨limit, hsome, hle⟩ := (Option.any_eq_true _ _).mp hlimit
      exact .expired (by simpa using hphase) hsome (by simpa using hle) (by simpa using hworkers)
    · cases h
  | drained =>
    simp only [step] at h
    split at h
    · rename_i hguard
      cases h
      obtain ⟨hphase, hworkers⟩ := Bool.and_eq_true_iff.mp hguard
      exact .drained (by simpa using hphase) (by simpa using hworkers)
    · cases h
  | elapse duration =>
    cases h
    exact .elapsed duration

/-! ## Effects -/

/-- What an event can do to the places of callbacks. -/
inductive Effect (c : Settings) (k : Connection) : Event → Connection → Prop
  /-- A callback joins the queue. -/
  | queued (item : Queued) : k.session.isOpen = true → k.fresh ≤ item.ticket →
      Effect c k (.send item)
        { k.withQueue (k.session.queue ++ [item]) with fresh := item.ticket + 1 }
  /-- A callback that nobody will read is dropped. -/
  | dropped (item : Queued) : k.session.isOpen = false → k.fresh ≤ item.ticket →
      Effect c k (.send item) ({ k with fresh := item.ticket + 1 }.record [item.dropped])
  /-- A callback is read and answered at once. -/
  | refused {item : Queued} {queue : List Queued} {answer : Answer} :
      k.phase = .serving → k.session.queue = item :: queue →
      Refuses c item.callback.demand answer →
      Effect c k .receive ((k.withQueue queue).record [⟨item.ticket, answer⟩])
  /-- A callback is read and a worker is spawned for it. -/
  | spawned {item : Queued} {queue : List Queued} {w : Worker} :
      k.phase = .serving → k.session.queue = item :: queue → IsWorkerFor c k.now item w →
      Effect c k .receive (((k.withQueue queue).heed item.callback.demand).spawn w)
  /-- The connection stops reading. -/
  | stopped : k.phase = .serving → Effect c k .stop (k.stop c)
  /-- The call of a worker ends. -/
  | ended {e : Event} {w : Worker} {answer : Answer} : w ∈ k.workers → w.Ends c k.now e answer →
      Effect c k e (k.retire w answer)
  /-- The last worker is done. -/
  | drained : k.phase = .draining → k.workers = [] → Effect c k .drained { k with phase := .closed }
  /-- No callback moves. -/
  | kept {e : Event} {k' : Connection} : e.sent? = none → e ≠ .receive → Keeps k k' →
      Effect c k e k'

theorem posted_keeps (w : Worker) (reply : Option (Nat × Client.Outcome))
    (request : Client.Request) : Keeps k (k.posted w reply request) := by
  refine ⟨rfl, rfl, map_item_map (fun x => ?_) _, rfl, rfl, rfl, Or.inl rfl⟩
  split <;> rfl

theorem cancelAll_keeps : Keeps k k.cancelAll :=
  ⟨rfl, rfl, map_item_map (f := Worker.cancel) (fun _ => rfl) _, rfl, rfl, rfl, Or.inl rfl⟩

theorem Change.effect {e : Event} (h : Change c k e k') : Effect c k e k' := by
  cases h with
  | queued item hsender hopen hfresh => exact .queued item hopen hfresh
  | dropped item hsender hopen hfresh => exact .dropped item hopen hfresh
  | refused hphase hreads hq hr => exact .refused hphase hq hr
  | spawned hphase hreads hq hw => exact .spawned hphase hq hw
  | stopped hphase hmay => exact .stopped hphase
  | failed hw hstage hfail => exact .ended hw (.failed hfail)
  | finished hw hend => exact .ended hw (.finished hend)
  | drained hphase hworkers => exact .drained hphase hworkers
  | hungUp | toldToStop | elapsed _ =>
    exact .kept rfl (by simp) ⟨rfl, rfl, rfl, rfl, rfl, rfl, Or.inl rfl⟩
  | served hready => exact .kept rfl (by simp) ⟨rfl, rfl, rfl, rfl, rfl, rfl, Or.inr ⟨hready, rfl⟩⟩
  | posted hw hstage hrequest => exact .kept rfl (by simp) (posted_keeps _ _ _)
  | expired hphase hlimit hle hworkers => exact .kept rfl (by simp) cancelAll_keeps

/-- Answers stay. -/
theorem Effect.answers {e : Event} (h : Effect c k e k') : k.answers <+: k'.answers := by
  cases h with
  | queued | drained => exact List.prefix_refl _
  | dropped | refused | stopped | ended => exact List.prefix_append _ _
  | @spawned item queue w hphase hq hw =>
    have hsame : (((k.withQueue queue).heed item.callback.demand).spawn w).answers = k.answers :=
      (heed_keeps item.callback.demand).answers
    exact ⟨[], (List.append_nil _).trans hsame.symm⟩
  | kept hsent hne hk => exact ⟨[], (List.append_nil _).trans hk.answers.symm⟩

theorem step_effect {e : Event} (h : k.step c e = some k') : Effect c k e k' :=
  (step_change h).effect

end Connection

end FsGateway.Gateway
