import FsGateway.Proofs.Client.Requests
import FsGateway.Proofs.Connection.Answers

/-!
# What an event does to a call

A worker keeps its callback and its deadline. It is canceled when the connection reads an interrupt
that names its number or when the time for draining is up, and by nothing else. As long as no two
callbacks in flight have the same number, the table of calls that can be interrupted has one entry
for each worker, so an interrupt finds the worker with its number and no other.

* `Indexed`: the workers have different numbers, and the table has their entries.
* `Change.step`: what an event can do happens.
* `Change.origin`: a worker has just been spawned, or it goes on from before the event.
* `run_indexed`: the table is right after every run in which numbers in flight differ.
-/

namespace FsGateway.Kernel

/-- The number that an interrupt names. -/
def Demand.target? : Demand → Option UInt64
  | .operation .interrupt payload => some (Wire.InterruptRequest.intrUnique payload)
  | _ => none

end FsGateway.Kernel

namespace FsGateway.Gateway

open Kernel (Queued Ticket Demand Answer)

theorem Refuses.eq {c : Settings} {d : Demand} {a b : Answer} (ha : Refuses c d a)
    (hb : Refuses c d b) : a = b := by
  cases ha <;> cases hb <;> rfl

/-- The entry of a worker in the table of calls that can be interrupted. -/
def Worker.entry (w : Worker) : UInt64 × Ticket := (w.header.unique, w.ticket)

theorem Worker.starts (w : Worker) (s : Client.Settings) (target : Url) (now : Nat) :
    Client.Starts s ⟨target, w.header.identity⟩ w.operation w.payload w.isCanceled
      (w.isExpired now) (w.request s target now) :=
  Client.starts ..

theorem Worker.request_eq_ok {w : Worker} {s : Client.Settings} {target : Url} {now : Nat}
    {r : Client.Request} (h : w.request s target now = .ok r) :
    w.isCanceled = false ∧ w.isExpired now = false ∧
      Client.canAuthorize s w.header.identity = true ∧
        Client.IsRequest s ⟨target, w.header.identity⟩ w.operation w.payload r := by
  have hstarts := w.starts s target now
  rw [h] at hstarts
  generalize w.isCanceled = canceled at hstarts ⊢
  generalize w.isExpired now = expired at hstarts ⊢
  cases hstarts with
  | posted hcan hrequest => exact ⟨rfl, rfl, hcan, hrequest⟩

namespace Connection

variable {c : Settings} {k k' : Connection} {e : Event} {w w' : Worker}

/-- The numbers of the callbacks in flight. -/
def numbers (k : Connection) : List UInt64 := k.workers.map (·.header.unique)

theorem map_entry_inWork (k : Connection) :
    k.workers.map Worker.entry =
      k.inWork.map fun item => (item.callback.header.unique, item.ticket) := by
  rw [inWork, List.map_map]
  rfl

theorem numbers_eq_inWork (k : Connection) :
    k.numbers = k.inWork.map fun item => item.callback.header.unique := by
  rw [inWork, List.map_map]
  rfl

/-! ## The table -/

/-- The workers have different numbers, and the table has one entry for each of them. -/
structure Indexed (k : Connection) : Prop where
  numbers : k.numbers.Nodup
  table : k.inFlight.Perm (k.workers.map Worker.entry)

namespace Indexed

theorem keys (hk : Indexed k) : (k.inFlight.map Prod.fst).Perm k.numbers := by
  have h := hk.table.map Prod.fst
  rw [List.map_map] at h
  exact h

theorem nodup_keys (hk : Indexed k) : (k.inFlight.map Prod.fst).Nodup :=
  hk.keys.nodup_iff.mpr hk.numbers

theorem lookup_eq_some_iff (hk : Indexed k) {unique : UInt64} {ticket : Ticket} :
    k.inFlight.lookup unique = some ticket ↔ ∃ w ∈ k.workers, w.entry = (unique, ticket) := by
  rw [Keyed.lookup_eq_some_iff hk.nodup_keys, hk.table.mem_iff, List.mem_map]

theorem eq_of_number (hk : Indexed k) (hw : w ∈ k.workers) (hw' : w' ∈ k.workers)
    (h : w.header.unique = w'.header.unique) : w = w' :=
  List.inj_on_of_nodup_map hk.numbers hw hw' h

end Indexed

/-- The workers when an interrupt names a number, if it does. -/
def interrupted (k : Connection) (target? : Option UInt64) : List Worker :=
  k.workers.map fun w => if target? = some w.header.unique then w.cancel else w

theorem interrupted_of_missed {unique : UInt64} (h : ∀ w ∈ k.workers, w.header.unique ≠ unique) :
    k.interrupted (some unique) = k.workers := by
  refine (List.map_congr_left fun w hw => if_neg fun hnamed => ?_).trans (List.map_id _)
  exact h w hw (Option.some.inj hnamed).symm

theorem interrupted_none (k : Connection) : k.interrupted none = k.workers := by
  simp [interrupted]

/-- An interrupt cancels the worker that the table names. -/
theorem interrupt_eq_map (k : Connection) (unique : UInt64) :
    k.interrupt unique = { k with
      workers := k.workers.map fun w =>
        if k.inFlight.lookup unique = some w.ticket then w.cancel else w } := by
  unfold interrupt
  split
  · rename_i hnone
    simp [hnone]
  · rename_i ticket hsome
    have hworkers : ∀ w : Worker, (if w.ticket = ticket then { w with isCanceled := true } else w) =
        if k.inFlight.lookup unique = some w.ticket then w.cancel else w := by
      intro w
      rw [hsome]
      by_cases h : w.ticket = ticket
      · rw [if_pos h, if_pos (congrArg some h.symm), Worker.cancel]
      · rw [if_neg h, if_neg fun hsome => h (Option.some.inj hsome).symm]
    simp only [hworkers]

theorem lookup_eq_ticket_iff (hk : Indexed k) (hn : (k.workers.map (·.ticket)).Nodup)
    (hw : w ∈ k.workers) {unique : UInt64} :
    k.inFlight.lookup unique = some w.ticket ↔ unique = w.header.unique := by
  rw [hk.lookup_eq_some_iff]
  constructor
  · rintro ⟨x, hx, hentry⟩
    cases List.inj_on_of_nodup_map hn hx hw (congrArg Prod.snd hentry)
    exact (congrArg Prod.fst hentry).symm
  · intro h
    exact ⟨w, hw, by rw [h, Worker.entry]⟩

/-- An interrupt cancels the worker with the number that it names. -/
theorem interrupt_eq (hk : Indexed k) (hn : (k.workers.map (·.ticket)).Nodup) (unique : UInt64) :
    k.interrupt unique = { k with workers := k.interrupted (some unique) } := by
  rw [interrupt_eq_map]
  have hworkers : (k.workers.map fun w =>
      if k.inFlight.lookup unique = some w.ticket then w.cancel else w) =
        k.interrupted (some unique) := by
    apply List.map_congr_left
    intro w hw
    simp only [lookup_eq_ticket_iff hk hn hw, Option.some.injEq]
  rw [hworkers]

theorem heed_eq_target (k : Connection) (d : Demand) :
    k.heed d = match d.target? with
      | none => k
      | some unique => k.interrupt unique := by
  cases d with
  | unsupported opcode => rfl
  | operation op payload => cases op <;> rfl

theorem heed_eq_interrupted (hk : Indexed k) (hn : (k.workers.map (·.ticket)).Nodup) (d : Demand) :
    k.heed d = { k with workers := k.interrupted d.target? } := by
  rw [heed_eq_target]
  cases d.target? with
  | none => rw [interrupted_none]
  | some unique => exact interrupt_eq hk hn unique

/-! ## Steps from changes -/

theorem worker?_of_mem (hn : (k.workers.map (·.ticket)).Nodup) (hw : w ∈ k.workers) :
    k.worker? w.ticket = some w := by
  cases hfound : k.worker? w.ticket with
  | none =>
    have hnone := List.find?_eq_none.mp hfound w hw
    simp at hnone
  | some x =>
    obtain ⟨hx, hticket⟩ := worker?_mem hfound
    rw [List.inj_on_of_nodup_map hn hx hw hticket]

theorem IsWorkerFor.eq {now : Nat} {item : Queued} (hw : IsWorkerFor c now item w)
    (hw' : IsWorkerFor c now item w') : w = w' := by
  obtain ⟨ticket, header, op, payload, deadline, canceled, stage⟩ := w
  obtain ⟨ticket', header', op', payload', deadline', canceled', stage'⟩ := w'
  obtain ⟨hitem, hdeadline, hcanceled, hstage, -⟩ := hw
  obtain ⟨hitem', hdeadline', hcanceled', hstage', -⟩ := hw'
  cases hitem.trans hitem'.symm
  cases hdeadline.trans hdeadline'.symm
  cases hcanceled.trans hcanceled'.symm
  cases hstage.trans hstage'.symm
  rfl

theorem dispatch_of_refuses {item : Queued} {answer : Answer}
    (h : Refuses c item.callback.demand answer) :
    k.dispatch c item = k.record [⟨item.ticket, answer⟩] := by
  rcases dispatch_cases k c item with ⟨answer', hr, he⟩ | ⟨w, hw, -⟩
  · rw [he, hr.eq h]
  · exact absurd h (hw.not_refuses answer)

theorem dispatch_of_isWorkerFor {item : Queued} (hw : IsWorkerFor c k.now item w) :
    k.dispatch c item = (k.heed item.callback.demand).spawn w := by
  rcases dispatch_cases k c item with ⟨answer, hr, -⟩ | ⟨x, hx, he⟩
  · exact absurd hr (hw.not_refuses answer)
  · rw [he, hx.eq hw]

theorem step_receive {item : Queued} {queue : List Queued} (hphase : k.phase = .serving)
    (hreads : k.isShutDown = false) (hq : k.session.queue = item :: queue) :
    k.step c .receive = some ((k.withQueue queue).dispatch c item) := by
  have hnext := receive_eq_next_iff.mpr ⟨queue, hq, rfl⟩
  simp [step, hphase, hreads, hnext, withQueue]

/-- Whatever an event can do to a connection, it does. -/
theorem Change.step (h : Change c k e k') (hn : (k.workers.map (·.ticket)).Nodup) :
    k.step c e = some k' := by
  cases h with
  | queued item hsender hopen hfresh =>
    simp [Connection.step, Kernel.Session.send, hsender, hopen, hfresh, record_nil, withQueue]
  | dropped item hsender hopen hfresh =>
    simp [Connection.step, Kernel.Session.send, hsender, hopen, hfresh]
  | hungUp => rfl
  | toldToStop => rfl
  | served hready => simp [Connection.step, hready]
  | refused hphase hreads hq hr => rw [step_receive hphase hreads hq, dispatch_of_refuses hr]
  | @spawned item queue w hphase hreads hq hw =>
    have hdispatch := dispatch_of_isWorkerFor (k := k.withQueue queue) hw
    rw [step_receive hphase hreads hq, hdispatch]
  | stopped hphase hmay => simp [Connection.step, hphase, hmay]
  | posted hw hstage hrequest =>
    simp [Connection.step, worker?_of_mem hn hw, Worker.isSpawned, hstage, start, hrequest,
      Connection.posted, Worker.post]
  | failed hw hstage hfail =>
    simp [Connection.step, worker?_of_mem hn hw, Worker.isSpawned, hstage, start, hfail]
  | finished hw hend => simp [Connection.step, worker?_of_mem hn hw, hend]
  | expired hphase hlimit hle hworkers => simp [Connection.step, hphase, hlimit, hle, hworkers]
  | drained hphase hworkers => simp [Connection.step, hphase, hworkers]
  | elapsed duration => rfl

/-! ## The life of a call -/

/-- The number that an event names, where an interrupt is read. -/
def named? (k : Connection) : Event → Option UInt64
  | .receive => k.session.queue.head?.bind fun item => item.callback.demand.target?
  | _ => none

/-- An event cancels the call with a number: an interrupt that names it is read, or the time for
draining is up. -/
def Cancels (k : Connection) (e : Event) (unique : UInt64) : Prop :=
  k.named? e = some unique ∨ e = .expire

/-- An event cancels a worker: the table has it under the number that an interrupt names, or the time
for draining is up. -/
def Hits (k : Connection) (e : Event) (w : Worker) : Prop :=
  (∃ unique, k.named? e = some unique ∧ k.inFlight.lookup unique = some w.ticket) ∨ e = .expire

/-- Where the table is right, an interrupt hits the worker with the number that it names. -/
theorem hits_iff (hk : Indexed k) (hn : (k.workers.map (·.ticket)).Nodup) (hw : w ∈ k.workers) :
    k.Hits e w ↔ k.Cancels e w.header.unique := by
  refine or_congr_left ⟨?_, fun hnamed => ?_⟩
  · rintro ⟨unique, hnamed, hlookup⟩
    rw [hnamed, (lookup_eq_ticket_iff hk hn hw).mp hlookup]
  · exact ⟨_, hnamed, (lookup_eq_ticket_iff hk hn hw).mpr rfl⟩

theorem not_hits (hnamed : k.named? e = none) (he : e ≠ .expire) : ¬ k.Hits e w := by
  rintro (⟨unique, h, -⟩ | h)
  · rw [hnamed] at h
    cases h
  · exact he h

/-- What becomes of a worker whose call goes on after an event. -/
structure GoesOn (c : Settings) (k : Connection) (e : Event) (w w' : Worker) : Prop where
  item : w'.item = w.item
  deadline : w'.deadline = w.deadline
  isCanceled : w'.isCanceled = true ↔ w.isCanceled = true ∨ k.Hits e w
  /-- The worker posts its request, or it is as far as before. -/
  stage : w'.stage = w.stage ∧ (∀ reply, e ≠ .start w.ticket reply) ∨
    ∃ reply request, e = .start w.ticket reply ∧ w.stage = .spawned ∧
      w.request c.client c.target k.now = .ok request ∧
      w'.stage = .posted (reply.map fun r => (k.now + r.1, r.2))

theorem GoesOn.refl (hhits : ¬ k.Hits e w) (hstart : ∀ reply, e ≠ .start w.ticket reply) :
    GoesOn c k e w w where
  item := rfl
  deadline := rfl
  isCanceled := ⟨Or.inl, fun h => h.resolve_right hhits⟩
  stage := Or.inl ⟨rfl, hstart⟩

theorem GoesOn.cancel (hhits : k.Hits e w) (hstart : ∀ reply, e ≠ .start w.ticket reply) :
    GoesOn c k e w w.cancel where
  item := rfl
  deadline := rfl
  isCanceled := ⟨fun _ => Or.inr hhits, fun _ => rfl⟩
  stage := Or.inl ⟨rfl, hstart⟩

/-- A worker that has not started after an event did not start with it. -/
theorem GoesOn.spawned (h : GoesOn c k e w w') (hstage : w'.stage = .spawned) :
    w.stage = .spawned ∧ ∀ reply, e ≠ .start w.ticket reply := by
  rcases h.stage with ⟨hsame, hother⟩ | ⟨reply, request, -, -, -, hposted⟩
  · exact ⟨hsame.symm.trans hstage, hother⟩
  · rw [hposted] at hstage
    cases hstage

/-- What the connection refuses is no interrupt. -/
theorem target?_of_refuses {d : Demand} {answer : Answer} (h : Refuses c d answer) :
    d.target? = none := by
  cases h with
  | unsupported opcode => rfl
  | @readOnly op payload _ hop => cases op <;> first | rfl | cases hop

theorem named?_receive {item : Queued} {queue : List Queued} (hq : k.session.queue = item :: queue) :
    k.named? .receive = item.callback.demand.target? := by
  simp [named?, hq]

/-- All workers go on when a callback is read, and the one that an interrupt hits is canceled. -/
theorem goesOn_heed {item : Queued} {queue : List Queued} (hq : k.session.queue = item :: queue)
    (hw' : w' ∈ ((k.withQueue queue).heed item.callback.demand).workers) :
    ∃ w ∈ k.workers, GoesOn c k .receive w w' := by
  have hnamed := named?_receive hq
  rw [heed_eq_target] at hw'
  cases htarget : item.callback.demand.target? with
  | none =>
    rw [htarget] at hw'
    exact ⟨w', hw', .refl (not_hits (hnamed.trans htarget) (by simp)) (by simp)⟩
  | some unique =>
    rw [htarget] at hw'
    change w' ∈ ((k.withQueue queue).interrupt unique).workers at hw'
    rw [interrupt_eq_map] at hw'
    obtain ⟨x, hx, rfl⟩ := List.mem_map.mp hw'
    refine ⟨x, hx, ?_⟩
    change GoesOn c k .receive x (if k.inFlight.lookup unique = some x.ticket then _ else _)
    by_cases hlookup : k.inFlight.lookup unique = some x.ticket
    · rw [if_pos hlookup]
      exact .cancel (Or.inl ⟨unique, hnamed.trans htarget, hlookup⟩) (by simp)
    · rw [if_neg hlookup]
      refine .refl ?_ (by simp)
      rintro (⟨named, hsame, hfound⟩ | h)
      · rw [hnamed, htarget] at hsame
        cases hsame
        exact hlookup hfound
      · cases h

/-- All workers go on when one of them posts its request. -/
theorem goesOn_posted {reply : Option (Nat × Client.Outcome)} {request : Client.Request}
    (hn : (k.workers.map (·.ticket)).Nodup) (hw : w ∈ k.workers) (hstage : w.stage = .spawned)
    (hrequest : w.request c.client c.target k.now = .ok request)
    (hw' : w' ∈ (k.posted w reply request).workers) :
    ∃ x ∈ k.workers, GoesOn c k (.start w.ticket reply) x w' := by
  obtain ⟨x, hx, rfl⟩ := List.mem_map.mp hw'
  refine ⟨x, hx, ?_⟩
  by_cases hticket : x.ticket = w.ticket
  · cases List.inj_on_of_nodup_map hn hx hw hticket
    rw [if_pos rfl]
    exact ⟨rfl, rfl, ⟨Or.inl, fun h => h.resolve_right (not_hits rfl (by simp))⟩,
      Or.inr ⟨reply, request, rfl, hstage, hrequest, rfl⟩⟩
  · rw [if_neg hticket]
    refine .refl (not_hits rfl (by simp)) fun reply' he => ?_
    exact hticket (Event.start.inj he).1.symm

/-- A worker has just been spawned for the callback that was read, or it goes on. -/
theorem Change.origin (h : Change c k e k') (hn : (k.workers.map (·.ticket)).Nodup)
    (hw' : w' ∈ k'.workers) :
    (∃ item queue, e = .receive ∧ k.session.queue = item :: queue ∧
      IsWorkerFor c k.now item w') ∨ ∃ w ∈ k.workers, GoesOn c k e w w' := by
  -- most events leave the workers alone
  have hkeep : k'.workers = k.workers → k.named? e = none → e ≠ .expire →
      (∀ t reply, e ≠ .start t reply) → ∃ w ∈ k.workers, GoesOn c k e w w' := by
    intro hsame hnamed hexpire hstart
    rw [hsame] at hw'
    exact ⟨w', hw', .refl (not_hits hnamed hexpire) (hstart _)⟩
  cases h with
  | queued | dropped | hungUp | toldToStop | served | stopped | drained | elapsed =>
    exact Or.inr (hkeep rfl rfl (by simp) (by simp))
  | refused _ _ hq hr =>
    have hnamed := (named?_receive hq).trans (target?_of_refuses hr)
    exact Or.inr (hkeep rfl hnamed (by simp) (by simp))
  | @spawned item queue w hphase hreads hq hw =>
    rcases List.mem_append.mp hw' with hw' | hw'
    · exact Or.inr (goesOn_heed hq hw')
    · left
      cases List.mem_singleton.mp hw'
      exact ⟨item, queue, rfl, hq, hw⟩
  | posted hw hstage hrequest => exact Or.inr (goesOn_posted hn hw hstage hrequest hw')
  | @failed w reply cause hw hstage hfail =>
    obtain ⟨hx, hticket⟩ : w' ∈ k.workers ∧ w'.ticket ≠ w.ticket := by simpa [retire] using hw'
    refine Or.inr ⟨w', hx, .refl (not_hits rfl (by simp)) fun reply' he => ?_⟩
    exact hticket (Event.start.inj he).1.symm
  | @finished w end' hw hend =>
    have hx : w' ∈ k.workers := List.mem_of_mem_filter hw'
    exact Or.inr ⟨w', hx, .refl (not_hits rfl (by simp)) (by simp)⟩
  | expired =>
    obtain ⟨x, hx, rfl⟩ := List.mem_map.mp hw'
    exact Or.inr ⟨x, hx, .cancel (Or.inr rfl) (by simp)⟩

theorem Change.goesOn (h : Change c k e k') (hk : Sound k) (hw : w ∈ k.workers)
    (hstays : w.item ∈ k'.inWork) : ∃ w' ∈ k'.workers, GoesOn c k e w w' := by
  have hn := nodup_workers hk.nodup
  obtain ⟨w', hw', hitem⟩ := List.mem_map.mp hstays
  refine ⟨w', hw', ?_⟩
  rcases h.origin hn hw' with ⟨item, queue, -, hq, hnew⟩ | ⟨x, hx, hgo⟩
  · -- the callback of a worker does not wait in the queue
    have hdisjoint := (List.nodup_append.mp (List.nodup_append.mp hk.nodup).1).2.2
    have hqueued : item.ticket ∈ k.session.queue.map (·.ticket) := by simp [hq]
    have hworking : w.item.ticket ∈ k.inWork.map (·.ticket) :=
      List.mem_map_of_mem (f := Queued.ticket) (List.mem_map_of_mem hw)
    refine absurd ?_ (hdisjoint _ hqueued _ hworking)
    rw [← hitem, hnew.item]
  · have hticket : x.ticket = w.ticket := congrArg Queued.ticket (hgo.item.symm.trans hitem)
    rwa [List.inj_on_of_nodup_map hn hx hw hticket] at hgo

/-- The call of a worker fails before it is posted, is over, or goes on. -/
theorem Change.next (h : Change c k e k') (hk : Sound k) (hw : w ∈ k.workers) :
    (∃ reply cause, e = .start w.ticket reply ∧ w.stage = .spawned ∧
      w.request c.client c.target k.now = .error cause ∧
      k' = k.retire w (.error cause.toErrno)) ∨
    (∃ ended, e = .finish w.ticket ∧ w.ending? k.now = some ended ∧
      k' = k.retire w (w.answer c.client ended)) ∨
    ∃ w' ∈ k'.workers, GoesOn c k e w w' := by
  have hn := nodup_workers hk.nodup
  have hstays := h.goesOn hk hw
  have hworking : w.item ∈ k.inWork := List.mem_map_of_mem hw
  cases h with
  | queued | dropped | hungUp | toldToStop | served | refused | stopped | elapsed =>
    exact Or.inr (Or.inr (hstays hworking))
  | @spawned item queue x hphase hreads hq hx =>
    refine Or.inr (Or.inr (hstays ?_))
    rw [spawn_inWork, (heed_keeps _).inWork]
    exact List.mem_append_left _ hworking
  | posted hx hstage hrequest =>
    refine Or.inr (Or.inr (hstays ?_))
    rw [(posted_keeps _ _ _).inWork]
    exact hworking
  | @failed x reply cause hx hstage hfail =>
    by_cases hticket : w.ticket = x.ticket
    · cases List.inj_on_of_nodup_map hn hw hx hticket
      exact Or.inl ⟨reply, cause, rfl, hstage, hfail, rfl⟩
    · refine Or.inr (Or.inr (hstays ?_))
      exact List.mem_map_of_mem (by simpa [retire] using ⟨hw, hticket⟩)
  | @finished x ended hx hend =>
    by_cases hticket : w.ticket = x.ticket
    · cases List.inj_on_of_nodup_map hn hw hx hticket
      exact Or.inr (Or.inl ⟨ended, rfl, hend, rfl⟩)
    · refine Or.inr (Or.inr (hstays ?_))
      exact List.mem_map_of_mem (by simpa [retire] using ⟨hw, hticket⟩)
  | expired hphase hlimit hle hworkers =>
    refine Or.inr (Or.inr (hstays ?_))
    rw [cancelAll_keeps.inWork]
    exact hworking
  | drained hphase hworkers =>
    rw [hworkers] at hw
    cases hw

/-! ## Answers to a call -/

theorem Sound.answersTo_eq (hk : Sound k) {a : Nat × Kernel.Answered} (ha : a ∈ k.answers) :
    k.answersTo a.2.ticket = [a.2.answer] := by
  have hn : (k.answers.map (·.2.ticket)).Nodup := (List.nodup_append.mp hk.nodup).2.1
  rw [answersTo, Keyed.filter_eq_singleton hn ha]
  rfl

theorem answersTo_retire {answer : Answer} (hk : Sound (k.retire w answer)) :
    (k.retire w answer).answersTo w.ticket = [answer] := by
  have hmem : (k.now, (⟨w.ticket, answer⟩ : Kernel.Answered)) ∈ (k.retire w answer).answers := by
    simp [retire]
  exact hk.answersTo_eq hmem

theorem Sound.answersTo_of_mem (hk : Sound k) (hw : w ∈ k.workers) : k.answersTo w.ticket = [] := by
  have hdisjoint := (List.nodup_append.mp hk.nodup).2.2
  rcases hk.answersTo_cases w.ticket with hnone | ⟨a, ha, hticket, -⟩
  · exact hnone
  · have hwork : w.ticket ∈ k.inWork.map (·.ticket) := by
      rw [map_ticket_inWork]
      exact List.mem_map_of_mem hw
    have hanswer : w.ticket ∈ k.answers.map (·.2.ticket) := List.mem_map.mpr ⟨a, ha, hticket⟩
    exact absurd rfl (hdisjoint _ (List.mem_append_right _ hwork) _ hanswer)

/-- A callback that was sent waits in the queue, is with a worker, or has its answer. -/
theorem place_of_sent {now : Nat} {events : List Event} {item : Queued}
    (hrun : (ofInstant now).run c events = some k) (hsent : item ∈ Event.sent events) :
    item ∈ k.session.queue ∨ item ∈ k.inWork ∨
      ∃ answer, k.answersTo item.ticket = [answer] ∧ Fate c now events item answer := by
  have hrec := run_recorded hrun
  have hsame : ∀ item' ∈ Event.sent events, item'.ticket = item.ticket → item' = item :=
    fun item' hitem' h => List.inj_on_of_nodup_map (run_nodup_sent hrun) hitem' hsent h
  have hplace : item.ticket ∈ k.tickets :=
    (run_tickets hrun).mem_iff.mpr (List.mem_map_of_mem hsent)
  rcases List.mem_append.mp hplace with hplace | hanswered
  · rcases List.mem_append.mp hplace with hqueued | hworking
    · obtain ⟨x, hx, hticket⟩ := List.mem_map.mp hqueued
      exact Or.inl (hsame x (hrec.queued x hx).1 hticket ▸ hx)
    · obtain ⟨x, hx, hticket⟩ := List.mem_map.mp hworking
      exact Or.inr (Or.inl (hsame x (hrec.working x hx).1 hticket ▸ hx))
  · obtain ⟨a, ha, hticket⟩ := List.mem_map.mp hanswered
    obtain ⟨item', hitem', hsame', hfate⟩ := hrec.answered a ha
    cases hsame item' hitem' (hsame'.trans hticket)
    refine Or.inr (Or.inr ⟨a.2.answer, ?_, hfate⟩)
    rw [← hticket]
    exact (run_sound hrun).answersTo_eq ha

/-- A callback that was read and is forwarded is answered with what its worker got. -/
theorem served_of_forwarded {now : Nat} {events : List Event} {item : Queued}
    (hrun : (ofInstant now).run c events = some k) (hread : IsRead c now events item)
    (hfwd : ∀ a, ¬ Refuses c item.callback.demand a) :
    ∀ answer ∈ k.answersTo item.ticket, IsServed c now events item answer := by
  intro answer hanswer
  have hrec := run_recorded hrun
  rcases place_of_sent hrun (hrec.read item hread) with hqueued | hworking | ⟨given, hgiven, hfate⟩
  · exact absurd hread (hrec.queued item hqueued).2
  · obtain ⟨w, hw, rfl⟩ := List.mem_map.mp hworking
    have hnone := (run_sound hrun).answersTo_of_mem hw
    change answer ∈ k.answersTo w.ticket at hanswer
    rw [hnone] at hanswer
    cases hanswer
  · rw [hgiven, List.mem_singleton] at hanswer
    subst hanswer
    cases hfate with
    | unread hunread => exact absurd hread hunread
    | refused _ hr => exact absurd hr (hfwd _)
    | served _ _ hserved => exact hserved

/-! ## Runs -/

theorem retire_table (hk : Indexed k) (hn : (k.workers.map (·.ticket)).Nodup)
    (hw : w ∈ k.workers) (answer : Answer) :
    (k.retire w answer).inFlight.Perm ((k.retire w answer).workers.map Worker.entry) := by
  have hentry : w.entry ∈ k.inFlight := hk.table.mem_iff.mpr (List.mem_map_of_mem hw)
  have hleft := Keyed.perm_cons_filter hk.nodup_keys hentry
  have hright := (Keyed.perm_cons_filter hn hw).map Worker.entry
  rw [List.map_cons] at hright
  exact (List.perm_cons _).mp (hleft.symm.trans (hk.table.trans hright))

theorem not_mem_numbers_of_spawn (hnew : (k.spawn w).numbers.Nodup) :
    w.header.unique ∉ k.numbers := by
  have happ : (k.numbers ++ [w.header.unique]).Nodup := by
    simpa [numbers, spawn] using hnew
  have hapart := (List.nodup_append.mp happ).2.2
  intro hin
  exact hapart _ hin _ (List.mem_singleton_self _) rfl

/-- No entry has a number that is not in flight, so none is replaced. -/
theorem Indexed.filter_eq (hk : Indexed k) {unique : UInt64} (hout : unique ∉ k.numbers) :
    k.inFlight.filter (·.1 ≠ unique) = k.inFlight := by
  refine List.filter_eq_self.mpr fun entry hentry => ?_
  have hkey : entry.1 ∈ k.numbers := hk.keys.mem_iff.mp (List.mem_map_of_mem hentry)
  have hne : entry.1 ≠ unique := fun h => hout (h ▸ hkey)
  simpa using hne

theorem spawn_eq (hk : Indexed k) (hout : w.header.unique ∉ k.numbers) :
    k.spawn w = { k with
      workers := k.workers ++ [w]
      inFlight := w.entry :: k.inFlight } := by
  rw [spawn, hk.filter_eq hout, Worker.entry]

theorem spawn_table (hk : Indexed k) (hnew : (k.spawn w).numbers.Nodup) :
    (k.spawn w).inFlight.Perm ((k.spawn w).workers.map Worker.entry) := by
  rw [spawn_eq hk (not_mem_numbers_of_spawn hnew), List.map_append, List.map_singleton]
  exact (hk.table.cons w.entry).trans (List.perm_append_singleton _ _).symm

theorem Keeps.indexed (h : Keeps k k') (hk : Indexed k) : Indexed k' where
  numbers := by
    rw [numbers_eq_inWork, h.inWork, ← numbers_eq_inWork]
    exact hk.numbers
  table := by
    rw [h.inFlight, map_entry_inWork, h.inWork, ← map_entry_inWork]
    exact hk.table

/-- The table stays right as long as the numbers in flight differ. -/
theorem Effect.indexed (h : Effect c k e k') (hk : Indexed k)
    (hn : (k.workers.map (·.ticket)).Nodup) (hnew : k'.numbers.Nodup) : Indexed k' := by
  refine ⟨hnew, ?_⟩
  cases h with
  | queued item hopen hfresh => exact hk.table
  | dropped item hopen hfresh => exact hk.table
  | refused hphase hq hr => exact hk.table
  | @spawned item queue w hphase hq hw =>
    have hread : Indexed (k.withQueue queue) := ⟨hk.numbers, hk.table⟩
    exact spawn_table ((heed_keeps _).indexed hread) hnew
  | stopped hphase => exact hk.table
  | ended hw hend => exact retire_table hk hn hw _
  | drained hphase hworkers => exact hk.table
  | kept hsent hne hkeeps => exact (hkeeps.indexed hk).table

/-- At no moment of a run two callbacks in flight have the same number. -/
def DistinctInFlight (c : Settings) (now : Nat) (events : List Event) : Prop :=
  ∀ before k, before <+: events → (ofInstant now).run c before = some k → k.numbers.Nodup

theorem DistinctInFlight.of_prefix {now : Nat} {before events : List Event}
    (h : DistinctInFlight c now events) (hbefore : before <+: events) :
    DistinctInFlight c now before :=
  fun first k hfirst hrun => h first k (hfirst.trans hbefore) hrun

theorem run_indexed {now : Nat} {events : List Event} (hd : DistinctInFlight c now events)
    (h : (ofInstant now).run c events = some k) : Indexed k := by
  refine Run.foldlM_induction (P := fun events k => DistinctInFlight c now events → Indexed k)
    ?_ ?_ h hd
  · intro _
    exact ⟨List.nodup_nil, List.Perm.refl _⟩
  · intro events k e k' hrun ih hstep hd
    have hnow : k'.numbers.Nodup := by
      refine hd _ k' (List.prefix_refl _) ?_
      exact Run.foldlM_append_of hrun (by simpa using hstep)
    have hk := ih (hd.of_prefix (List.prefix_append _ _))
    exact (step_effect hstep).indexed hk (nodup_workers (run_sound hrun).nodup) hnow

/-- Numbers in flight differ where all callbacks that are sent have different numbers. -/
theorem distinctInFlight_of_sent {now : Nat} {events : List Event}
    (h : ((Event.sent events).map (·.callback.header.unique)).Nodup) :
    DistinctInFlight c now events := by
  intro before k hbefore hrun
  have hitems : k.inWork.Nodup := by
    have hn := nodup_workers (run_sound hrun).nodup
    rw [← map_ticket_inWork] at hn
    exact hn.of_map
  have hsent : ∀ item ∈ k.inWork, item ∈ Event.sent events := by
    intro item hitem
    have hearly := ((run_recorded hrun).working item hitem).1
    exact (hbefore.filterMap Event.sent?).subset hearly
  rw [numbers_eq_inWork]
  refine hitems.map_on fun x hx y hy hsame => ?_
  exact List.inj_on_of_nodup_map h (hsent x hx) (hsent y hy) hsame

end Connection

end FsGateway.Gateway
