import FsGateway.Mount.Files
import FsGateway.Proofs.Connection.Circumstances
import FsGateway.Proofs.Manager.Sessions

/-!
# Calls do not depend on each other

In virtual time a call ends at the very instant at which it can end. Whatever else its connection
does meanwhile, for other callbacks or for the kernel, and whatever happens on other connections, its
answer and the instant of its answer are the same.

* `Waiting`: what holds as long as the call of a worker goes on.
* `Closing`: how far the end of the connection is.
* `Progress.step`: an event keeps both, or the call gets its answer.
* `answer_independent`: a callback is answered as its circumstances say.
-/

namespace FsGateway.Gateway

theorem Worker.of_item_eq {w w' : Worker} (h : w'.item = w.item) :
    w'.ticket = w.ticket ∧ w'.header = w.header ∧ w'.operation = w.operation := by
  simp only [Worker.item, Kernel.Queued.mk.injEq, Kernel.Callback.mk.injEq,
    Kernel.Demand.operation.injEq] at h
  exact ⟨h.1, h.2.1, h.2.2.1⟩

namespace Connection

open Kernel (Queued Ticket Header Answer Answered)
open Client (Outcome Cause delivered)
open Wire (Operation)

variable {c : Settings} {k k' : Connection} {e : Event} {w w' : Worker} {s : Circumstances}
  {answer : Answer}

/-! ## How far the end is -/

theorem Change.serving (h : Change c k .receive k') : k.phase = .serving := by
  cases h with
  | refused hphase | spawned hphase => exact hphase

/-- How far the end of a connection is on which a call goes on. -/
inductive Closing (c : Settings) (s : Circumstances) (k : Connection) : Prop
  /-- The session has not ended. -/
  | serving : k.phase = .serving → k.hasEnded = false → s.ended = none → Closing c s k
  /-- The session ended before the callback was read, or it has just ended. -/
  | ending {i : Nat} : k.phase = .serving → k.hasEnded = true → s.ended = some i →
      max s.dispatched i = k.now → Closing c s k
  /-- The connection waits for its workers, until the time for it is up. -/
  | draining : k.phase = .draining → s.ended ≠ none →
      (k.drainLimit = s.limit c ∨ ∀ w ∈ k.workers, w.isCanceled = true) → Closing c s k

namespace Closing

variable (h : Closing c s k)

include h

theorem kept (hchange : Change c k e k') (hn : (k.workers.map (·.ticket)).Nodup)
    (hdispatched : s.dispatched ≤ k.now) (hsettled : ∀ duration, e = .elapse duration → Settled c k)
    (hphase : k'.phase = k.phase) (hlimit : k'.drainLimit = k.drainLimit) (unique : UInt64) :
    Closing c (s.after unique k e) k' := by
  have hended := hchange.hasEnded
  have hnow := hchange.now
  cases h with
  | serving hserving hopen hnone =>
    rw [hopen, Bool.false_or] at hended
    cases hend : e.isEnd with
    | false =>
      refine .serving (hphase.trans hserving) (hended.trans hend) ?_
      simp [Circumstances.after, hnone, hend]
    | true =>
      have hfirst : (s.after unique k e).ended = some k.now := by
        simp [Circumstances.after, hnone, hend]
      refine .ending (hphase.trans hserving) (hended.trans hend) hfirst ?_
      have hduration : e.duration = 0 := by
        apply Event.duration_eq_zero
        rintro duration rfl
        cases hend
      rw [hnow, hduration]
      exact Nat.max_eq_right hdispatched
  | ending hserving hover hi hmax =>
    -- a connection that has still to stop is not settled, so no time passes
    have hduration : e.duration = 0 := by
      apply Event.duration_eq_zero
      intro duration he
      have hopen := (hsettled duration he).not_ended hn hserving
      rw [hover] at hopen
      cases hopen
    rw [hover, Bool.true_or] at hended
    refine .ending (hphase.trans hserving) hended (Circumstances.ended_after hi) ?_
    rw [hnow, hduration]
    exact hmax
  | draining hdraining hi hlimit' =>
    refine .draining (hphase.trans hdraining) (Circumstances.ended_after_ne_none hi) ?_
    rw [Circumstances.limit_after hi]
    refine hlimit'.imp (fun h => hlimit.trans h) fun hall w' hw' => ?_
    rcases hchange.origin hn hw' with ⟨item, queue, rfl, -, -⟩ | ⟨w, hw, hgo⟩
    · have hserving := hchange.serving
      rw [hdraining] at hserving
      cases hserving
    · exact hgo.isCanceled.mpr (Or.inl (hall w hw))

theorem stopped (hserving : k.phase = .serving) (hover : k.hasEnded = true)
    (hdraining : k'.phase = .draining) (hlimit : k'.drainLimit = c.drainTimeout.map (k.now + ·))
    (unique : UInt64) (e : Event) : Closing c (s.after unique k e) k' := by
  cases h with
  | serving _ hopen =>
    rw [hover] at hopen
    cases hopen
  | @ending i _ _ hi hmax =>
    have hsome : s.ended ≠ none := by
      rw [hi]
      exact Option.some_ne_none i
    refine .draining hdraining (Circumstances.ended_after_ne_none hsome) (Or.inl ?_)
    rw [Circumstances.limit_after hsome, hlimit, Circumstances.limit, hi, Option.bind_some, hmax]
  | draining hdraining' =>
    rw [hserving] at hdraining'
    cases hdraining'

theorem ended_ne_none (hdraining : k.phase = .draining) : s.ended ≠ none := by
  cases h with
  | serving hserving | ending hserving =>
    rw [hdraining] at hserving
    cases hserving
  | draining _ hi => exact hi

theorem not_ready : k.phase ≠ .ready := by
  cases h with
  | serving hphase | ending hphase | draining hphase => simp [hphase]

theorem change (hchange : Change c k e k') (hn : (k.workers.map (·.ticket)).Nodup)
    (hworkers : k.workers ≠ []) (hdispatched : s.dispatched ≤ k.now)
    (hsettled : ∀ duration, e = .elapse duration → Settled c k) (unique : UInt64) :
    Closing c (s.after unique k e) k' := by
  rcases hchange.closing with ⟨hphase, hlimit⟩ | ⟨-, hready⟩ |
    ⟨-, hserving, hover, hdraining, hlimit⟩ | ⟨-, hdraining, hdraining', hcanceled⟩ | ⟨-, hnone⟩
  · exact h.kept hchange hn hdispatched hsettled hphase hlimit unique
  · exact absurd hready h.not_ready
  · exact h.stopped hserving hover hdraining hlimit unique e
  · have hended := h.ended_ne_none hdraining
    exact .draining hdraining' (Circumstances.ended_after_ne_none hended) (Or.inr hcanceled)
  · exact absurd hnone hworkers

/-- While a call that is not canceled goes on and nothing can happen, the time for draining is not
up, and it is an instant at which something may happen. -/
theorem ahead (hsettled : Settled c k)
    (hn : (k.workers.map (·.ticket)).Nodup) (hw : w ∈ k.workers) (hlive : w.isCanceled = false) :
    ∀ i ∈ s.limit c, i ∈ k.instants ∧ k.now < i := by
  intro i hi
  cases h with
  | serving _ _ hnone =>
    rw [Circumstances.limit, hnone] at hi
    cases hi
  | ending hserving hover =>
    have hopen := hsettled.not_ended hn hserving
    rw [hover] at hopen
    cases hopen
  | draining hdraining _ hlimit =>
    rcases hlimit with hlimit | hall
    · rw [← hlimit] at hi
      refine ⟨?_, hsettled.drainLimit hn hdraining hw i hi⟩
      rw [instants, if_pos hdraining]
      exact List.mem_append_right _ (Option.mem_toList.mpr hi)
    · rw [hall w hw] at hlive
      cases hlive

theorem expired (hchange : Change c k .expire k') (hw : w ∈ k.workers)
    (hlive : w.isCanceled = false) : ∃ limit ≤ k.now, s.limit c = some limit := by
  cases hchange with
  | @expired limit hphase hlimit hle =>
    cases h with
    | serving hserving | ending hserving =>
      rw [hphase] at hserving
      cases hserving
    | draining _ _ hsame =>
      rcases hsame with hsame | hall
      · exact ⟨limit, hle, hsame.symm.trans hlimit⟩
      · rw [hall w hw] at hlive
        cases hlive

end Closing

/-! ## A call that goes on -/

/-- What holds as long as the call of a worker goes on. -/
structure Waiting (c : Settings) (s : Circumstances) (w : Worker) (k : Connection) : Prop where
  dispatched : s.dispatched ≤ k.now
  deadline : w.deadline = c.requestTimeout.map (s.dispatched + ·)
  /-- A call that has not started was read just now. -/
  stage : w.stage = .spawned ∧ k.now = s.dispatched ∨
    w.stage = .posted (s.arrival c w.header w.operation) ∧
      w.deadline = s.deadline c w.operation
  /-- Nothing has ended the call before. -/
  first : ∀ i ∈ s.instants c w.header w.operation, k.now ≤ i
  canceled : w.isCanceled = true → s.cancel c = some k.now
  live : w.isCanceled = false → s.named = none

theorem deadline_of_url {op : Operation} {url : Url} (h : c.target.append op.path = .ok url) :
    s.deadline c op = c.requestTimeout.map (s.dispatched + ·) := by
  rw [Circumstances.deadline, h]

theorem arrival_of_url {header : Header} {op : Operation} {url : Url}
    (h : c.target.append op.path = .ok url) :
    s.arrival c header op = (delivered c.client ⟨c.target, header.identity⟩ s.reply).map fun r =>
      (s.dispatched + r.1, r.2) := by
  rw [Circumstances.arrival, h]

/-- Time passes only over a call that has been posted and is not canceled. -/
theorem duration_of_busy (hn : (k.workers.map (·.ticket)).Nodup) (hw : w ∈ k.workers)
    (htime : ∀ duration, e = .elapse duration → Patient c k duration)
    (hbusy : w.stage = .spawned ∨ w.isCanceled = true) : e.duration = 0 := by
  apply Event.duration_eq_zero
  intro duration he
  obtain ⟨⟨reply, hposted, -⟩, hlive, -⟩ := (htime duration he).settled.worker hn hw
  rcases hbusy with hspawned | hcanceled
  · rw [hposted] at hspawned
    cases hspawned
  · rw [hlive] at hcanceled
    cases hcanceled

namespace Waiting

variable (h : Waiting c s w k)

include h

theorem now_of_spawned (hstage : w.stage = .spawned) : k.now = s.dispatched := by
  rcases h.stage with ⟨-, hnow⟩ | ⟨hposted, -⟩
  · exact hnow
  · rw [hstage] at hposted
    cases hposted

theorem of_posted {reply : Option (Nat × Outcome)} (hstage : w.stage = .posted reply) :
    reply = s.arrival c w.header w.operation ∧ w.deadline = s.deadline c w.operation := by
  rcases h.stage with ⟨hspawned, -⟩ | ⟨harrival, hdeadline⟩
  · rw [hstage] at hspawned
    cases hspawned
  · exact ⟨Stage.posted.inj (hstage.symm.trans harrival), hdeadline⟩

theorem isExpired_iff (hdeadline : w.deadline = s.deadline c w.operation) :
    w.isExpired k.now = true ↔ s.deadline c w.operation = some k.now := by
  have hfirst := (Circumstances.forall_instants.mp h.first).2.1
  rw [← hdeadline] at hfirst ⊢
  rw [Worker.isExpired, Option.any_eq_true]
  constructor
  · rintro ⟨i, hi, hle⟩
    rw [hi, Nat.le_antisymm (of_decide_eq_true hle) (hfirst i hi)]
  · intro hi
    exact ⟨k.now, hi, decide_eq_true (Nat.le_refl _)⟩

theorem before_deadline (hdeadline : w.deadline = s.deadline c w.operation)
    (hlive : w.isExpired k.now = false) : ∀ i ∈ s.deadline c w.operation, k.now < i := by
  intro i hi
  apply Nat.lt_of_le_of_ne ((Circumstances.forall_instants.mp h.first).2.1 i hi)
  rintro rfl
  rw [(h.isExpired_iff hdeadline).mpr hi] at hlive
  cases hlive

/-- A call that fails when it starts gets the answer that its circumstances say. -/
theorem decides_failed {cause : Cause} (hstage : w.stage = .spawned)
    (hfail : w.request c.client c.target k.now = .error cause) :
    s.Decides c w.header w.operation k.now (.error cause.toErrno) := by
  refine ⟨h.first, ?_⟩
  have hnow := h.now_of_spawned hstage
  have hcanceled := h.canceled
  have hexpires := h.isExpired_iff
  have hlive := h.before_deadline
  have hstarts := w.starts c.client c.target k.now
  rw [hfail] at hstarts
  generalize w.isCanceled = canceled at hstarts hcanceled
  generalize w.isExpired k.now = expired at hstarts hexpires hlive
  cases hstarts with
  | canceled => exact .canceled (hcanceled rfl)
  | unreachable hurl =>
    have harrival : s.arrival c w.header w.operation =
        some (k.now, .error (.invalidUrl (c.target.appendText w.operation.path))) := by
      rw [Circumstances.arrival, hurl, hnow]
    have hdeadline : s.deadline c w.operation = none := by
      rw [Circumstances.deadline, hurl]
    have hlate : ∀ i ∈ s.deadline c w.operation, k.now < i := by simp [hdeadline]
    have hends := Circumstances.EndsAt.replied harrival hlate
    exact hends
  | expired hurl =>
    have hdeadline := h.deadline.trans (deadline_of_url hurl).symm
    exact .timedOut ((hexpires hdeadline).mp rfl)
  | refused hurl hcannot =>
    have hdeadline := h.deadline.trans (deadline_of_url hurl).symm
    have harrival : s.arrival c w.header w.operation =
        some (k.now, .error (.invalidHeader Client.authorizationHeader)) := by
      rw [arrival_of_url hurl, delivered, hcannot, hnow]
      rfl
    have hends := Circumstances.EndsAt.replied harrival (hlive hdeadline rfl)
    exact hends

theorem decides_finished {ended : Client.End} (hend : w.ending? k.now = some ended) :
    s.Decides c w.header w.operation k.now (w.answer c.client ended) := by
  refine ⟨h.first, ?_⟩
  cases Worker.ending_eq_some_iff.mp hend with
  | canceled _ hcanceled => exact .canceled (h.canceled hcanceled)
  | expired hstage _ hexpired =>
    obtain ⟨-, hdeadline⟩ := h.of_posted hstage
    exact .timedOut ((h.isExpired_iff hdeadline).mp hexpired)
  | replied hstage _ hearly hle =>
    obtain ⟨harrival, hdeadline⟩ := h.of_posted hstage
    have hfirst := (Circumstances.forall_instants.mp h.first).2.2 _ harrival.symm
    cases Nat.le_antisymm hle hfirst
    exact .replied harrival.symm (h.before_deadline hdeadline hearly)

/-- Where nothing can happen, all that can end the call is ahead of it. -/
theorem ahead (hclosing : Closing c s k) (hsettled : Settled c k)
    (hn : (k.workers.map (·.ticket)).Nodup) (hw : w ∈ k.workers) :
    ∀ i ∈ s.instants c w.header w.operation, i ∈ k.instants ∧ k.now < i := by
  obtain ⟨⟨reply, hposted, hreply⟩, hlive, hdeadline⟩ := hsettled.worker hn hw
  obtain ⟨harrival, hsame⟩ := h.of_posted hposted
  rw [harrival] at hposted hreply
  have hmem : ∀ i ∈ w.instants, i ∈ k.instants := by
    intro i hi
    exact List.mem_append_left _ (List.mem_flatMap.mpr ⟨w, hw, hi⟩)
  rw [Worker.instants, hposted] at hmem
  rw [Circumstances.forall_instants]
  refine ⟨?_, fun i hi => ?_, fun r hr => ⟨hmem r.1 ?_, hreply r hr⟩⟩
  · rw [Circumstances.cancel_of_unnamed (h.live hlive)]
    exact hclosing.ahead hsettled hn hw hlive
  · rw [← hsame] at hi
    exact ⟨hmem i (List.mem_append_left _ (Option.mem_toList.mpr hi)), hdeadline i hi⟩
  · apply List.mem_append_right
    exact Option.mem_toList.mpr (Option.mem_map_of_mem Prod.fst hr)

theorem le_limit : ∀ i ∈ s.limit c, k.now ≤ i := by
  have hcancel := (Circumstances.forall_instants.mp h.first).1
  exact ((Circumstances.forall_cancel fun i j hij hi => Nat.le_trans hi hij).mp hcancel).2

/-- The outcome of a request arrives after its delay, counted from the start. -/
theorem of_request {request : Client.Request} (hstage : w.stage = .spawned)
    (hrequest : w.request c.client c.target k.now = .ok request) :
    (s.reply.map fun r => (k.now + r.1, r.2)) = s.arrival c w.header w.operation ∧
      w.deadline = s.deadline c w.operation := by
  obtain ⟨-, -, hcan, hr⟩ := Worker.request_eq_ok hrequest
  rw [arrival_of_url hr.url, delivered, if_pos hcan, h.now_of_spawned hstage]
  exact ⟨rfl, h.deadline.trans (deadline_of_url hr.url).symm⟩

theorem first_after (hclosing : Closing c s k) (hchange : Change c k e k')
    (hn : (k.workers.map (·.ticket)).Nodup) (hw : w ∈ k.workers)
    (htime : ∀ duration, e = .elapse duration → Patient c k duration) :
    ∀ i ∈ (s.after w.header.unique k e).instants c w.header w.operation, k'.now ≤ i := by
  have hnow := hchange.now
  by_cases helapse : ∃ duration, e = .elapse duration
  · obtain ⟨duration, rfl⟩ := helapse
    have hpatient := htime duration rfl
    rw [Circumstances.after_of_quiet rfl rfl]
    intro i hi
    obtain ⟨hmem, hlt⟩ := h.ahead hclosing hpatient.settled hn hw i hi
    rw [hnow]
    exact hpatient.instants i hmem hlt
  · have hduration : e.duration = 0 :=
      Event.duration_eq_zero fun duration he => helapse ⟨duration, he⟩
    rw [hnow, hduration]
    exact Circumstances.le_instants_after (Nat.le_refl _) h.first

/-- An event that cancels the call does so at the first instant at which the call is canceled. -/
theorem cancel_of_hits (hclosing : Closing c s k) (hchange : Change c k e k')
    (hw : w ∈ k.workers) (hlive : w.isCanceled = false) (hcancels : k.Cancels e w.header.unique)
    (hfirst : ∀ i ∈ (s.after w.header.unique k e).instants c w.header w.operation, k'.now ≤ i) :
    (s.after w.header.unique k e).cancel c = some k'.now := by
  rcases hcancels with hnamed | rfl
  · -- the interrupt is the first one that names the call, since the call was not canceled before
    have hnow : k'.now = k.now := by
      have hduration : e.duration = 0 := by
        apply Event.duration_eq_zero
        rintro duration rfl
        cases hnamed
      rw [hchange.now, hduration]
      rfl
    apply Circumstances.cancel_eq_some (Circumstances.forall_instants.mp hfirst).1
    left
    simp [Circumstances.after, h.live hlive, hnamed, hnow]
  · -- the time for draining cannot be up earlier, since time does not pass over its end
    obtain ⟨limit, hle, hlimit⟩ := hclosing.expired hchange hw hlive
    cases Nat.le_antisymm hle (h.le_limit limit hlimit)
    rw [hchange.now]
    apply Circumstances.cancel_after (Nat.le_refl _)
    exact Circumstances.cancel_eq_some (Circumstances.forall_instants.mp h.first).1 (Or.inr hlimit)

/-- A call that goes on after an event still waits. -/
theorem goesOn (hclosing : Closing c s k) (hchange : Change c k e k') (hk : Indexed k)
    (hn : (k.workers.map (·.ticket)).Nodup) (hw : w ∈ k.workers) (hgo : GoesOn c k e w w')
    (htime : ∀ duration, e = .elapse duration → Patient c k duration)
    (hreply : ∀ reply, e = .start w.ticket reply → reply = s.reply) :
    Waiting c (s.after w.header.unique k e) w' k' := by
  have hnow := hchange.now
  have hfirst := h.first_after hclosing hchange hn hw htime
  obtain ⟨-, hheader, hop⟩ := Worker.of_item_eq hgo.item
  refine ⟨?_, hgo.deadline.trans h.deadline, ?_, ?_, fun hcanceled => ?_, fun hlive => ?_⟩
  · rw [hnow]
    exact Nat.le_trans h.dispatched (Nat.le_add_right _ _)
  · rw [hheader, hop, hgo.deadline, Circumstances.after_arrival, Circumstances.after_deadline,
      Circumstances.after_dispatched]
    rcases hgo.stage with ⟨hsame, -⟩ | ⟨reply, request, rfl, hspawned, hrequest, hposted⟩
    · rw [hsame]
      refine h.stage.imp_left fun ⟨hspawned, hdispatched⟩ => ⟨hspawned, ?_⟩
      rw [hnow, duration_of_busy hn hw htime (Or.inl hspawned)]
      exact hdispatched
    · obtain ⟨harrival, hdeadline⟩ := h.of_request hspawned hrequest
      rw [hposted, hreply reply rfl, harrival]
      exact Or.inr ⟨rfl, hdeadline⟩
  · rw [hheader, hop]
    exact hfirst
  · -- a call that is canceled already ends before time passes
    by_cases hbefore : w.isCanceled = true
    · rw [hnow, duration_of_busy hn hw htime (Or.inr hbefore)]
      exact Circumstances.cancel_after (Nat.le_refl _) (h.canceled hbefore)
    · have hlive : w.isCanceled = false := by simpa using hbefore
      have hhits := (hgo.isCanceled.mp hcanceled).resolve_left hbefore
      exact h.cancel_of_hits hclosing hchange hw hlive ((hits_iff hk hn hw).mp hhits) hfirst
  · have hbefore : w.isCanceled = false := by
      rw [Bool.eq_false_iff] at hlive ⊢
      exact fun hcanceled => hlive (hgo.isCanceled.mpr (Or.inl hcanceled))
    have hmissed : k.named? e ≠ some w.header.unique := by
      intro hnamed
      have hhits := (hits_iff hk hn hw).mpr (Or.inl hnamed)
      rw [hgo.isCanceled.mpr (Or.inr hhits)] at hlive
      cases hlive
    simp [Circumstances.after, h.live hbefore, hmissed]

end Waiting

/-! ## Progress of a call -/

/-- A call goes on, or it has the answer that its circumstances say. -/
inductive Progress (c : Settings) (s : Circumstances) (own : Worker) (k : Connection) : Prop
  | waiting {w : Worker} : w ∈ k.workers → w.item = own.item → Waiting c s w k → Closing c s k →
      Progress c s own k
  | decided {T : Nat} {answer : Answer} : T ≤ k.now → (T, ⟨own.ticket, answer⟩) ∈ k.answers →
      s.Decides c own.header own.operation T answer → Progress c s own k

/-- An instant is over: it is past, or nothing more can happen at it. -/
def Over (c : Settings) (k : Connection) (T : Nat) : Prop := T < k.now ∨ T = k.now ∧ Settled c k

namespace Progress

variable {own : Worker}

theorem of_retire (hitem : w.item = own.item)
    (hdecides : s.Decides c w.header w.operation k.now answer) (unique : UInt64) (e : Event) :
    Progress c (s.after unique k e) own (k.retire w answer) := by
  obtain ⟨hticket, hheader, hop⟩ := Worker.of_item_eq hitem
  rw [hheader, hop] at hdecides
  have hmem : (k.now, (⟨own.ticket, answer⟩ : Answered)) ∈ (k.retire w answer).answers := by
    simp [retire, hticket]
  exact .decided (Nat.le_refl k.now) hmem (hdecides.after (Nat.le_refl _))

/-- An event lets the call go on, or the call gets the answer that its circumstances say. -/
theorem step (h : Progress c s own k) (hchange : Change c k e k') (hk : Indexed k) (hsound : Sound k)
    (htime : ∀ duration, e = .elapse duration → Patient c k duration)
    (hreply : ∀ reply, e = .start own.ticket reply → reply = s.reply) :
    Progress c (s.after own.header.unique k e) own k' := by
  have hn := nodup_workers hsound.nodup
  cases h with
  | @waiting w hw hitem hwaiting hclosing =>
    obtain ⟨hticket, hheader, hop⟩ := Worker.of_item_eq hitem
    have hclosing' := hclosing.change hchange hn (List.ne_nil_of_mem hw) hwaiting.dispatched
      (fun duration he => (htime duration he).settled) own.header.unique
    rcases hchange.next hsound hw with ⟨reply, cause, -, hspawned, hfail, rfl⟩ |
      ⟨ended, -, hend, rfl⟩ | ⟨w', hw', hgo⟩
    · exact of_retire hitem (hwaiting.decides_failed hspawned hfail) _ _
    · exact of_retire hitem (hwaiting.decides_finished hend) _ _
    · rw [← hticket] at hreply
      rw [← hheader] at hclosing' ⊢
      have hwaiting' := hwaiting.goesOn hclosing hchange hk hn hw hgo htime hreply
      exact .waiting hw' (hgo.item.trans hitem) hwaiting' hclosing'
  | decided hT hmem hdecides =>
    refine .decided ?_ (hchange.effect.answers.subset hmem) (hdecides.after hT)
    rw [hchange.now]
    exact Nat.le_trans hT (Nat.le_add_right _ _)

/-- The answer of the call, if it is given, is the one that the circumstances say. -/
theorem decides (h : Progress c s own k) (hsound : Sound k) {a : Nat × Answered}
    (ha : a ∈ k.answers) (hticket : a.2.ticket = own.ticket) :
    s.Decides c own.header own.operation a.1 a.2.answer := by
  cases h with
  | @waiting w hw hitem =>
    have hnone := hsound.answersTo_of_mem hw
    rw [(Worker.of_item_eq hitem).1, ← hticket, hsound.answersTo_eq ha] at hnone
    cases hnone
  | decided hT hmem hdecides =>
    have hn : (k.answers.map (·.2.ticket)).Nodup := (List.nodup_append.mp hsound.nodup).2.1
    cases List.inj_on_of_nodup_map hn ha hmem hticket
    exact hdecides

/-- Once the instant at which the call ends is over, the answer is given. -/
theorem answered (h : Progress c s own k) (hn : (k.workers.map (·.ticket)).Nodup) {T : Nat}
    (hverdict : s.Verdict c own.header own.operation T answer) (hover : Over c k T) :
    (T, ⟨own.ticket, answer⟩) ∈ k.answers := by
  cases h with
  | @waiting w hw hitem hwaiting hclosing =>
    obtain ⟨-, hheader, hop⟩ := Worker.of_item_eq hitem
    have hmem := hverdict.mem_instants
    rw [← hheader, ← hop] at hmem
    rcases hover with hlt | ⟨rfl, hsettled⟩
    · -- the instant is past, but a call that waits has left none behind
      exact absurd (hwaiting.first T hmem) (Nat.not_le_of_lt hlt)
    · have hahead := hwaiting.ahead hclosing hsettled hn hw k.now hmem
      exact absurd hahead.2 (Nat.lt_irrefl _)
  | decided hT hmem hdecides =>
    obtain ⟨rfl, rfl⟩ := hverdict.eq_of_decides hdecides
    exact hmem

end Progress

/-! ## Runs -/

/-- The circumstances of a callback that is read between two parts of a run. -/
def observed (c : Settings) (now : Nat) (before later : List Event) (k k₁ : Connection)
    (unique : UInt64) (reply : Option (Nat × Outcome)) : Circumstances where
  dispatched := k.now
  reply := reply
  named := firstInstant c (fun k e => k.named? e = some unique) k₁ later
  ended := firstInstant c (fun _ e => e.isEnd) (ofInstant now) (before ++ .receive :: later)

/-- A callback is read in the course of events in virtual time, and these are its circumstances. No
two callbacks in flight have the same number, and the backend has one reply for the callback. -/
inductive Dispatched (c : Settings) (now : Nat) (events : List Event) (item : Queued)
    (s : Circumstances) : Prop
  | intro {before later : List Event} {k k₁ : Connection} {queue : List Queued} :
      events = before ++ .receive :: later → (ofInstant now).run c before = some k →
      k.session.queue = item :: queue → k.step c .receive = some k₁ →
      DistinctInFlight c now events → OnTime c (ofInstant now) events →
      (∀ reply, .start item.ticket reply ∈ later → reply = s.reply) →
      s = observed c now before later k k₁ item.callback.header.unique s.reply →
      Dispatched c now events item s

variable {now : Nat} {events before later : List Event} {item : Queued} {k₁ : Connection}
  {reply : Option (Nat × Outcome)} {unique : UInt64}

theorem observed_concat (hread : (ofInstant now).run c (before ++ [.receive]) = some k₁)
    (hlater : k₁.run c later = some k') (e : Event) :
    observed c now before (later ++ [e]) k k₁ unique reply =
      (observed c now before later k k₁ unique reply).after unique k' e := by
  have hrun : (ofInstant now).run c (before ++ .receive :: later) = some k' := by
    have hall := Run.foldlM_append_of hread hlater
    rwa [List.append_assoc] at hall
  have hended := firstInstant_concat (P := fun _ e => e.isEnd) hrun e
  rw [List.append_assoc, List.cons_append] at hended
  simp only [observed, Circumstances.after, hended, firstInstant_concat hlater,
    decide_eq_true_eq]

theorem progress_read {own : Worker} (hread : (ofInstant now).run c (before ++ [.receive]) = some k₁)
    (hchange : Change c k .receive k₁) (hown : IsWorkerFor c k.now item own)
    (hmem : own ∈ k₁.workers) :
    Progress c (observed c now before [] k k₁ unique reply) own k₁ := by
  have hnow : k₁.now = k.now := hchange.now
  have hphase : k₁.phase = .serving := by
    rcases hchange.closing with ⟨hphase, -⟩ | ⟨he, -⟩ | ⟨he, -⟩ | ⟨he, -⟩ | ⟨he, -⟩
    · exact hphase.trans hchange.serving
    all_goals cases he
  refine .waiting hmem rfl ⟨Nat.le_of_eq hnow.symm, hown.deadline, Or.inl ⟨hown.stage, hnow⟩, ?_,
    fun hcanceled => ?_, fun _ => rfl⟩ ?_
  · rw [hnow]
    exact Circumstances.dispatched_le_instants rfl
  · rw [hown.isCanceled] at hcanceled
    cases hcanceled
  · obtain ⟨hopen, hover⟩ := run_ended hread
    cases hended : k₁.hasEnded with
    | false => exact .serving hphase hended (hopen hended)
    | true =>
      obtain ⟨i, hi, hfirst⟩ := hover hended
      refine .ending hphase hended hfirst ?_
      rw [hnow] at hi ⊢
      exact Nat.max_eq_left hi

/-- In a run in virtual time, a call goes on or has the answer that its circumstances say. -/
theorem progress_run {own : Worker} (hread : (ofInstant now).run c (before ++ [.receive]) = some k₁)
    (hchange : Change c k .receive k₁) (hown : IsWorkerFor c k.now item own)
    (hmem : own ∈ k₁.workers) (hd : DistinctInFlight c now (before ++ .receive :: later))
    (htime : OnTime c (ofInstant now) (before ++ .receive :: later))
    (hreply : ∀ r, .start own.ticket r ∈ later → r = reply) (hlater : k₁.run c later = some k') :
    Progress c (observed c now before later k k₁ own.header.unique reply) own k' := by
  refine Run.foldlM_induction (P := fun later k' =>
    DistinctInFlight c now (before ++ .receive :: later) →
    OnTime c (ofInstant now) (before ++ .receive :: later) →
    (∀ r, .start own.ticket r ∈ later → r = reply) →
    Progress c (observed c now before later k k₁ own.header.unique reply) own k') ?_ ?_ hlater
    hd htime hreply
  · intro _ _ _
    exact progress_read hread hchange hown hmem
  · intro later k₂ e k₃ hlater ih hstep hd htime hreply
    have hsplit : before ++ .receive :: (later ++ [e]) = (before ++ .receive :: later) ++ [e] := by
      simp
    have hrun : (ofInstant now).run c (before ++ .receive :: later) = some k₂ := by
      have hall := Run.foldlM_append_of hread hlater
      rwa [List.append_assoc] at hall
    rw [hsplit] at hd htime
    have hbefore := ih (hd.of_prefix (List.prefix_append _ _)) htime.of_append
      fun r hr => hreply r (List.mem_append_left _ hr)
    rw [observed_concat hread hlater]
    refine hbefore.step (step_change hstep) (run_indexed (hd.of_prefix (List.prefix_append _ _)) hrun)
      (run_sound hrun) (fun duration he => ?_) fun r he => ?_
    · subst he
      exact htime.last hrun
    · exact hreply r (by simp [he])

theorem exists_worker {op : Operation} {payload : op.Request} {queue : List Queued}
    (hq : k.session.queue = item :: queue) (hchange : Change c k .receive k₁)
    (hdemand : item.callback.demand = .operation op payload)
    (hforward : ¬ (c.isReadOnly = true ∧ op.isMutating = true)) :
    ∃ own, IsWorkerFor c k.now item own ∧ own ∈ k₁.workers := by
  cases hchange with
  | refused _ _ hq' hr =>
    cases hq.symm.trans hq'
    rw [hdemand] at hr
    cases hr with
    | readOnly _ hro hop => exact absurd ⟨hro, hop⟩ hforward
  | spawned _ _ hq' hown =>
    cases hq.symm.trans hq'
    exact ⟨_, hown, List.mem_append_right _ (List.mem_singleton_self _)⟩

/-- A callback that is read and forwarded is with its worker, or has the answer that its circumstances
say. -/
theorem Dispatched.progress {op : Operation} {payload : op.Request}
    (h : Dispatched c now events item s) (hrun : (ofInstant now).run c events = some k')
    (hdemand : item.callback.demand = .operation op payload)
    (hforward : ¬ (c.isReadOnly = true ∧ op.isMutating = true)) :
    ∃ own, own.item = item ∧ own.operation = op ∧ Progress c s own k' := by
  obtain @⟨before, later, k, k₁, queue, rfl, hbefore, hq, hstep, hd, htime, hreply, hs⟩ := h
  have hchange := step_change hstep
  have hread : (ofInstant now).run c (before ++ [.receive]) = some k₁ :=
    Run.foldlM_append_of hbefore (by simpa using hstep)
  have hlater := Run.foldlM_rest hbefore hstep hrun
  obtain ⟨own, hown, hmem⟩ := exists_worker hq hchange hdemand hforward
  have hitem := hown.item
  refine ⟨own, hitem, ?_, ?_⟩
  · rw [← hitem] at hdemand
    exact (Kernel.Demand.operation.inj hdemand).1
  · rw [hs, ← hitem]
    rw [← hitem] at hreply
    exact progress_run hread hchange hown hmem hd htime hreply hlater

/-- What becomes of two callbacks is the same: an answer to the one is an answer to the other, and is
given at the same instant. -/
def SameAnswer (c : Settings) (k : Connection) (ticket : Ticket) (k' : Connection)
    (ticket' : Ticket) : Prop :=
  ∀ a ∈ k.answers, a.2.ticket = ticket →
    (∀ b ∈ k'.answers, b.2.ticket = ticket' → b.1 = a.1 ∧ b.2.answer = a.2.answer) ∧
      (Over c k' a.1 → (a.1, ⟨ticket', a.2.answer⟩) ∈ k'.answers)

section Dispatched

variable {op : Operation} {payload : op.Request} {now' : Nat} {events' : List Event} {item' : Queued}
  {T : Nat} (h : Dispatched c now events item s) (hrun : (ofInstant now).run c events = some k)
  (hdemand : item.callback.demand = .operation op payload)
  (hforward : ¬ (c.isReadOnly = true ∧ op.isMutating = true))

include h hrun hdemand hforward

theorem Dispatched.eq_of_verdict (hverdict : s.Verdict c item.callback.header op T answer)
    {a : Nat × Answered} (ha : a ∈ k.answers) (hticket : a.2.ticket = item.ticket) :
    a = (T, ⟨item.ticket, answer⟩) := by
  obtain ⟨own, rfl, rfl, hown⟩ := h.progress hrun hdemand hforward
  obtain ⟨hinstant, hanswer⟩ := hverdict.eq_of_decides (hown.decides (run_sound hrun) ha hticket)
  rw [← hinstant, ← hanswer, ← hticket]

theorem Dispatched.answered (hverdict : s.Verdict c item.callback.header op T answer)
    (hover : Over c k T) : (T, ⟨item.ticket, answer⟩) ∈ k.answers := by
  obtain ⟨own, rfl, rfl, hown⟩ := h.progress hrun hdemand hforward
  exact hown.answered (nodup_workers (run_sound hrun).nodup) hverdict hover

/-- In two runs with the same circumstances, a callback gets the same answer. -/
theorem Dispatched.sameAnswer (h' : Dispatched c now' events' item' s)
    (hrun' : (ofInstant now').run c events' = some k') (hsame : item'.callback = item.callback)
    (htied : ¬ s.Tied c item.callback.header op) :
    SameAnswer c k item.ticket k' item'.ticket := by
  obtain ⟨own, rfl, rfl, hown⟩ := h.progress hrun hdemand hforward
  have hdemand' : item'.callback.demand = .operation own.operation own.payload := by
    rw [hsame]
    rfl
  intro a ha hticket
  have hverdict := (hown.decides (run_sound hrun) ha hticket).verdict htied
  change s.Verdict c own.item.callback.header own.operation a.1 a.2.answer at hverdict
  rw [← hsame] at hverdict
  refine ⟨fun b hb hticket' => ?_, h'.answered hrun' hdemand' hforward hverdict⟩
  have heq := h'.eq_of_verdict hrun' hdemand' hforward hverdict hb hticket'
  rw [heq]
  exact ⟨rfl, rfl⟩

end Dispatched

/-- The answer to a callback depends on its circumstances only. A callback that is forwarded has no
other answer than the one that its circumstances say, given at the instant that they say, and once
this instant is over it has this answer. So a callback gets the same answer at the same instant in
every run with the same circumstances, whatever other callbacks there are. This is so on a connection
of a manager as well, which is attached by an event and runs through its own history from then on,
whatever happens on other connections. -/
theorem answer_independent {op : Operation} {payload : op.Request}
    (h : Dispatched c now events item s) (hrun : (ofInstant now).run c events = some k)
    (hdemand : item.callback.demand = .operation op payload)
    (hforward : ¬ (c.isReadOnly = true ∧ op.isMutating = true)) :
    (∀ T answer, s.Verdict c item.callback.header op T answer →
      (∀ a ∈ k.answers, a.2.ticket = item.ticket → a = (T, ⟨item.ticket, answer⟩)) ∧
      (Over c k T → (T, ⟨item.ticket, answer⟩) ∈ k.answers)) ∧
    (¬ s.Tied c item.callback.header op →
      (∀ now' events' item' k', Dispatched c now' events' item' s →
        item'.callback = item.callback → (ofInstant now').run c events' = some k' →
          SameAnswer c k item.ticket k' item'.ticket) ∧
      ∀ (σ : Type) (fs : Mount.FileSystem σ) (setup : Setup) (m m' : Manager σ) managed i l,
        m.run fs setup managed = some m' → m.sessions.length ≤ i → m'.sessions[i]? = some l →
          l.settings = c →
            (∃ m₁ m₂ rest, Manager.AttachedBetween fs setup m managed i m₁ m₂ rest) ∧
            ∀ m₁ m₂ rest, Manager.AttachedBetween fs setup m managed i m₁ m₂ rest →
              (ofInstant m₁.now).run c (Manager.history fs setup i m₂ rest) = some l.connection ∧
              ∀ item', Dispatched c m₁.now (Manager.history fs setup i m₂ rest) item' s →
                item'.callback = item.callback →
                  SameAnswer c k item.ticket l.connection item'.ticket) := by
  constructor
  · intro T answer hverdict
    exact ⟨fun a => h.eq_of_verdict hrun hdemand hforward hverdict,
      h.answered hrun hdemand hforward hverdict⟩
  intro htied
  constructor
  · intro now' events' item' k' h' hsame hrun'
    exact h.sameAnswer hrun hdemand hforward h' hrun' hsame htied
  · intro σ fs setup m m' managed i l hm hi hl hsettings
    refine ⟨Manager.exists_attachedBetween hm hi hl, fun m₁ m₂ rest hattaches => ?_⟩
    have hown := hattaches.run_own hm hl
    rw [hsettings] at hown
    exact ⟨hown, fun item' h' hsame => h.sameAnswer hrun hdemand hforward h' hown hsame htied⟩

/-- The settings of a connection whose calls take no longer than ten milliseconds. -/
def hurriedSettings : Settings := { readOnlySettings with requestTimeout := some 10 }

/-- A callback whose reply comes too late. -/
def lateCallback : Queued := ⟨0, ⟨⟨7, ⟨0, 0, 1⟩⟩, .operation .statfs ⟨⟩⟩⟩

/-- Its circumstances: it is read at once, and never interrupted. -/
def lateCircumstances : Circumstances := ⟨0, some (12, .error .timeout), none, none⟩

/-- A run in which the callback is the only one. -/
def loneRun : List Event :=
  [.send lateCallback, .serve, .receive, .start 0 (some (12, .error .timeout)), .elapse 4, .elapse 6,
   .finish 0]

/-- A run in which another callback is in flight, and is answered first. -/
def sharedRun : List Event :=
  [.send lateCallback, .send ⟨1, ⟨⟨8, ⟨0, 0, 1⟩⟩, .operation .statfs ⟨⟩⟩⟩, .serve, .receive,
   .receive, .start 1 (some (4, .error .timeout)), .start 0 (some (12, .error .timeout)), .elapse 4,
   .finish 1, .elapse 6, .finish 0]

/-- A manager whose connections have calls of at most ten milliseconds. -/
def hurriedSetup : Setup := ⟨⟨.raw, none⟩, some 10, none, none⟩

/-- A read-only mount. -/
def hurriedMount (point : String) : Mount.Descriptor :=
  { point := ⟨point⟩, target := "http://h", readonly := 1 }

/-- The events of a manager after it has attached a session. Another one is attached as well, and a
callback of the same number is in flight on its connection, and is answered first. -/
def besideEvents : List ManagerEvent :=
  [.activate 0, .mount 1 (hurriedMount "/b"), .returned 1 (.ok ()), .activate 1,
   .session 0 (.send lateCallback), .session 0 .serve, .session 1 (.send lateCallback),
   .session 1 .serve, .session 0 .receive, .session 1 .receive,
   .session 1 (.start 0 (some (4, .error .timeout))),
   .session 0 (.start 0 (some (12, .error .timeout))), .elapse 4, .session 1 (.finish 0), .elapse 6,
   .session 0 (.finish 0)]

/-- With these events, the callback is the only one on the connection of the first session. -/
theorem attaches_besideEvents : ∃ (m m₁ m₂ : Manager Mount.Files) (l : Live),
    (Manager.empty ⟨[]⟩).run Mount.Files.system hurriedSetup
      (.mount 0 (hurriedMount "/a") :: .returned 0 (.ok ()) :: besideEvents) = some m ∧
    m.sessions[0]? = some l ∧ l.settings = hurriedSettings ∧
    Manager.AttachedBetween Mount.Files.system hurriedSetup (.empty ⟨[]⟩)
      (.mount 0 (hurriedMount "/a") :: .returned 0 (.ok ()) :: besideEvents) 0 m₁ m₂ besideEvents ∧
    m₁.now = 0 ∧ Manager.history Mount.Files.system hurriedSetup 0 m₂ besideEvents = loneRun :=
  ⟨_, _, _, _, rfl, rfl, rfl,
    ⟨⟨[.mount 0 (hurriedMount "/a")], .returned 0 (.ok ()), rfl, rfl, rfl⟩, rfl, Nat.one_pos⟩,
    rfl, rfl⟩

theorem dispatched_loneRun : Dispatched hurriedSettings 0 loneRun lateCallback lateCircumstances := by
  have hsplit : loneRun = loneRun.take 2 ++ .receive :: loneRun.drop 3 := rfl
  refine .intro hsplit rfl rfl rfl (distinctInFlight_of_sent (by decide)) (by decide)
    (fun reply hreply => ?_) rfl
  simpa [loneRun, lateCallback, lateCircumstances] using hreply

theorem dispatched_sharedRun :
    Dispatched hurriedSettings 0 sharedRun lateCallback lateCircumstances := by
  have hsplit : sharedRun = sharedRun.take 3 ++ .receive :: sharedRun.drop 4 := rfl
  refine .intro hsplit rfl rfl rfl (distinctInFlight_of_sent (by decide)) (by decide)
    (fun reply hreply => ?_) rfl
  simpa [sharedRun, lateCallback, lateCircumstances] using hreply

theorem answer_independent_sharedRun : ∃ k k' m l,
    (ofInstant 0).run hurriedSettings sharedRun = some k ∧
      (ofInstant 0).run hurriedSettings loneRun = some k' ∧
      (Manager.empty ⟨[]⟩).run Mount.Files.system hurriedSetup
        (.mount 0 (hurriedMount "/a") :: .returned 0 (.ok ()) :: besideEvents) = some m ∧
      m.sessions[0]? = some l ∧ (10, ⟨0, .error Errno.etimedout⟩) ∈ k.answers ∧
      SameAnswer hurriedSettings k 0 k' 0 ∧ SameAnswer hurriedSettings k 0 l.connection 0 := by
  obtain ⟨hanswer, hsame⟩ := answer_independent dispatched_sharedRun rfl rfl (by decide)
  have hverdict : lateCircumstances.Verdict hurriedSettings lateCallback.callback.header .statfs 10
      (.error Errno.etimedout) :=
    .timedOut rfl (fun r hr => by cases hr; decide) (fun i hi => nomatch hi)
  have htied : ¬ lateCircumstances.Tied hurriedSettings lateCallback.callback.header .statfs := by
    rintro ⟨T, hcancel, -⟩
    cases hcancel
  obtain ⟨hlone, hmanaged⟩ := hsame htied
  obtain ⟨m, m₁, m₂, l, hm, hl, hsettings, hattaches, hnow, hhistory⟩ := attaches_besideEvents
  have hdispatched : Dispatched hurriedSettings m₁.now
      (Manager.history Mount.Files.system hurriedSetup 0 m₂ besideEvents) lateCallback
      lateCircumstances := by
    rw [hnow, hhistory]
    exact dispatched_loneRun
  obtain ⟨-, hbeside⟩ := hmanaged _ _ _ _ _ _ _ _ hm (Nat.le_refl 0) hl hsettings
  obtain ⟨-, hown⟩ := hbeside m₁ m₂ besideEvents hattaches
  refine ⟨_, _, m, l, rfl, rfl, hm, hl, (hanswer _ _ hverdict).2 (Or.inr ⟨rfl, ?_⟩),
    hlone 0 loneRun _ _ dispatched_loneRun rfl rfl, hown _ hdispatched rfl⟩
  decide

end Connection

end FsGateway.Gateway
