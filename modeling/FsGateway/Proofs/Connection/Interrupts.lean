import FsGateway.Proofs.Connection.Calls
import FsGateway.Proofs.Manager.Sessions

/-!
# Interrupts

An interrupt that is read cancels the call with the number that it names, if there is one in flight,
and is then forwarded like any other callback. The call that is canceled ends with EINTR, whatever
the backend replies. All others go on as if the interrupt had named nobody.

* `run_canceled`: a call is canceled where an interrupt named it while it was in flight, or where the
  time for draining ran out.
* `Condemned`: a call that is canceled gets no other answer than EINTR.
* `Apart`: two connections that differ in what becomes of one call. Without the events of this call,
  what happens to the one can happen to the other.
* `interrupt_cancels_target_only`: all of it for an interrupt that is read.
-/

namespace FsGateway.Gateway

open Kernel (Queued Ticket Demand Answer)

/-- Whether an event neither belongs to the call with a ticket nor waits for its end. -/
def Event.isApart (ticket : Ticket) : Event → Bool
  | .start t _ | .finish t => t ≠ ticket
  | .drained => false
  | _ => true

namespace Worker

variable {w : Worker} {now : Nat}

theorem request_of_canceled (h : w.isCanceled = true) (s : Client.Settings) (target : Url)
    (now : Nat) : w.request s target now = .error .canceled := by
  rw [request, h]
  rfl

theorem ending_of_canceled {e : Client.End} (h : w.isCanceled = true)
    (hend : w.ending? now = some e) : e = .canceled := by
  cases ending_eq_some_iff.mp hend with
  | canceled => rfl
  | expired _ hlive | replied _ hlive =>
    rw [h] at hlive
    cases hlive

end Worker

namespace Connection

variable {c : Settings} {now : Nat} {events : List Event} {k k' a b a' b' : Connection} {e : Event}
  {w : Worker} {item : Queued} {ticket : Ticket}

/-! ## Which calls are canceled -/

/-- A callback was read, and its call was canceled after that: an interrupt that names its number was
read, or the time for draining was up. -/
def IsCanceled (c : Settings) (now : Nat) (events : List Event) (item : Queued) : Prop :=
  Run.Followed (fun k e => k.step c e) (ofInstant now) events
    (fun k e => e = .receive ∧ ∃ queue, k.session.queue = item :: queue)
    (fun k e => k.Cancels e item.callback.header.unique) (fun _ _ => False)

theorem isCanceled_concat_iff (hrun : (ofInstant now).run c events = some k) :
    IsCanceled c now (events ++ [e]) item ↔ IsCanceled c now events item ∨
      IsRead c now events item ∧ k.Cancels e item.callback.header.unique := by
  rw [IsCanceled, Run.followed_concat_iff hrun, Run.since_false_iff hrun, not_false_iff, and_true]
  rfl

/-- A call is canceled where an interrupt named it while it was in flight, or where the time for
draining ran out. -/
theorem run_canceled (hd : DistinctInFlight c now events)
    (h : (ofInstant now).run c events = some k) :
    ∀ w ∈ k.workers, w.isCanceled = true ↔ IsCanceled c now events w.item := by
  refine Run.foldlM_induction (P := fun events k => DistinctInFlight c now events →
    ∀ w ∈ k.workers, w.isCanceled = true ↔ IsCanceled c now events w.item) ?_ ?_ h hd
  · intro _ w hw
    cases hw
  · intro events k e k' hrun ih hstep hd w' hw'
    have hbefore := hd.of_prefix (List.prefix_append _ _)
    have hrec := run_recorded hrun
    rw [isCanceled_concat_iff hrun]
    rcases (step_change hstep).origin (nodup_workers (run_sound hrun).nodup) hw' with
      ⟨item, queue, -, hq, hnew⟩ | ⟨w, hw, hgo⟩
    · -- nothing could cancel a call that has just begun
      have hunread : ¬ IsRead c now events w'.item := by
        rw [hnew.item]
        exact (hrec.queued item (hq ▸ List.mem_cons_self)).2
      rw [hnew.isCanceled]
      refine iff_of_false (by simp) ?_
      rintro (hcanceled | ⟨hread, -⟩)
      · exact hunread ((Run.since_false_iff hrun).mp hcanceled.since)
      · exact hunread hread
    · have hread : IsRead c now events w.item :=
        (hrec.working w.item (List.mem_map_of_mem hw)).2.1
      rw [hgo.item, hgo.isCanceled, ih hbefore w hw,
        hits_iff (run_indexed hbefore hrun) (nodup_workers (run_sound hrun).nodup) hw]
      exact or_congr_right (and_iff_right hread).symm

/-! ## Calls that are canceled -/

/-- The callback with a ticket was read, and its call can only end with EINTR. -/
structure Condemned (ticket : Ticket) (k : Connection) : Prop where
  old : ticket < k.fresh
  read : ∀ item ∈ k.session.queue, item.ticket ≠ ticket
  working : ∀ w ∈ k.workers, w.ticket = ticket → w.isCanceled = true
  answered : ∀ a ∈ k.answers, a.2.ticket = ticket → a.2.answer = .error Errno.eintr

namespace Condemned

theorem record (h : Condemned ticket k) {as : List Kernel.Answered}
    (has : ∀ x ∈ as, x.ticket = ticket → x.answer = .error Errno.eintr) :
    Condemned ticket (k.record as) := by
  refine ⟨h.old, h.read, h.working, fun a ha hticket => ?_⟩
  rcases List.mem_append.mp ha with ha | ha
  · exact h.answered a ha hticket
  · obtain ⟨x, hx, rfl⟩ := List.mem_map.mp ha
    exact has x hx hticket

theorem retire (h : Condemned ticket k) {answer : Answer}
    (hanswer : w.ticket = ticket → answer = .error Errno.eintr) :
    Condemned ticket (k.retire w answer) := by
  have hgone : Condemned ticket { k with
      workers := k.workers.filter (·.ticket ≠ w.ticket)
      inFlight := k.inFlight.filter (·.1 ≠ w.header.unique) } :=
    ⟨h.old, h.read, fun x hx => h.working x (List.mem_of_mem_filter hx), h.answered⟩
  apply hgone.record
  intro x hx hticket
  cases List.mem_singleton.mp hx
  exact hanswer hticket

theorem withQueue (h : Condemned ticket k) {queue : List Queued}
    (hq : k.session.queue = item :: queue) :
    Condemned ticket (k.withQueue queue) ∧ item.ticket ≠ ticket := by
  have hread := h.read
  rw [hq] at hread
  have hrest : ∀ x ∈ queue, x.ticket ≠ ticket := fun x hx => hread x (List.mem_cons_of_mem _ hx)
  exact ⟨⟨h.old, hrest, h.working, h.answered⟩, hread item List.mem_cons_self⟩

/-- Workers may be changed as long as none is brought back. -/
theorem map (h : Condemned ticket k) {f : Worker → Worker}
    (hf : ∀ w, (f w).ticket = w.ticket ∧ (w.isCanceled = true → (f w).isCanceled = true))
    (hworkers : k'.workers = k.workers.map f) (hfresh : k'.fresh = k.fresh)
    (hqueue : k'.session.queue = k.session.queue) (hanswers : k'.answers = k.answers) :
    Condemned ticket k' := by
  refine ⟨hfresh ▸ h.old, hqueue ▸ h.read, ?_, hanswers ▸ h.answered⟩
  intro w' hw' hticket
  rw [hworkers] at hw'
  obtain ⟨w, hw, rfl⟩ := List.mem_map.mp hw'
  exact (hf w).2 (h.working w hw ((hf w).1.symm.trans hticket))

theorem interrupt (h : Condemned ticket k) (unique : UInt64) :
    Condemned ticket (k.interrupt unique) := by
  rw [interrupt_eq_map]
  refine h.map (fun w => ?_) rfl rfl rfl rfl
  split
  · exact ⟨rfl, fun _ => rfl⟩
  · exact ⟨rfl, id⟩

theorem heed (h : Condemned ticket k) (d : Demand) : Condemned ticket (k.heed d) := by
  rw [heed_eq_target]
  split
  · exact h
  · exact h.interrupt _

theorem change (h : Condemned ticket k) (hk : Change c k e k') : Condemned ticket k' := by
  cases hk with
  | queued item hsender hopen hfresh =>
    refine ⟨?_, fun x hx => ?_, h.working, h.answered⟩
    · exact Nat.lt_succ_of_lt (Nat.lt_of_lt_of_le h.old hfresh)
    · rcases List.mem_append.mp hx with hx | hx
      · exact h.read x hx
      · cases List.mem_singleton.mp hx
        exact Nat.ne_of_gt (Nat.lt_of_lt_of_le h.old hfresh)
  | dropped item hsender hopen hfresh =>
    have hlt : ticket < item.ticket := Nat.lt_of_lt_of_le h.old hfresh
    have hnew : Condemned ticket { k with fresh := item.ticket + 1 } :=
      ⟨Nat.lt_succ_of_lt hlt, h.read, h.working, h.answered⟩
    apply hnew.record
    intro x hx hticket
    cases List.mem_singleton.mp hx
    exact absurd hticket (Nat.ne_of_gt hlt)
  | hungUp | toldToStop | served _ | drained _ _ | elapsed _ =>
    exact ⟨h.old, h.read, h.working, h.answered⟩
  | refused hphase hreads hq hr =>
    obtain ⟨hrest, hne⟩ := h.withQueue hq
    apply hrest.record
    intro x hx hticket
    cases List.mem_singleton.mp hx
    exact absurd hticket hne
  | @spawned item queue w hphase hreads hq hw =>
    obtain ⟨hrest, hne⟩ := h.withQueue hq
    have hheed := hrest.heed item.callback.demand
    refine ⟨hheed.old, hheed.read, fun x hx hticket => ?_, hheed.answered⟩
    rcases List.mem_append.mp hx with hx | hx
    · exact hheed.working x hx hticket
    · cases List.mem_singleton.mp hx
      exact absurd ((congrArg Queued.ticket hw.item).symm.trans hticket) hne
  | stopped hphase hmay =>
    have hclosed : Condemned ticket { k with
        phase := .draining
        session := k.session.close.1
        drainLimit := c.drainTimeout.map (k.now + ·) } :=
      ⟨h.old, fun x hx => absurd hx List.not_mem_nil, h.working, h.answered⟩
    apply hclosed.record
    intro x hx hticket
    obtain ⟨item, hitem, rfl⟩ := List.mem_map.mp hx
    exact absurd hticket (h.read item hitem)
  | posted hw hstage hrequest =>
    refine h.map (fun x => ?_) rfl rfl rfl rfl
    split <;> exact ⟨rfl, id⟩
  | @failed w reply cause hw hstage hfail =>
    apply h.retire
    intro hticket
    rw [Worker.request_of_canceled (h.working w hw hticket)] at hfail
    cases hfail
    rfl
  | @finished w e hw hend =>
    apply h.retire
    intro hticket
    rw [Worker.ending_of_canceled (h.working w hw hticket) hend]
    rfl
  | expired hphase hlimit hle hworkers =>
    exact h.map (f := Worker.cancel) (fun w => ⟨rfl, fun _ => rfl⟩) rfl rfl rfl rfl

theorem run (h : Condemned ticket k) {later : List Event} (hlater : k.run c later = some k') :
    Condemned ticket k' :=
  Run.foldlM_keeps (P := Condemned ticket)
    (fun _ _ _ hk hstep => hk.change (step_change hstep)) h hlater

end Condemned

/-- The call of a canceled worker can end at once, and then with EINTR. -/
theorem canceled_can_end (hk : Sound k) (hw : w ∈ k.workers) (hcanceled : w.isCanceled = true) :
    ∃ e k', k.step c e = some k' ∧ k'.answersTo w.ticket = [.error Errno.eintr] := by
  have hn := nodup_workers hk.nodup
  cases hstage : w.stage with
  | spawned =>
    have hfail := w.request_of_canceled hcanceled c.client c.target k.now
    have hchange : Change c k (.start w.ticket none) (k.retire w (.error Errno.eintr)) :=
      .failed hw hstage hfail
    exact ⟨_, _, hchange.step hn, answersTo_retire (hk.effect hchange.effect)⟩
  | posted reply =>
    have hchange : Change c k (.finish w.ticket) (k.retire w (.error Errno.eintr)) :=
      .finished hw (Worker.ending_eq_some_iff.mpr (.canceled hstage hcanceled))
    exact ⟨_, _, hchange.step hn, answersTo_retire (hk.effect hchange.effect)⟩

/-! ## All other calls -/

/-- Two connections that differ in what becomes of the call with a ticket, which does not end in the
second one. -/
structure Apart (ticket : Ticket) (a b : Connection) : Prop where
  now : b.now = a.now
  session : b.session = a.session
  fresh : b.fresh = a.fresh
  isShutDown : b.isShutDown = a.isShutDown
  drainLimit : b.drainLimit = a.drainLimit
  phase : b.phase = a.phase ∨ a.phase = .closed ∧ b.phase = .draining
  workers : b.workers.filter (·.ticket ≠ ticket) = a.workers.filter (·.ticket ≠ ticket)
  table : b.inFlight.filter (·.2 ≠ ticket) = a.inFlight.filter (·.2 ≠ ticket)
  answers : b.answers.filter (·.2.ticket ≠ ticket) = a.answers.filter (·.2.ticket ≠ ticket)
  waits : ∃ w ∈ b.workers, w.ticket = ticket
  keys : (b.inFlight.map Prod.fst).Nodup

namespace Apart

theorem phase_eq (h : Apart ticket a b) {p : Phase} (hp : a.phase = p) (hne : p ≠ .closed) :
    b.phase = p := by
  rcases h.phase with hsame | ⟨hclosed, -⟩
  · exact hsame.trans hp
  · exact absurd (hp.symm.trans hclosed) hne

theorem mem_iff (h : Apart ticket a b) (hw : w.ticket ≠ ticket) :
    w ∈ b.workers ↔ w ∈ a.workers := by
  have hboth : w ∈ b.workers.filter (·.ticket ≠ ticket) ↔ w ∈ a.workers.filter (·.ticket ≠ ticket) :=
    by rw [h.workers]
  simpa [hw] using hboth

theorem record (h : Apart ticket a b) (as : List Kernel.Answered) :
    Apart ticket (a.record as) (b.record as) :=
  { h with
    answers := by
      simp only [record_answers, List.filter_append, h.answers, h.now] }

theorem withQueue (h : Apart ticket a b) (queue : List Queued) :
    Apart ticket (a.withQueue queue) (b.withQueue queue) :=
  { h with
    session := by simp only [Connection.withQueue, h.session] }

/-- Workers may be changed on both sides, if all others are changed alike. -/
theorem map (h : Apart ticket a b) {f g : Worker → Worker} (hf : ∀ w, (f w).ticket = w.ticket)
    (hg : ∀ w, (g w).ticket = w.ticket) (hfg : ∀ w ∈ a.workers, w.ticket ≠ ticket → g w = f w) :
    Apart ticket { a with workers := a.workers.map f } { b with workers := b.workers.map g } :=
  { h with
    workers := by
      have hmap : ∀ {f : Worker → Worker}, (∀ w, (f w).ticket = w.ticket) → ∀ ws : List Worker,
          (ws.map f).filter (·.ticket ≠ ticket) = (ws.filter (·.ticket ≠ ticket)).map f := by
        intro f hf ws
        rw [List.filter_map]
        simp only [Function.comp_def, hf]
      rw [hmap hg, hmap hf, h.workers]
      apply List.map_congr_left
      intro w hw
      obtain ⟨hw, hne⟩ := List.mem_filter.mp hw
      exact hfg w hw (by simpa using hne)
    waits := by
      obtain ⟨w, hw, hticket⟩ := h.waits
      exact ⟨g w, List.mem_map_of_mem hw, (hg w).trans hticket⟩ }

theorem lookup_iff (h : Apart ticket a b) (ha : (a.inFlight.map Prod.fst).Nodup) {unique : UInt64}
    {t : Ticket} (ht : t ≠ ticket) :
    b.inFlight.lookup unique = some t ↔ a.inFlight.lookup unique = some t := by
  rw [Keyed.lookup_eq_some_iff h.keys, Keyed.lookup_eq_some_iff ha]
  have hboth : (unique, t) ∈ b.inFlight.filter (·.2 ≠ ticket) ↔
      (unique, t) ∈ a.inFlight.filter (·.2 ≠ ticket) := by rw [h.table]
  simpa [ht] using hboth

theorem interrupt (h : Apart ticket a b) (ha : (a.inFlight.map Prod.fst).Nodup) (unique : UInt64) :
    Apart ticket (a.interrupt unique) (b.interrupt unique) := by
  rw [interrupt_eq_map, interrupt_eq_map]
  refine h.map (fun w => ?_) (fun w => ?_) fun w _ hne => ?_
  · split <;> rfl
  · split <;> rfl
  · simp only [h.lookup_iff ha hne]

theorem heed (h : Apart ticket a b) (ha : (a.inFlight.map Prod.fst).Nodup) (d : Demand) :
    Apart ticket (a.heed d) (b.heed d) := by
  rw [heed_eq_target, heed_eq_target]
  split
  · exact h
  · exact h.interrupt ha _

theorem spawn (h : Apart ticket a b) (w : Worker) : Apart ticket (a.spawn w) (b.spawn w) :=
  { h with
    workers := by simp only [Connection.spawn, List.filter_append, h.workers]
    table := by
      simp only [Connection.spawn, List.filter_cons,
        List.filter_comm fun entry : UInt64 × Ticket => decide (entry.2 ≠ ticket), h.table]
    waits := by
      obtain ⟨x, hx, hticket⟩ := h.waits
      exact ⟨x, List.mem_append_left _ hx, hticket⟩
    keys := by
      rw [Connection.spawn, List.map_cons, List.nodup_cons]
      refine ⟨?_, (h.keys.sublist (List.filter_sublist.map _))⟩
      simp }

theorem retire (h : Apart ticket a b) (hw : w.ticket ≠ ticket) (answer : Answer) :
    Apart ticket (a.retire w answer) (b.retire w answer) := by
  have hgone : Apart ticket
      { a with
        workers := a.workers.filter (·.ticket ≠ w.ticket)
        inFlight := a.inFlight.filter (·.1 ≠ w.header.unique) }
      { b with
        workers := b.workers.filter (·.ticket ≠ w.ticket)
        inFlight := b.inFlight.filter (·.1 ≠ w.header.unique) } :=
    { h with
      workers := by
        simp only [List.filter_comm fun x : Worker => decide (x.ticket ≠ ticket), h.workers]
      table := by
        simp only [List.filter_comm fun e : UInt64 × Ticket => decide (e.2 ≠ ticket), h.table]
      waits := by
        obtain ⟨x, hx, hticket⟩ := h.waits
        exact ⟨x, by simpa [hx, hticket] using Ne.symm hw, hticket⟩
      keys := h.keys.sublist (List.filter_sublist.map _) }
  exact hgone.record _

/-- The call ends in the first connection only. -/
theorem retire_left (h : Apart ticket a b) (ha : Indexed a) (hw : w ∈ a.workers)
    (hticket : w.ticket = ticket) (answer : Answer) : Apart ticket (a.retire w answer) b := by
  subst hticket
  refine { h with workers := ?_, table := ?_, answers := ?_ }
  · rw [h.workers]
    exact (List.filter_eq_self.mpr fun x hx => by simpa using (List.mem_filter.mp hx).2).symm.trans
      (List.filter_comm _ _ _)
  · -- the table has no other entry with this number
    have hentry : w.entry ∈ a.inFlight := ha.table.mem_iff.mpr (List.mem_map_of_mem hw)
    rw [h.table]
    change _ = (a.inFlight.filter (·.1 ≠ w.header.unique)).filter (·.2 ≠ w.ticket)
    rw [List.filter_comm]
    refine (List.filter_eq_self.mpr fun entry hmem => ?_).symm
    obtain ⟨hin, hother⟩ := List.mem_filter.mp hmem
    have hne : entry.1 ≠ w.header.unique := by
      intro hkey
      have hsame := List.inj_on_of_nodup_map ha.nodup_keys hin hentry hkey
      rw [hsame] at hother
      simp [Worker.entry] at hother
    simpa using hne
  · rw [h.answers]
    simp [Connection.retire, List.filter_append]

theorem stop (h : Apart ticket a b) (c : Settings) : Apart ticket (a.stop c) (b.stop c) := by
  have hstop : b.stop c = { b with
      phase := .draining
      session := a.session.close.1
      drainLimit := c.drainTimeout.map (a.now + ·) }.record a.session.close.2 := by
    rw [Connection.stop, h.session, h.now]
  have hboth : Apart ticket
      { a with
        phase := .draining
        session := a.session.close.1
        drainLimit := c.drainTimeout.map (a.now + ·) }
      { b with
        phase := .draining
        session := a.session.close.1
        drainLimit := c.drainTimeout.map (a.now + ·) } :=
    { h with session := rfl, drainLimit := rfl, phase := Or.inl rfl }
  rw [hstop]
  exact hboth.record _

theorem posted (h : Apart ticket a b) (w : Worker) (reply : Option (Nat × Client.Outcome))
    (request : Client.Request) :
    Apart ticket (a.posted w reply request) (b.posted w reply request) := by
  have hboth := h.map
    (f := fun x => if x.ticket = w.ticket then x.post (reply.map fun r => (a.now + r.1, r.2)) else x)
    (g := fun x => if x.ticket = w.ticket then x.post (reply.map fun r => (b.now + r.1, r.2)) else x)
    (fun x => by split <;> rfl) (fun x => by split <;> rfl) (fun x _ _ => by rw [h.now])
  exact { hboth with }

/-- The call posts its request in the first connection only. -/
theorem posted_left (h : Apart ticket a b) (hticket : w.ticket = ticket)
    (reply : Option (Nat × Client.Outcome)) (request : Client.Request) :
    Apart ticket (a.posted w reply request) b := by
  have hleft := h.map
    (f := fun x => if x.ticket = w.ticket then x.post (reply.map fun r => (a.now + r.1, r.2)) else x)
    (g := id) (fun x => by split <;> rfl) (fun _ => rfl)
    fun x _ hne => (if_neg fun hsame => hne (hsame.trans hticket)).symm
  rw [List.map_id] at hleft
  exact { hleft with }

theorem change (h : Apart ticket a b) (ha : (a.inFlight.map Prod.fst).Nodup)
    (he : e.isApart ticket = true) (hchange : Change c a e a') :
    ∃ b', Change c b e b' ∧ Apart ticket a' b' := by
  cases hchange with
  | queued item hsender hopen hfresh =>
    rw [← h.session] at hsender hopen
    rw [← h.fresh] at hfresh
    refine ⟨_, .queued item hsender hopen hfresh, ?_⟩
    have hboth := h.withQueue (a.session.queue ++ [item])
    rw [h.session]
    exact { hboth with fresh := rfl }
  | dropped item hsender hopen hfresh =>
    rw [← h.session] at hsender hopen
    rw [← h.fresh] at hfresh
    refine ⟨_, .dropped item hsender hopen hfresh, ?_⟩
    have hnew : Apart ticket { a with fresh := item.ticket + 1 } { b with fresh := item.ticket + 1 } :=
      { h with fresh := rfl }
    exact hnew.record _
  | hungUp => exact ⟨_, .hungUp, { h with session := congrArg Kernel.Session.hangUp h.session }⟩
  | toldToStop => exact ⟨_, .toldToStop, { h with isShutDown := rfl }⟩
  | served hready =>
    exact ⟨_, .served (h.phase_eq hready (by simp)), { h with phase := Or.inl rfl }⟩
  | refused hphase hreads hq hr =>
    rw [← h.isShutDown] at hreads
    rw [← h.session] at hq
    exact ⟨_, .refused (h.phase_eq hphase (by simp)) hreads hq hr, (h.withQueue _).record _⟩
  | @spawned item queue w hphase hreads hq hw =>
    rw [← h.isShutDown] at hreads
    rw [← h.session] at hq
    rw [← h.now] at hw
    have hboth := (h.withQueue queue).heed ha item.callback.demand
    exact ⟨_, .spawned (h.phase_eq hphase (by simp)) hreads hq hw, hboth.spawn w⟩
  | stopped hphase hmay =>
    have hmay' : b.mayStop = true := by rwa [mayStop, h.isShutDown, h.session]
    exact ⟨_, .stopped (h.phase_eq hphase (by simp)) hmay', h.stop c⟩
  | @posted w reply request hw hstage hrequest =>
    have hne : w.ticket ≠ ticket := by simpa [Event.isApart] using he
    rw [← h.now] at hrequest
    exact ⟨_, .posted ((h.mem_iff hne).mpr hw) hstage hrequest, h.posted w reply request⟩
  | @failed w reply cause hw hstage hfail =>
    have hne : w.ticket ≠ ticket := by simpa [Event.isApart] using he
    rw [← h.now] at hfail
    exact ⟨_, .failed ((h.mem_iff hne).mpr hw) hstage hfail, h.retire hne _⟩
  | @finished w e hw hend =>
    have hne : w.ticket ≠ ticket := by simpa [Event.isApart] using he
    rw [← h.now] at hend
    exact ⟨_, .finished ((h.mem_iff hne).mpr hw) hend, h.retire hne _⟩
  | expired hphase hlimit hle hworkers =>
    rw [← h.drainLimit] at hlimit
    rw [← h.now] at hle
    have hwaits : b.workers ≠ [] := by
      obtain ⟨w, hw, -⟩ := h.waits
      exact List.ne_nil_of_mem hw
    have hboth := h.map (f := Worker.cancel) (g := Worker.cancel) (fun _ => rfl) (fun _ => rfl)
      fun _ _ _ => rfl
    exact ⟨_, .expired (h.phase_eq hphase (by simp)) hlimit hle hwaits,
      { hboth with drainLimit := rfl }⟩
  | drained hphase hworkers => cases he
  | elapsed duration => exact ⟨_, .elapsed duration, { h with now := congrArg (· + duration) h.now }⟩

/-- An event of the call itself, or the end of draining, leaves the second connection behind. -/
theorem change_left (h : Apart ticket a b) (ha : Indexed a) (he : e.isApart ticket = false)
    (hchange : Change c a e a') : Apart ticket a' b := by
  cases hchange with
  | @posted w reply request hw hstage hrequest =>
    exact h.posted_left (by simpa [Event.isApart] using he) reply request
  | @failed w reply cause hw hstage hfail =>
    exact h.retire_left ha hw (by simpa [Event.isApart] using he) _
  | @finished w e hw hend =>
    exact h.retire_left ha hw (by simpa [Event.isApart] using he) _
  | drained hphase hworkers =>
    exact { h with phase := Or.inr ⟨rfl, h.phase_eq hphase (by simp)⟩ }
  | _ => cases he

/-- What happens to the first connection in the course of a run can happen to the second one,
without the events of the call. -/
theorem run {later : List Event} (h : Apart ticket a b)
    (ha : (ofInstant now).run c events = some a) (hb : Sound b)
    (hd : DistinctInFlight c now (events ++ later)) (hlater : a.run c later = some a') :
    ∃ b', b.run c (later.filter (Event.isApart ticket)) = some b' ∧ Apart ticket a' b' := by
  have hall : DistinctInFlight c now (events ++ later) → ∃ b',
      b.run c (later.filter (Event.isApart ticket)) = some b' ∧ Sound b' ∧ Apart ticket a' b' := by
    refine Run.foldlM_induction (P := fun later a' => DistinctInFlight c now (events ++ later) →
      ∃ b', b.run c (later.filter (Event.isApart ticket)) = some b' ∧ Sound b' ∧
        Apart ticket a' b') ?_ ?_ hlater
    · intro _
      exact ⟨b, rfl, hb, h⟩
    · intro later a₁ e a' hrun ih hstep hd
      rw [← List.append_assoc] at hd
      have hbefore := hd.of_prefix (List.prefix_append _ _)
      obtain ⟨b₁, hb₁, hsound, happart⟩ := ih hbefore
      have ha₁ : Indexed a₁ := run_indexed hbefore (Run.foldlM_append_of ha hrun)
      have hchange := step_change hstep
      rw [List.filter_append]
      cases he : e.isApart ticket with
      | true =>
        obtain ⟨b', hb', hboth⟩ := happart.change ha₁.nodup_keys he hchange
        refine ⟨b', ?_, hsound.effect hb'.effect, hboth⟩
        refine Run.foldlM_append_of hb₁ ?_
        simpa [he] using hb'.step (nodup_workers hsound.nodup)
      | false =>
        refine ⟨b₁, ?_, hsound, happart.change_left ha₁ he hchange⟩
        simpa [he] using hb₁
  obtain ⟨b', hb', -, hboth⟩ := hall hd
  exact ⟨b', hb', hboth⟩

end Apart

/-! ## Reading an interrupt -/

theorem forwards_interrupt {unique : UInt64} (htarget : item.callback.demand.target? = some unique)
    (answer : Answer) : ¬ Refuses c item.callback.demand answer := by
  intro h
  rw [target?_of_refuses h] at htarget
  cases htarget

theorem read_eq {queue : List Queued} {own : Worker} (hk : Indexed k)
    (hn : (k.workers.map (·.ticket)).Nodup) (hnew : own.header.unique ∉ k.numbers) :
    ((k.withQueue queue).heed item.callback.demand).spawn own = { k.withQueue queue with
      workers := k.interrupted item.callback.demand.target? ++ [own]
      inFlight := own.entry :: k.inFlight } := by
  have hread : Indexed (k.withQueue queue) := ⟨hk.numbers, hk.table⟩
  have hheed := (heed_keeps item.callback.demand).indexed hread
  have hout : own.header.unique ∉ ((k.withQueue queue).heed item.callback.demand).numbers := by
    rwa [numbers_eq_inWork, (heed_keeps _).inWork, withQueue_inWork, ← numbers_eq_inWork]
  rw [spawn_eq hheed hout, heed_eq_interrupted hread hn]
  rfl

theorem read_fresh {queue : List Queued} {own : Worker} {d : Demand}
    (hnew : (((k.withQueue queue).heed d).spawn own).numbers.Nodup) :
    own.header.unique ∉ k.numbers := by
  have hout := not_mem_numbers_of_spawn hnew
  rwa [numbers_eq_inWork, (heed_keeps _).inWork, withQueue_inWork, ← numbers_eq_inWork] at hout

/-- The call with a ticket is answered with EINTR and nothing else, or it is not answered yet and can
end at once, with EINTR. -/
def EndsInterrupted (c : Settings) (ticket : Ticket) (k : Connection) : Prop :=
  k.answersTo ticket = [.error Errno.eintr] ∨
    k.answersTo ticket = [] ∧ (∃ w ∈ k.workers, w.ticket = ticket ∧ w.isCanceled = true) ∧
      ∃ e k', k.step c e = some k' ∧ k'.answersTo ticket = [.error Errno.eintr]

theorem Condemned.ends (h : Condemned item.ticket k)
    (hrun : (ofInstant now).run c events = some k) (hsent : item ∈ Event.sent events) :
    EndsInterrupted c item.ticket k := by
  have hk := run_sound hrun
  rcases place_of_sent hrun hsent with hqueued | hworking | ⟨answer, hanswer, -⟩
  · exact absurd rfl (h.read item hqueued)
  · obtain ⟨w, hw, rfl⟩ := List.mem_map.mp hworking
    have hcanceled := h.working w hw rfl
    exact Or.inr ⟨hk.answersTo_of_mem hw, ⟨w, hw, rfl, hcanceled⟩, canceled_can_end hk hw hcanceled⟩
  · left
    have hmem : answer ∈ k.answersTo item.ticket := by
      rw [hanswer]
      exact List.mem_singleton_self _
    obtain ⟨a, ha, rfl⟩ := List.mem_map.mp hmem
    obtain ⟨ha, hticket⟩ := List.mem_filter.mp ha
    rw [hanswer, h.answered a ha (by simpa using hticket)]

/-- The call with a ticket is condemned when an interrupt that names it is read. -/
theorem condemned_interrupted {queue : List Queued} {own : Worker} (hk : Sound k)
    (hq : k.session.queue = item :: queue) (hown : own.item = item) (hw : w ∈ k.workers) :
    Condemned w.ticket { k.withQueue queue with
      workers := k.interrupted (some w.header.unique) ++ [own]
      inFlight := own.entry :: k.inFlight } := by
  have hworking : w.ticket ∈ k.workers.map (·.ticket) := List.mem_map_of_mem hw
  have hapart : ∀ x ∈ k.session.queue, x.ticket ≠ w.ticket := by
    intro x hx hticket
    have hdisjoint := (List.nodup_append.mp (List.nodup_append.mp hk.nodup).1).2.2
    rw [map_ticket_inWork] at hdisjoint
    exact hdisjoint _ (List.mem_map_of_mem hx) _ hworking hticket
  refine ⟨?_, fun x hx => ?_, fun x hx hticket => ?_, fun a ha hticket => ?_⟩
  · refine hk.below _ ?_
    rw [tickets, map_ticket_inWork]
    exact List.mem_append_left _ (List.mem_append_right _ hworking)
  · exact hapart x (hq ▸ List.mem_cons_of_mem _ hx)
  · rcases List.mem_append.mp hx with hx | hx
    · obtain ⟨y, hy, rfl⟩ := List.mem_map.mp hx
      have hsame : y.ticket = w.ticket := by
        rw [← hticket]
        split <;> rfl
      cases List.inj_on_of_nodup_map (nodup_workers hk.nodup) hy hw hsame
      rw [if_pos rfl]
      rfl
    · cases List.mem_singleton.mp hx
      have hsame : item.ticket = w.ticket := by
        rw [← hown]
        exact hticket
      exact absurd hsame (hapart item (hq ▸ List.mem_cons_self))
  · have hnone := hk.answersTo_of_mem hw
    rw [← hticket, hk.answersTo_eq ha] at hnone
    cases hnone

/-- Reading the interrupt as if it named nobody changes nothing but the call that it names. -/
theorem apart_interrupted {queue : List Queued} (own : Worker) (hk : Indexed k)
    (hn : (k.workers.map (·.ticket)).Nodup)
    (htarget : item.callback.demand.target? = some w.header.unique) (hw : w ∈ k.workers) :
    Apart w.ticket (((k.withQueue queue).heed item.callback.demand).spawn own)
      ((k.withQueue queue).spawn own) := by
  have hread : Indexed (k.withQueue queue) := ⟨hk.numbers, hk.table⟩
  have hsame : Apart w.ticket (k.withQueue queue) (k.withQueue queue) :=
    ⟨rfl, rfl, rfl, rfl, rfl, Or.inl rfl, rfl, rfl, rfl, ⟨w, hw, rfl⟩, hk.nodup_keys⟩
  have hheed := hsame.map
    (f := fun x => if some w.header.unique = some x.header.unique then x.cancel else x) (g := id)
    (fun x => by split <;> rfl) (fun _ => rfl) fun x hx hne => by
      have hother : ¬ some w.header.unique = some x.header.unique := by
        intro h
        exact hne (congrArg Worker.ticket (hk.eq_of_number hx hw (Option.some.inj h).symm))
      rw [if_neg hother, id]
  rw [List.map_id] at hheed
  rw [heed_eq_interrupted hread hn, htarget]
  exact hheed.spawn own

theorem unheeded_keeps (hk : Indexed k) (hn : (k.workers.map (·.ticket)).Nodup) (d : Demand)
    (own : Worker) : Keeps ((k.heed d).spawn own) (k.spawn own) := by
  rw [heed_eq_interrupted hk hn]
  refine ⟨rfl, rfl, ?_, rfl, rfl, rfl, Or.inl rfl⟩
  have hsame : (k.interrupted d.target?).map Worker.item = k.workers.map Worker.item := by
    refine map_item_map (fun w => ?_) _
    split <;> rfl
  simp only [spawn, List.map_append, hsame]

/-- Two connections have the same workers and have given the same answers at the same instants, one
call aside. -/
def AgreeBut (ticket : Ticket) (a b : Connection) : Prop :=
  b.workers.filter (·.ticket ≠ ticket) = a.workers.filter (·.ticket ≠ ticket) ∧
    b.answers.filter (·.2.ticket ≠ ticket) = a.answers.filter (·.2.ticket ≠ ticket)

/-- All calls but the one that an interrupt names go on as if it had named nobody. -/
theorem unheeded_run {queue : List Queued} {own : Worker} {later : List Event} (hk : Indexed k)
    (hn : (k.workers.map (·.ticket)).Nodup)
    (htarget : item.callback.demand.target? = some w.header.unique) (hw : w ∈ k.workers)
    (hrun : (ofInstant now).run c events =
      some (((k.withQueue queue).heed item.callback.demand).spawn own))
    (hd : DistinctInFlight c now (events ++ later))
    (hlater : (((k.withQueue queue).heed item.callback.demand).spawn own).run c later = some k') :
    ∃ k₀, ((k.withQueue queue).spawn own).run c (later.filter (Event.isApart w.ticket)) = some k₀ ∧
      AgreeBut w.ticket k' k₀ := by
  have hread : Indexed (k.withQueue queue) := ⟨hk.numbers, hk.table⟩
  have hkeeps := unheeded_keeps hread hn item.callback.demand own
  have hb : Sound ((k.withQueue queue).spawn own) :=
    (run_sound hrun).effect (c := c) (e := .hangUp) (.kept rfl (by simp) hkeeps)
  obtain ⟨k₀, hk₀, hboth⟩ := (apart_interrupted own hk hn htarget hw).run hrun hb hd hlater
  exact ⟨k₀, hk₀, hboth.workers, hboth.answers⟩

/-- What follows when an interrupt that names a number is read, and a worker is spawned for it. -/
structure CancelsOnly (c : Settings) (now : Nat) (events : List Event) (k : Connection)
    (item : Queued) (queue : List Queued) (unique : UInt64) (own : Worker) (k' : Connection) :
    Prop where
  forwarded : IsWorkerFor c k.now item own
  /-- The workers with the number are canceled, all else stays as it is. -/
  read : k' = { k.withQueue queue with
    workers := k.interrupted (some unique) ++ [own]
    inFlight := own.entry :: k.inFlight }
  /-- If there is no worker with the number, the interrupt is only forwarded. -/
  missed : (∀ w ∈ k.workers, w.header.unique ≠ unique) → k' = (k.withQueue queue).spawn own
  /-- The interrupt itself is answered when its own call ends, and with its result. -/
  served : ∀ later k'', k'.run c later = some k'' → ∀ answer ∈ k''.answersTo item.ticket,
    IsServed c now (events ++ .receive :: later) item answer
  /-- The call that it names ends with EINTR. -/
  target : ∀ w ∈ k.workers, w.header.unique = unique → ∀ later k'', k'.run c later = some k'' →
    EndsInterrupted c w.ticket k''
  /-- All other calls go on as if it had named nobody. -/
  others : ∀ w ∈ k.workers, w.header.unique = unique → ∀ later k'',
    DistinctInFlight c now (events ++ .receive :: later) → k'.run c later = some k'' →
      ∃ k₀, ((k.withQueue queue).spawn own).run c (later.filter (Event.isApart w.ticket)) = some k₀ ∧
        AgreeBut w.ticket k'' k₀
  /-- Where the connection is one of a manager, the other connections are the same after it, and
  go on by what happens to them alone. -/
  apart : ∀ (σ : Type) (fs : Mount.FileSystem σ) (s : Setup) (m m' : Manager σ) d i j l,
    m.sessions[i]? = some ⟨d, c, k⟩ → m.step fs s (.session i .receive) = some m' → j ≠ i →
    m.sessions[j]? = some l → m'.sessions[i]? = some ⟨d, c, k'⟩ ∧
      ∀ rest m'', m'.run fs s rest = some m'' → Manager.Lives j l m'' (Manager.history fs s j m' rest)

theorem apart_of_session (hstep : k.step c .receive = some k') (σ : Type) (fs : Mount.FileSystem σ)
    (s : Setup) (m m' : Manager σ) (d : Mount.Descriptor) (i j : SessionId) (l : Live)
    (hi : m.sessions[i]? = some ⟨d, c, k⟩) (hm : m.step fs s (.session i .receive) = some m')
    (hij : j ≠ i) (hj : m.sessions[j]? = some l) :
    m'.sessions[i]? = some ⟨d, c, k'⟩ ∧
      ∀ rest m'', m'.run fs s rest = some m'' →
        Manager.Lives j l m'' (Manager.history fs s j m' rest) := by
  obtain ⟨⟨l', k₁, hl', hk₁, hnew⟩, hrest⟩ := Manager.step_session_eq_some hm
  cases hi.symm.trans hl'
  cases hstep.symm.trans hk₁
  refine ⟨hnew, fun rest m'' hrun => ?_⟩
  have hsame : m'.sessions[j]? = some l := (hrest j hij).trans hj
  exact Manager.run_session hrun hsame

/-- An interrupt cancels its target only. In a run in which the numbers in flight differ, the table
has one entry for each worker, and a worker is canceled where an interrupt named it or the time for
draining ran out; an interrupt that is read next does what `CancelsOnly` says. -/
theorem interrupt_cancels_target_only (hd : DistinctInFlight c now events)
    (h : (ofInstant now).run c events = some k) :
    k.inFlight.Perm (k.workers.map Worker.entry) ∧
    (∀ w ∈ k.workers, w.isCanceled = true ↔ IsCanceled c now events w.item) ∧
    ∀ item queue unique k', k.session.queue = item :: queue →
      item.callback.demand.target? = some unique → k.step c .receive = some k' →
      DistinctInFlight c now (events ++ [.receive]) →
        ∃ own, CancelsOnly c now events k item queue unique own k' := by
  have hk := run_indexed hd h
  have hsound := run_sound h
  have hn := nodup_workers hsound.nodup
  refine ⟨hk.table, run_canceled hd h, fun item queue unique k' hq htarget hstep hnext => ?_⟩
  have hread : IsRead c now (events ++ [.receive]) item :=
    (isRead_concat_iff h).mpr (Or.inr ⟨rfl, queue, hq⟩)
  have hrun' : (ofInstant now).run c (events ++ [.receive]) = some k' :=
    Run.foldlM_append_of h (by simpa using hstep)
  cases step_change hstep with
  | @refused first rest answer hphase hreads hq' hr =>
    cases hq.symm.trans hq'
    exact absurd hr (forwards_interrupt htarget answer)
  | @spawned first rest own hphase hreads hq' hown =>
    cases hq.symm.trans hq'
    have hnew := read_fresh (run_indexed hnext hrun').numbers
    have hafter : ((k.withQueue queue).heed item.callback.demand).spawn own =
        { k.withQueue queue with
          workers := k.interrupted item.callback.demand.target? ++ [own]
          inFlight := own.entry :: k.inFlight } := read_eq hk hn hnew
    rw [htarget] at hafter
    refine ⟨own, hown, hafter, fun hmiss => ?_, fun later k'' hlater => ?_,
      fun w hw hunique later k'' hlater => ?_, fun w hw hunique later k'' hall hlater => ?_,
      apart_of_session hstep⟩
    · have hqueued : Indexed (k.withQueue queue) := ⟨hk.numbers, hk.table⟩
      rw [hafter, interrupted_of_missed hmiss, spawn_eq hqueued hnew]
      rfl
    · have hall := Run.foldlM_append_of hrun' hlater
      rw [List.append_assoc] at hall
      refine served_of_forwarded hall ?_ (forwards_interrupt htarget)
      exact ⟨events, .receive, later, k, rfl, h, rfl, queue, hq⟩
    · subst hunique
      have hcondemned := condemned_interrupted hsound hq hown.item hw
      rw [← hafter] at hcondemned
      have hlast : Condemned w.item.ticket k'' := hcondemned.run hlater
      refine hlast.ends (Run.foldlM_append_of hrun' hlater) ?_
      have hsent := ((run_recorded h).working w.item (List.mem_map_of_mem hw)).1
      rw [List.append_assoc, Event.sent_append]
      exact List.mem_append_left _ hsent
    · subst hunique
      have hall' : DistinctInFlight c now ((events ++ [.receive]) ++ later) := by simpa using hall
      exact unheeded_run hk hn htarget hw hrun' hall' hlater

/-- Two callbacks are in flight, one of them posted, when an interrupt that names it comes in. -/
def interruptedRun : List Event :=
  [.send ⟨0, ⟨⟨7, ⟨0, 0, 1⟩⟩, .operation .statfs ⟨⟩⟩⟩,
   .send ⟨1, ⟨⟨8, ⟨0, 0, 1⟩⟩, .operation .statfs ⟨⟩⟩⟩,
   .send ⟨2, ⟨⟨9, ⟨0, 0, 1⟩⟩, .operation .interrupt ⟨7⟩⟩⟩,
   .serve, .receive, .receive, .start 0 (some (5, .error .timeout))]

theorem interrupt_cancels_target_only_posted : ∃ k k' item own,
    (ofInstant 0).run readOnlySettings interruptedRun = some k ∧ k.numbers = [7, 8] ∧
      k.step readOnlySettings .receive = some k' ∧
      CancelsOnly readOnlySettings 0 interruptedRun k item [] 7 own k' := by
  have hd : DistinctInFlight readOnlySettings 0 (interruptedRun ++ [.receive]) :=
    distinctInFlight_of_sent (by decide)
  have hbefore := hd.of_prefix (List.prefix_append _ _)
  obtain ⟨own, hown⟩ := (interrupt_cancels_target_only hbefore rfl).2.2 _ [] 7 _ rfl rfl rfl hd
  exact ⟨_, _, _, own, rfl, rfl, rfl, hown⟩

end Connection

end FsGateway.Gateway
