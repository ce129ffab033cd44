import FsGateway.Proofs.Connection.Effect
import FsGateway.Proofs.Keyed
import FsGateway.Proofs.Run

/-!
# Where callbacks are

A callback that was sent is at one of three places: in the queue, with a worker, or answered. No
event duplicates or loses it.

* `Effect.tickets`: an event moves callbacks from place to place, and adds the one that it sends.
* `Sound`: what holds of a connection after every run. No ticket is at two places, a connection that
  stopped reading has an empty queue, one that is closed has no workers, and the table of calls that
  can be interrupted names numbers of callbacks with workers only.
* `run_tickets`: after a run, the tickets at the three places are those of the callbacks sent.
-/

namespace FsGateway.Gateway

open Kernel (Queued Answered Answer Ticket)

/-- How the phase of a connection moves. -/
inductive Phase.Moves : Phase → Phase → Prop
  | stay (p : Phase) : Moves p p
  | serve : Moves .ready .serving
  | stop : Moves .serving .draining
  | close : Moves .draining .closed

/-- How what callers are told about a connection changes. -/
def Phase.StatusMoves (s t : String) : Prop :=
  t = s ∨ s = "Open" ∧ t = "Serving" ∨ s = "Serving" ∧ t = "Closed"

theorem Phase.Moves.status {p q : Phase} (h : Phase.Moves p q) :
    Phase.StatusMoves p.status q.status := by
  cases h with
  | stay => exact Or.inl rfl
  | serve => exact Or.inr (Or.inl ⟨rfl, rfl⟩)
  | stop => exact Or.inl rfl
  | close => exact Or.inr (Or.inr ⟨rfl, rfl⟩)

namespace Connection

variable {c : Settings} {k k' : Connection} {e : Event}

/-- The callbacks that are with workers. -/
def inWork (k : Connection) : List Queued := k.workers.map Worker.item

/-- The tickets of all callbacks, by their places. -/
def tickets (k : Connection) : List Ticket :=
  k.session.queue.map (·.ticket) ++ k.inWork.map (·.ticket) ++ k.answers.map (·.2.ticket)

theorem map_ticket_inWork (k : Connection) :
    k.inWork.map (·.ticket) = k.workers.map (·.ticket) := by
  rw [inWork, List.map_map]
  rfl

theorem nodup_workers (hn : k.tickets.Nodup) : (k.workers.map (·.ticket)).Nodup := by
  rw [tickets, List.nodup_append, List.nodup_append, map_ticket_inWork] at hn
  exact hn.1.2.1

@[simp] theorem withQueue_inWork (queue : List Queued) : (k.withQueue queue).inWork = k.inWork :=
  rfl

theorem Keeps.inWork (h : Keeps k k') : k'.inWork = k.inWork := h.items

theorem spawn_inWork (w : Worker) : (k.spawn w).inWork = k.inWork ++ [w.item] := by
  simp [Connection.inWork, spawn]

theorem mem_inWork_of_retire {item : Queued} {w : Worker} {answer : Answer}
    (h : item ∈ (k.retire w answer).inWork) : item ∈ k.inWork := by
  obtain ⟨x, hx, rfl⟩ := List.mem_map.mp h
  exact List.mem_map_of_mem (List.mem_of_mem_filter hx)

/-! ## Tickets -/

theorem Keeps.tickets (h : Keeps k k') : k'.tickets = k.tickets := by
  rw [Connection.tickets, Connection.tickets, h.queue, h.inWork, h.answers]

theorem record_tickets (as : List Answered) :
    (k.record as).tickets = k.tickets ++ as.map (·.ticket) := by
  simp [tickets, inWork, Function.comp_def]

theorem spawn_tickets (w : Worker) : (k.spawn w).tickets.Perm (w.ticket :: k.tickets) := by
  refine List.perm_iff_count.mpr fun t => ?_
  simp only [tickets, inWork, spawn, Worker.item, List.map_append, List.map_cons, List.map_nil,
    List.count_append, List.count_cons, List.count_nil]
  omega

theorem retire_tickets {w : Worker} (answer : Answer) (hn : k.tickets.Nodup)
    (hw : w ∈ k.workers) : (k.retire w answer).tickets.Perm k.tickets := by
  have hworkers := (Keyed.perm_cons_filter (nodup_workers hn) hw).map (·.ticket)
  refine List.perm_iff_count.mpr fun t => ?_
  have hcount := hworkers.count_eq t
  rw [retire, record_tickets]
  simp only [tickets, map_ticket_inWork, List.map_cons, List.map_nil, List.count_append,
    List.count_cons, List.count_nil] at hcount ⊢
  omega

theorem stop_tickets (c : Settings) : (k.stop c).tickets.Perm k.tickets := by
  refine List.perm_iff_count.mpr fun t => ?_
  simp only [stop, Kernel.Session.close]
  rw [record_tickets]
  simp only [tickets, inWork, List.map_map, Kernel.Queued.dropped, Function.comp_def, List.map_nil,
    List.count_append, List.count_nil]
  omega

/-- An event moves callbacks from place to place, and adds the one that it sends. -/
theorem Effect.tickets (h : Effect c k e k') (hn : k.tickets.Nodup) :
    k'.tickets.Perm ((e.sent?.map (·.ticket)).toList ++ k.tickets) := by
  cases h with
  | queued item hopen hfresh =>
    refine List.perm_iff_count.mpr fun t => ?_
    simp only [Connection.tickets, inWork, withQueue, Event.sent?, Option.map_some, Option.toList_some,
      List.map_append, List.map_cons, List.map_nil, List.count_append]
    omega
  | dropped item hopen hfresh =>
    rw [record_tickets]
    exact List.perm_append_comm
  | @refused item queue answer hphase hq hr =>
    rw [record_tickets]
    refine List.perm_append_comm.trans ?_
    simp [Connection.tickets, inWork, withQueue, Event.sent?, hq]
  | @spawned item queue w hphase hq hw =>
    have hticket : w.ticket = item.ticket := congrArg Queued.ticket hw.item
    refine (spawn_tickets w).trans ?_
    rw [(heed_keeps _).tickets, hticket]
    simp [Connection.tickets, inWork, withQueue, Event.sent?, hq]
  | stopped hphase => exact stop_tickets c
  | ended hw hend =>
    rw [hend.sent?_eq_none]
    exact retire_tickets _ hn hw
  | drained hphase hworkers => exact List.Perm.refl _
  | kept hsent hne hk =>
    rw [hsent, hk.tickets]
    exact List.Perm.refl _

/-- The callback that an event sends has a ticket that is not in use. -/
theorem Effect.fresh (h : Effect c k e k') :
    k.fresh ≤ k'.fresh ∧
      ∀ item, e.sent? = some item → k.fresh ≤ item.ticket ∧ item.ticket < k'.fresh := by
  cases h with
  | queued item hopen hfresh | dropped item hopen hfresh =>
    refine ⟨Nat.le_succ_of_le hfresh, fun item' hitem => ?_⟩
    cases hitem
    exact ⟨hfresh, Nat.lt_succ_self _⟩
  | refused hphase hq hr => exact ⟨Nat.le_refl _, fun item' hitem => by cases hitem⟩
  | spawned hphase hq hw =>
    refine ⟨?_, fun item' hitem => by cases hitem⟩
    rw [spawn, (heed_keeps _).fresh]
    exact Nat.le_refl _
  | stopped hphase => exact ⟨Nat.le_refl _, fun item' hitem => by cases hitem⟩
  | ended hw hend =>
    refine ⟨Nat.le_refl _, fun item' hitem => ?_⟩
    rw [hend.sent?_eq_none] at hitem
    cases hitem
  | drained hphase hworkers => exact ⟨Nat.le_refl _, fun item' hitem => by cases hitem⟩
  | kept hsent hne hk =>
    refine ⟨Nat.le_of_eq hk.fresh.symm, fun item' hitem => ?_⟩
    rw [hsent] at hitem
    cases hitem

/-! ## Phases -/

/-- Spawning a worker for a callback that was read does not change the phase. -/
theorem phase_spawned {queue : List Queued} {w : Worker} (d : Kernel.Demand)
    (hphase : k.phase = .serving) : (((k.withQueue queue).heed d).spawn w).phase = .serving := by
  rcases (heed_keeps (k := k.withQueue queue) d).phase with hp | ⟨-, hp⟩
  · exact hp.trans hphase
  · exact hp

theorem Effect.phase (h : Effect c k e k') : Phase.Moves k.phase k'.phase := by
  cases h with
  | queued item hopen hfresh => exact .stay _
  | dropped item hopen hfresh => exact .stay _
  | refused hphase hq hr => exact .stay _
  | @spawned item queue w hphase hq hw =>
    rw [phase_spawned _ hphase, hphase]
    exact .stay _
  | stopped hphase =>
    rw [hphase]
    exact .stop
  | ended hw hend => exact .stay _
  | drained hphase hworkers =>
    rw [hphase]
    exact .close
  | kept hsent hne hk =>
    rcases hk.phase with hp | ⟨hp, hp'⟩
    · rw [hp]
      exact .stay _
    · rw [hp, hp']
      exact .serve

/-- A connection that is closed stays closed. -/
theorem step_closed (h : k.step c e = some k') (hphase : k.phase = .closed) :
    k'.phase = .closed := by
  have hmoves := (step_effect h).phase
  rw [hphase] at hmoves
  generalize k'.phase = p at hmoves ⊢
  cases hmoves
  rfl

/-! ## The table of calls that can be interrupted -/

/-- The table leads from numbers of callbacks with workers. -/
def Tabled (k : Connection) : Prop :=
  ∀ entry ∈ k.inFlight, ∃ item ∈ k.inWork, item.callback.header.unique = entry.1

theorem Keeps.tabled (h : Keeps k k') (hk : Tabled k) : Tabled k' := by
  intro entry hentry
  rw [h.inFlight] at hentry
  rw [h.inWork]
  exact hk entry hentry

theorem tabled_retire {w : Worker} (answer : Answer) (hn : k.tickets.Nodup) (hw : w ∈ k.workers)
    (hk : Tabled k) : Tabled (k.retire w answer) := by
  intro entry hentry
  obtain ⟨hentry, hne⟩ : entry ∈ k.inFlight ∧ entry.1 ≠ w.header.unique := by
    simpa [retire] using hentry
  obtain ⟨item, hitem, hunique⟩ := hk entry hentry
  obtain ⟨x, hx, rfl⟩ := List.mem_map.mp hitem
  -- a worker of another number has another ticket
  have hticket : x.ticket ≠ w.ticket := by
    intro h
    cases List.inj_on_of_nodup_map (nodup_workers hn) hx hw h
    exact hne hunique.symm
  exact ⟨x.item, List.mem_map.mpr ⟨x, by simpa [retire] using ⟨hx, hticket⟩, rfl⟩, hunique⟩

theorem tabled_spawn (w : Worker) (hk : Tabled k) : Tabled (k.spawn w) := by
  intro entry hentry
  rw [spawn_inWork]
  rcases List.mem_cons.mp hentry with rfl | hentry
  · exact ⟨w.item, by simp, rfl⟩
  · obtain ⟨item, hitem, hunique⟩ := hk entry (List.mem_of_mem_filter hentry)
    exact ⟨item, List.mem_append_left _ hitem, hunique⟩

theorem Effect.tabled (h : Effect c k e k') (hn : k.tickets.Nodup) (hk : Tabled k) :
    Tabled k' := by
  cases h with
  | queued item hopen hfresh => exact hk
  | dropped item hopen hfresh => exact hk
  | refused hphase hq hr => exact hk
  | @spawned item queue w hphase hq hw =>
    have hread : Tabled (k.withQueue queue) := hk
    exact tabled_spawn w ((heed_keeps _).tabled hread)
  | stopped hphase => exact hk
  | ended hw hend => exact tabled_retire _ hn hw hk
  | drained hphase hworkers => exact hk
  | kept hsent hne hkeeps => exact hkeeps.tabled hk

/-! ## What holds after every run -/

/-- What holds of a connection after every run. -/
structure Sound (k : Connection) : Prop where
  nodup : k.tickets.Nodup
  below : ∀ t ∈ k.tickets, t < k.fresh
  /-- A connection that stopped reading has an empty queue, and nothing joins it. -/
  shut : k.phase = .draining ∨ k.phase = .closed →
    k.session.isOpen = false ∧ k.session.queue = []
  idle : k.phase = .closed → k.workers = []
  tabled : Tabled k

theorem sound_ofInstant (now : Nat) : Sound (.ofInstant now) where
  nodup := List.nodup_nil
  below := by simp [tickets, inWork, ofInstant, Kernel.Session.empty]
  shut := by simp [ofInstant]
  idle := by simp [ofInstant]
  tabled := by simp [Tabled, ofInstant]

theorem Sound.nodup_of_effect (hk : Sound k) (h : Effect c k e k') : k'.tickets.Nodup := by
  rw [(h.tickets hk.nodup).nodup_iff]
  cases hs : e.sent? with
  | none => simpa [hs] using hk.nodup
  | some item =>
    have hout : item.ticket ∉ k.tickets := by
      intro hin
      have hlt := hk.below _ hin
      exact absurd hlt (Nat.not_lt_of_le (h.fresh.2 item hs).1)
    simpa using ⟨hout, hk.nodup⟩

theorem Sound.below_of_effect (hk : Sound k) (h : Effect c k e k') :
    ∀ t ∈ k'.tickets, t < k'.fresh := by
  intro t ht
  rw [(h.tickets hk.nodup).mem_iff, List.mem_append] at ht
  rcases ht with ht | ht
  · obtain ⟨item, hs, rfl⟩ : ∃ item, e.sent? = some item ∧ item.ticket = t := by simpa using ht
    exact (h.fresh.2 item hs).2
  · exact Nat.lt_of_lt_of_le (hk.below t ht) h.fresh.1

theorem Sound.shut_of_effect (hk : Sound k) (h : Effect c k e k')
    (hp : k'.phase = .draining ∨ k'.phase = .closed) :
    k'.session.isOpen = false ∧ k'.session.queue = [] := by
  cases h with
  | queued item hopen hfresh =>
    have hclosed := (hk.shut hp).1
    rw [hopen] at hclosed
    cases hclosed
  | dropped item hopen hfresh => exact hk.shut hp
  | refused hphase hq hr =>
    rw [record_phase, withQueue_phase, hphase] at hp
    rcases hp with hp | hp <;> cases hp
  | @spawned item queue w hphase hq hw =>
    rw [phase_spawned _ hphase] at hp
    rcases hp with hp | hp <;> cases hp
  | stopped hphase => exact ⟨rfl, rfl⟩
  | ended hw hend => exact hk.shut hp
  | drained hphase hworkers => exact hk.shut (Or.inl hphase)
  | kept hsent hne hkeeps =>
    rw [hkeeps.isOpen, hkeeps.queue]
    rcases hkeeps.phase with hsame | ⟨-, hserving⟩
    · rw [hsame] at hp
      exact hk.shut hp
    · rw [hserving] at hp
      rcases hp with hp | hp <;> cases hp

theorem Sound.idle_of_effect (hk : Sound k) (h : Effect c k e k') (hp : k'.phase = .closed) :
    k'.workers = [] := by
  cases h with
  | queued item hopen hfresh => exact hk.idle hp
  | dropped item hopen hfresh => exact hk.idle hp
  | refused hphase hq hr =>
    cases hp.symm.trans hphase
  | @spawned item queue w hphase hq hw =>
    rw [phase_spawned _ hphase] at hp
    cases hp
  | stopped hphase => cases hp
  | ended hw hend =>
    rw [hk.idle hp] at hw
    cases hw
  | drained hphase hworkers => exact hworkers
  | kept hsent hne hkeeps =>
    rcases hkeeps.phase with hsame | ⟨-, hserving⟩
    · have hitems := hkeeps.items
      rw [hk.idle (hsame.symm.trans hp)] at hitems
      exact List.map_eq_nil_iff.mp hitems
    · cases hp.symm.trans hserving

/-- Whatever happens to a connection, it stays sound. -/
theorem Sound.effect (hk : Sound k) (h : Effect c k e k') : Sound k' where
  nodup := hk.nodup_of_effect h
  below := hk.below_of_effect h
  shut := hk.shut_of_effect h
  idle := hk.idle_of_effect h
  tabled := h.tabled hk.nodup hk.tabled

/-! ## Runs -/

section Runs

variable {now : Nat} {events : List Event}

theorem run_sound (h : (ofInstant now).run c events = some k) : Sound k :=
  Run.foldlM_keeps (fun _ _ _ hk h => hk.effect (step_effect h)) (sound_ofInstant now) h

/-- After a run, the tickets at the three places are those of the callbacks sent. -/
theorem run_tickets (h : (ofInstant now).run c events = some k) :
    k.tickets.Perm ((Event.sent events).map (·.ticket)) := by
  refine Run.foldlM_induction
    (P := fun events k => k.tickets.Perm ((Event.sent events).map (·.ticket))) ?_ ?_ h
  · exact List.Perm.refl _
  · intro events k e k' hrun ih hstep
    refine ((step_effect hstep).tickets (run_sound hrun).nodup).trans ?_
    refine (ih.append_left _).trans (List.perm_append_comm.trans ?_)
    rw [Event.sent_concat, List.map_append]
    cases e.sent? <;> exact List.Perm.refl _

end Runs

end Connection

end FsGateway.Gateway
