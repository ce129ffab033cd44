import FsGateway.Proofs.Connection.Calls

/-!
# Virtual time

In virtual time a connection does whatever it can do at an instant before time passes, and time does
not pass over an instant at which something may happen. So nothing waits that need not wait: what is
due at an instant happens at this instant.

* `OnTime`: events in virtual time.
* `Settled`: nothing can happen now. No call that is over, and no end of draining, is left then.
* `firstInstant`: when something happens first.
* `Change.closing`: how an event brings the end of a connection nearer.
-/

namespace FsGateway.Gateway

open Kernel (Demand)

/-- Whether the kernel ends the session with an event, or the connection is told to stop. -/
def Event.isEnd : Event → Bool
  | .hangUp | .shutDown => true
  | _ => false

/-- The span of time that passes with an event, if it is one in which time passes. -/
def Event.elapsed? : Event → Option Nat
  | .elapse duration => some duration
  | _ => none

/-- How much time passes with an event. -/
def Event.duration (e : Event) : Nat := e.elapsed?.getD 0

theorem Event.duration_eq_zero {e : Event} (h : ∀ duration, e ≠ .elapse duration) :
    e.duration = 0 := by
  cases e with
  | elapse duration => exact absurd rfl (h duration)
  | _ => rfl

namespace Connection

variable {c : Settings} {k k' : Connection} {e : Event} {w : Worker} {events : List Event}

/-! ## Runs in virtual time -/

/-- Nothing can happen at this instant without anyone else. -/
def Settled (c : Settings) (k : Connection) : Prop :=
  ∀ replyTo, ∀ e ∈ k.candidates replyTo, k.step c e = none

/-- Time may pass: nothing can happen now, and no instant is left out at which something may
happen. -/
structure Patient (c : Settings) (k : Connection) (duration : Nat) : Prop where
  settled : Settled c k
  instants : ∀ i ∈ k.instants, k.now < i → k.now + duration ≤ i

/-- In the course of events time passes only when it may. -/
def OnTime (c : Settings) (k : Connection) (events : List Event) : Prop :=
  ∀ before duration after k', events = before ++ .elapse duration :: after →
    k.run c before = some k' → Patient c k' duration

theorem OnTime.of_append {first second : List Event} (h : OnTime c k (first ++ second)) :
    OnTime c k first := by
  rintro before duration after k' rfl hrun
  exact h before duration (after ++ second) k' (by simp) hrun

/-- Whether a worker can start does not depend on the reply that it gets. -/
theorem settled_iff :
    Settled c k ↔ ∀ e ∈ k.candidates fun _ => none, (k.step c e).isNone = true := by
  constructor
  · intro h e he
    rw [h _ e he]
    rfl
  · intro h replyTo e he
    have hnone : ∀ e, e ∈ k.candidates (fun _ => none) → k.step c e = none :=
      fun e he => Option.isNone_iff_eq_none.mp (h e he)
    simp only [candidates, List.mem_append, List.mem_map] at he hnone
    rcases he with ((he | ⟨w, hw, rfl⟩) | he) | he
    · exact hnone e (Or.inl (Or.inl (Or.inl he)))
    · have hstart := hnone _ (Or.inl (Or.inl (Or.inr ⟨w, hw, rfl⟩)))
      rw [step, Option.map_eq_none_iff] at hstart ⊢
      exact hstart
    · exact hnone e (Or.inl (Or.inr he))
    · exact hnone e (Or.inr he)

instance : Decidable (Settled c k) := decidable_of_iff _ settled_iff.symm

instance {duration : Nat} : Decidable (Patient c k duration) :=
  decidable_of_iff (Settled c k ∧ ∀ i ∈ k.instants, k.now < i → k.now + duration ≤ i)
    ⟨fun h => ⟨h.1, h.2⟩, fun h => ⟨h.settled, h.instants⟩⟩

theorem onTime_nil : OnTime c k [] := by
  intro before duration after k' h
  cases before <;> cases h

theorem onTime_cons_iff : OnTime c k (e :: events) ↔
    (∀ duration ∈ e.elapsed?, Patient c k duration) ∧ ∀ k' ∈ k.step c e, OnTime c k' events := by
  constructor
  · intro h
    refine ⟨fun duration hd => ?_, fun k' hstep before duration after k'' hsplit hrun => ?_⟩
    · cases e with
      | elapse d =>
        cases hd
        exact h [] _ events k rfl rfl
      | _ => cases hd
    · refine h (e :: before) duration after k'' (by rw [hsplit]; rfl) ?_
      rw [run, List.foldlM_cons, hstep]
      exact hrun
  · rintro ⟨hnow, hrest⟩ before duration after k' hsplit hrun
    cases before with
    | nil =>
      cases hsplit
      cases hrun
      exact hnow duration rfl
    | cons first before =>
      cases hsplit
      obtain ⟨k₁, hstep, hbefore⟩ := Run.foldlM_cons_eq_some hrun
      exact hrest k₁ hstep before duration after k' rfl hbefore

instance decidableOnTime : (k : Connection) → (events : List Event) →
    Decidable (OnTime c k events)
  | _, [] => isTrue onTime_nil
  | _, _ :: events =>
    have : ∀ k', Decidable (OnTime c k' events) := fun k' => decidableOnTime k' events
    decidable_of_iff _ onTime_cons_iff.symm

theorem OnTime.last {duration : Nat} (h : OnTime c k (events ++ [.elapse duration]))
    (hrun : k.run c events = some k') : Patient c k' duration :=
  h events duration [] k' rfl hrun

/-! ## What cannot wait -/

namespace Settled

variable (h : Settled c k)

include h

theorem not_change (hn : (k.workers.map (·.ticket)).Nodup) (hchange : Change c k e k')
    (replyTo : UInt64 → Option (Nat × Client.Outcome)) : e ∉ k.candidates replyTo := by
  intro hmem
  have hnone := h replyTo e hmem
  rw [hchange.step hn] at hnone
  cases hnone

theorem not_finishes (hn : (k.workers.map (·.ticket)).Nodup) (hw : w ∈ k.workers)
    (ended : Client.End) : ¬ w.Finishes k.now ended := by
  intro hfinishes
  have hchange : Change c k (.finish w.ticket) (k.retire w (w.answer c.client ended)) :=
    .finished hw (Worker.ending_eq_some_iff.mpr hfinishes)
  apply h.not_change hn hchange fun _ => none
  simp only [candidates, List.mem_append, List.mem_map]
  exact Or.inl (Or.inr ⟨w, hw, rfl⟩)

theorem not_spawned (hn : (k.workers.map (·.ticket)).Nodup) (hw : w ∈ k.workers) :
    w.stage ≠ .spawned := by
  intro hstage
  apply h.not_change hn (start_change hw hstage none) fun _ => none
  simp only [candidates, List.mem_append, List.mem_map]
  exact Or.inl (Or.inl (Or.inr ⟨w, hw, rfl⟩))

/-- A call that waits is posted and not canceled, and neither its deadline nor its reply has come. -/
theorem worker (hn : (k.workers.map (·.ticket)).Nodup) (hw : w ∈ k.workers) :
    (∃ reply, w.stage = .posted reply ∧ ∀ r ∈ reply, k.now < r.1) ∧ w.isCanceled = false ∧
      ∀ i ∈ w.deadline, k.now < i := by
  have hgoes := h.not_finishes hn hw
  cases hstage : w.stage with
  | spawned => exact absurd hstage (h.not_spawned hn hw)
  | posted reply =>
    have hlive : w.isCanceled = false := by
      by_contra hcanceled
      exact hgoes _ (.canceled hstage (eq_true_of_ne_false hcanceled))
    have hearly : w.isExpired k.now = false := by
      by_contra hexpired
      exact hgoes _ (.expired hstage hlive (eq_true_of_ne_false hexpired))
    refine ⟨⟨reply, rfl, fun r hr => ?_⟩, hlive, fun i hi => ?_⟩
    · apply Nat.lt_of_not_le
      intro hle
      cases hr
      exact hgoes _ (.replied hstage hlive hearly hle)
    · apply Nat.lt_of_not_le
      intro hle
      rw [Worker.isExpired, Option.mem_def.mp hi] at hearly
      exact absurd hle (of_decide_eq_false hearly)

theorem drainLimit (hn : (k.workers.map (·.ticket)).Nodup) (hphase : k.phase = .draining)
    (hw : w ∈ k.workers) : ∀ i ∈ k.drainLimit, k.now < i := by
  intro limit hlimit
  apply Nat.lt_of_not_le
  intro hle
  have hchange : Change c k .expire k.cancelAll :=
    .expired hphase hlimit hle (List.ne_nil_of_mem hw)
  apply h.not_change hn hchange fun _ => none
  simp [candidates]

end Settled

/-! ## The end of a connection -/

/-- Whether the session has ended, or the connection was told to stop. -/
def hasEnded (k : Connection) : Bool := k.isShutDown || !k.session.hasSender

theorem mayStop_iff : k.mayStop = true ↔
    k.isShutDown = true ∨ k.session.hasSender = false ∧ k.session.queue = [] := by
  rw [mayStop, Bool.or_eq_true, Kernel.Session.receive]
  refine or_congr_right ?_
  cases k.session.queue with
  | nil => cases k.session.hasSender <;> simp
  | cons item queue => simp

theorem hasEnded_of_mayStop (h : k.mayStop = true) : k.hasEnded = true := by
  rcases mayStop_iff.mp h with hshut | ⟨hgone, -⟩
  · simp [hasEnded, hshut]
  · simp [hasEnded, hgone]

/-- A connection whose session has ended does not go on reading. -/
theorem Settled.not_ended (h : Settled c k) (hn : (k.workers.map (·.ticket)).Nodup)
    (hphase : k.phase = .serving) : k.hasEnded = false := by
  by_contra hended
  have hstop : k.mayStop = false := by
    by_contra hmay
    have hchange : Change c k .stop (k.stop c) := .stopped hphase (by simpa using hmay)
    apply h.not_change hn hchange fun _ => none
    simp [candidates]
  cases hshut : k.isShutDown with
  | true => rw [mayStop_iff.mpr (Or.inl hshut)] at hstop; cases hstop
  | false =>
    have hgone : k.session.hasSender = false := by simpa [hasEnded, hshut] using hended
    cases hq : k.session.queue with
    | nil => rw [mayStop_iff.mpr (Or.inr ⟨hgone, hq⟩)] at hstop; cases hstop
    | cons item queue =>
      have hnone := h (fun _ => none) .receive (by simp [candidates])
      rw [step_receive hphase hshut hq] at hnone
      cases hnone

theorem heed_eq_with (k : Connection) (d : Demand) :
    ∃ workers, k.heed d = { k with workers := workers } := by
  rw [heed_eq_target]
  split
  · exact ⟨k.workers, rfl⟩
  · rw [interrupt_eq_map]
    exact ⟨_, rfl⟩

theorem Change.now (h : Change c k e k') : k'.now = k.now + e.duration := by
  cases h with
  | @spawned item queue =>
    obtain ⟨workers, hheed⟩ := heed_eq_with (k.withQueue queue) item.callback.demand
    rw [hheed]
    rfl
  | _ => rfl

theorem Change.hasEnded (h : Change c k e k') : k'.hasEnded = (k.hasEnded || e.isEnd) := by
  cases h with
  | @spawned item queue =>
    obtain ⟨workers, hheed⟩ := heed_eq_with (k.withQueue queue) item.callback.demand
    rw [hheed]
    exact (Bool.or_false _).symm
  | hungUp => simp [Connection.hasEnded, Kernel.Session.hangUp, Event.isEnd]
  | toldToStop => simp [Connection.hasEnded, Event.isEnd]
  | _ => exact (Bool.or_false _).symm

/-- How an event brings the end of a connection nearer. -/
theorem Change.closing (h : Change c k e k') :
    k'.phase = k.phase ∧ k'.drainLimit = k.drainLimit ∨
    e = .serve ∧ k.phase = .ready ∨
    (e = .stop ∧ k.phase = .serving ∧ k.hasEnded = true ∧ k'.phase = .draining ∧
      k'.drainLimit = c.drainTimeout.map (k.now + ·)) ∨
    (e = .expire ∧ k.phase = .draining ∧ k'.phase = .draining ∧
      ∀ w ∈ k'.workers, w.isCanceled = true) ∨
    e = .drained ∧ k.workers = [] := by
  cases h with
  | @spawned item queue =>
    obtain ⟨workers, hheed⟩ := heed_eq_with (k.withQueue queue) item.callback.demand
    rw [hheed]
    exact Or.inl ⟨rfl, rfl⟩
  | served hready => exact Or.inr (Or.inl ⟨rfl, hready⟩)
  | stopped hphase hmay =>
    exact Or.inr (Or.inr (Or.inl ⟨rfl, hphase, hasEnded_of_mayStop hmay, rfl, rfl⟩))
  | expired hphase =>
    refine Or.inr (Or.inr (Or.inr (Or.inl ⟨rfl, hphase, hphase, fun w hw => ?_⟩)))
    obtain ⟨x, -, rfl⟩ := List.mem_map.mp hw
    rfl
  | drained hphase hworkers => exact Or.inr (Or.inr (Or.inr (Or.inr ⟨rfl, hworkers⟩)))
  | _ => exact Or.inl ⟨rfl, rfl⟩

/-! ## First instants -/

/-- The instant at which something happens first in the course of events, if it does. -/
def firstInstant (c : Settings) (P : Connection → Event → Bool) :
    Connection → List Event → Option Nat
  | _, [] => none
  | k, e :: events =>
    if P k e then some k.now else (k.step c e).bind fun k' => firstInstant c P k' events

theorem firstInstant_concat {P : Connection → Event → Bool} (h : k.run c events = some k')
    (e : Event) : firstInstant c P k (events ++ [e]) =
      (firstInstant c P k events).or (if P k' e then some k'.now else none) := by
  induction events generalizing k with
  | nil =>
    cases h
    rw [List.nil_append, firstInstant, firstInstant, Option.none_or]
    cases Connection.step c k' e <;> rfl
  | cons first events ih =>
    obtain ⟨k₁, hstep, hrest⟩ := Run.foldlM_cons_eq_some h
    rw [List.cons_append, firstInstant, firstInstant, hstep]
    by_cases hp : P k first = true
    · rw [if_pos hp, if_pos hp, Option.some_or]
    · rw [if_neg hp, if_neg hp, Option.bind_some, Option.bind_some, ih hrest]

theorem run_ended {now : Nat} (h : (ofInstant now).run c events = some k) :
    (k.hasEnded = false → firstInstant c (fun _ e => e.isEnd) (ofInstant now) events = none) ∧
      (k.hasEnded = true → ∃ i ≤ k.now,
        firstInstant c (fun _ e => e.isEnd) (ofInstant now) events = some i) := by
  refine Run.foldlM_induction (P := fun events k =>
    (k.hasEnded = false → firstInstant c (fun _ e => e.isEnd) (ofInstant now) events = none) ∧
      (k.hasEnded = true → ∃ i ≤ k.now,
        firstInstant c (fun _ e => e.isEnd) (ofInstant now) events = some i)) ?_ ?_ h
  · exact ⟨fun _ => rfl, fun h => (Bool.false_ne_true h).elim⟩
  · rintro events k e k' hrun ⟨hopen, hended⟩ hstep
    have hchange := step_change hstep
    rw [firstInstant_concat hrun, hchange.hasEnded, hchange.now]
    cases hbefore : k.hasEnded with
    | false =>
      rw [hopen hbefore, Option.none_or, Bool.false_or]
      cases e.isEnd with
      | false => exact ⟨fun _ => rfl, fun h => absurd h (by decide)⟩
      | true => exact ⟨fun h => absurd h (by decide), fun _ => ⟨k.now, Nat.le_add_right _ _, rfl⟩⟩
    | true =>
      obtain ⟨i, hi, hfirst⟩ := hended hbefore
      rw [hfirst, Option.some_or, Bool.true_or]
      exact ⟨fun h => absurd h (by decide), fun _ => ⟨i, Nat.le_trans hi (Nat.le_add_right _ _), rfl⟩⟩

end Connection

end FsGateway.Gateway
