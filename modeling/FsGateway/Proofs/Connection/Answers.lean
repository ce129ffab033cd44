import FsGateway.Proofs.Connection.Places

/-!
# Every callback is answered once

Answers come from five places: a callback is sent when nobody reads any more, it is still queued
when the connection stops reading, it is refused when it is read, its call cannot be posted, or its
posted call is over. Whichever it is, the callback leaves the place where it was, so none is answered
twice; and a connection that is closed has nothing left to answer.

* `Fate`: why a callback has its answer.
* `answered_exactly_once`: no callback is answered twice, the state only moves forward, and a closed
  connection has answered every callback once, with what its fate says.
-/

namespace FsGateway.Gateway.Connection

open Kernel (Queued Answered Answer Ticket)
open Run (Happens happens_concat_iff)

variable {c : Settings} {now : Nat} {events : List Event} {k k' : Connection} {e : Event}
  {item : Queued}

/-! ## Fates -/

/-- A callback is read in the course of events. -/
def IsRead (c : Settings) (now : Nat) (events : List Event) (item : Queued) : Prop :=
  Happens (fun k e => k.step c e) (ofInstant now) events fun k e =>
    e = .receive ∧ ∃ queue, k.session.queue = item :: queue

/-- The call of a callback ends with an answer in the course of events. -/
def IsServed (c : Settings) (now : Nat) (events : List Event) (item : Queued) (answer : Answer) :
    Prop :=
  Happens (fun k e => k.step c e) (ofInstant now) events fun k e =>
    ∃ w ∈ k.workers, w.item = item ∧ w.Ends c k.now e answer

/-- Why a callback has its answer: it was never read, the connection refused it, or its worker got
the answer. -/
inductive Fate (c : Settings) (now : Nat) (events : List Event) (item : Queued) : Answer → Prop
  | unread : ¬ IsRead c now events item → Fate c now events item .dropped
  | refused {answer : Answer} : IsRead c now events item → Refuses c item.callback.demand answer →
      Fate c now events item answer
  | served {answer : Answer} : IsRead c now events item →
      (∀ a, ¬ Refuses c item.callback.demand a) → IsServed c now events item answer →
      Fate c now events item answer

theorem isRead_concat_iff (hrun : (ofInstant now).run c events = some k) :
    IsRead c now (events ++ [e]) item ↔
      IsRead c now events item ∨ e = .receive ∧ ∃ queue, k.session.queue = item :: queue :=
  happens_concat_iff hrun e

theorem isServed_concat_iff {answer : Answer} (hrun : (ofInstant now).run c events = some k) :
    IsServed c now (events ++ [e]) item answer ↔
      IsServed c now events item answer ∨ ∃ w ∈ k.workers, w.item = item ∧ w.Ends c k.now e answer :=
  happens_concat_iff hrun e

/-- A fate stays what it is, unless a callback that was not read is read now. -/
theorem Fate.concat {answer : Answer} (h : Fate c now events item answer)
    (hrun : (ofInstant now).run c events = some k)
    (hnew : ∀ queue, k.session.queue ≠ item :: queue) : Fate c now (events ++ [e]) item answer := by
  cases h with
  | unread hunread =>
    refine .unread fun hread => ?_
    rcases (isRead_concat_iff hrun).mp hread with hread | ⟨-, queue, hq⟩
    · exact hunread hread
    · exact hnew queue hq
  | refused hread hr => exact .refused ((isRead_concat_iff hrun).mpr (Or.inl hread)) hr
  | served hread hfwd hserved =>
    exact .served ((isRead_concat_iff hrun).mpr (Or.inl hread)) hfwd
      ((isServed_concat_iff hrun).mpr (Or.inl hserved))

/-! ## The history of a connection -/

/-- What the events so far have to do with the three places of callbacks. -/
structure Recorded (c : Settings) (now : Nat) (events : List Event) (k : Connection) : Prop where
  read : ∀ item, IsRead c now events item → item ∈ Event.sent events
  queued : ∀ item ∈ k.session.queue, item ∈ Event.sent events ∧ ¬ IsRead c now events item
  working : ∀ item ∈ k.inWork, item ∈ Event.sent events ∧ IsRead c now events item ∧
    ∀ a, ¬ Refuses c item.callback.demand a
  answered : ∀ a ∈ k.answers, ∃ item ∈ Event.sent events, item.ticket = a.2.ticket ∧
    Fate c now events item a.2.answer

theorem mem_sent_concat (h : item ∈ Event.sent events) : item ∈ Event.sent (events ++ [e]) := by
  rw [Event.sent_concat]
  exact List.mem_append_left _ h

theorem Sound.ne_of_answered (hk : Sound k) (hitem : item ∈ k.session.queue) {a : Nat × Answered}
    (ha : a ∈ k.answers) : item.ticket ≠ a.2.ticket := by
  have hdisjoint := (List.nodup_append.mp hk.nodup).2.2
  exact hdisjoint _ (List.mem_append_left _ (List.mem_map_of_mem hitem)) _
    (List.mem_map.mpr ⟨a, ha, rfl⟩)

theorem Sound.not_mem_tail (hk : Sound k) {queue : List Queued}
    (hq : k.session.queue = item :: queue) : item ∉ queue := by
  have hqueue : (k.session.queue.map (·.ticket)).Nodup :=
    (List.nodup_append.mp (List.nodup_append.mp hk.nodup).1).1
  rw [hq, List.map_cons, List.nodup_cons] at hqueue
  exact fun hmem => hqueue.1 (List.mem_map_of_mem hmem)

theorem IsWorkerFor.not_refuses {w : Worker} (hw : IsWorkerFor c now item w) (a : Answer) :
    ¬ Refuses c item.callback.demand a := by
  intro h
  rw [← hw.item] at h
  change Refuses c (.operation w.operation w.payload) a at h
  cases h with
  | readOnly _ hro hop => exact hw.isForwarded ⟨hro, hop⟩

section Step

variable (hrun : (ofInstant now).run c events = some k) (hrec : Recorded c now events k)

include hrun

/-- Only reading makes a callback one that was read. -/
theorem isRead_concat_of_ne (he : e ≠ .receive) :
    IsRead c now (events ++ [e]) item ↔ IsRead c now events item := by
  rw [isRead_concat_iff hrun]
  simp [he]

include hrec

theorem Recorded.read_concat : ∀ item, IsRead c now (events ++ [e]) item →
    item ∈ Event.sent (events ++ [e]) := by
  intro item hread
  rcases (isRead_concat_iff hrun).mp hread with hread | ⟨-, queue, hq⟩
  · exact mem_sent_concat (hrec.read item hread)
  · exact mem_sent_concat (hrec.queued item (hq ▸ List.mem_cons_self)).1

/-- A callback that is sent was not read before. -/
theorem Recorded.not_read_of_fresh (hfresh : k.fresh ≤ item.ticket) :
    ¬ IsRead c now events item := by
  intro hread
  have hin : item.ticket ∈ k.tickets :=
    (run_tickets hrun).mem_iff.mpr (List.mem_map_of_mem (hrec.read item hread))
  exact absurd ((run_sound hrun).below _ hin) (Nat.not_lt_of_le hfresh)

theorem Recorded.queued_concat (h : Effect c k e k') : ∀ item ∈ k'.session.queue,
    item ∈ Event.sent (events ++ [e]) ∧ ¬ IsRead c now (events ++ [e]) item := by
  have hbefore : e ≠ .receive → ∀ item ∈ k.session.queue,
      item ∈ Event.sent (events ++ [e]) ∧ ¬ IsRead c now (events ++ [e]) item := by
    intro he item hitem
    rw [isRead_concat_of_ne hrun he]
    exact ⟨mem_sent_concat (hrec.queued item hitem).1, (hrec.queued item hitem).2⟩
  -- what stays in the queue when its head is read was not read
  have hbehind : ∀ first queue, k.session.queue = first :: queue → ∀ item ∈ queue,
      item ∈ Event.sent (events ++ [e]) ∧ ¬ IsRead c now (events ++ [e]) item := by
    intro first queue hq item hitem
    have hmem : item ∈ k.session.queue := hq ▸ List.mem_cons_of_mem _ hitem
    refine ⟨mem_sent_concat (hrec.queued item hmem).1, fun hread => ?_⟩
    rcases (isRead_concat_iff hrun).mp hread with hread | ⟨-, queue', hq'⟩
    · exact (hrec.queued item hmem).2 hread
    · cases hq.symm.trans hq'
      exact (run_sound hrun).not_mem_tail hq hitem
  cases h with
  | queued item hopen hfresh =>
    intro item' hitem
    rcases List.mem_append.mp hitem with hitem | hitem
    · exact hbefore (by simp) item' hitem
    · cases List.mem_singleton.mp hitem
      rw [isRead_concat_of_ne (e := .send item) hrun (by simp), Event.sent_concat]
      exact ⟨by simp [Event.sent?], hrec.not_read_of_fresh hrun hfresh⟩
  | dropped item hopen hfresh => exact hbefore (by simp)
  | refused hphase hq hr => exact hbehind _ _ hq
  | @spawned item queue w hphase hq hw =>
    intro item' hitem
    have hqueue : (((k.withQueue queue).heed item.callback.demand).spawn w).session.queue = queue :=
      (heed_keeps item.callback.demand).queue
    rw [hqueue] at hitem
    exact hbehind _ _ hq item' hitem
  | stopped hphase => exact fun item hitem => absurd hitem List.not_mem_nil
  | ended hw hend => exact hbefore hend.ne_receive
  | drained hphase hworkers => exact hbefore (by simp)
  | kept hsent hne hk =>
    rw [hk.queue]
    exact hbefore hne

theorem Recorded.working_concat (h : Effect c k e k') : ∀ item ∈ k'.inWork,
    item ∈ Event.sent (events ++ [e]) ∧ IsRead c now (events ++ [e]) item ∧
      ∀ a, ¬ Refuses c item.callback.demand a := by
  have hbefore : ∀ item ∈ k.inWork, item ∈ Event.sent (events ++ [e]) ∧
      IsRead c now (events ++ [e]) item ∧ ∀ a, ¬ Refuses c item.callback.demand a := by
    intro item hitem
    obtain ⟨hsent, hread, hfwd⟩ := hrec.working item hitem
    exact ⟨mem_sent_concat hsent, (isRead_concat_iff hrun).mpr (Or.inl hread), hfwd⟩
  cases h with
  | queued item hopen hfresh => exact hbefore
  | dropped item hopen hfresh => exact hbefore
  | refused hphase hq hr => exact hbefore
  | @spawned item queue w hphase hq hw =>
    intro item' hitem
    rw [spawn_inWork, (heed_keeps _).inWork, withQueue_inWork, hw.item] at hitem
    rcases List.mem_append.mp hitem with hitem | hitem
    · exact hbefore item' hitem
    · cases List.mem_singleton.mp hitem
      have hqueued := (hrec.queued item (hq ▸ List.mem_cons_self)).1
      exact ⟨mem_sent_concat hqueued, (isRead_concat_iff hrun).mpr (Or.inr ⟨rfl, queue, hq⟩),
        hw.not_refuses⟩
  | stopped hphase => exact hbefore
  | ended hw hend => exact fun item hitem => hbefore item (mem_inWork_of_retire hitem)
  | drained hphase hworkers => exact hbefore
  | kept hsent hne hk =>
    rw [hk.inWork]
    exact hbefore

/-- The answers so far keep their fates. -/
theorem Recorded.answered_before : ∀ a ∈ k.answers, ∃ item ∈ Event.sent (events ++ [e]),
    item.ticket = a.2.ticket ∧ Fate c now (events ++ [e]) item a.2.answer := by
  intro a ha
  obtain ⟨item, hitem, hticket, hfate⟩ := hrec.answered a ha
  refine ⟨item, mem_sent_concat hitem, hticket, hfate.concat hrun ?_⟩
  intro queue hq
  exact (run_sound hrun).ne_of_answered (hq ▸ List.mem_cons_self) ha hticket

theorem Recorded.answered_concat (h : Effect c k e k') : ∀ a ∈ k'.answers,
    ∃ item ∈ Event.sent (events ++ [e]), item.ticket = a.2.ticket ∧
      Fate c now (events ++ [e]) item a.2.answer := by
  have hbefore := hrec.answered_before hrun (e := e)
  cases h with
  | queued item hopen hfresh => exact hbefore
  | dropped item hopen hfresh =>
    intro a ha
    rcases List.mem_append.mp ha with ha | ha
    · exact hbefore a ha
    · cases List.mem_singleton.mp ha
      refine ⟨item, by simp [Event.sent_concat, Event.sent?], rfl, .unread ?_⟩
      rw [isRead_concat_of_ne (e := .send item) hrun (by simp)]
      exact hrec.not_read_of_fresh hrun hfresh
  | @refused item queue answer hphase hq hr =>
    intro a ha
    rcases List.mem_append.mp ha with ha | ha
    · exact hbefore a ha
    · cases List.mem_singleton.mp ha
      have hqueued := (hrec.queued item (hq ▸ List.mem_cons_self)).1
      exact ⟨item, mem_sent_concat hqueued, rfl,
        .refused ((isRead_concat_iff hrun).mpr (Or.inr ⟨rfl, queue, hq⟩)) hr⟩
  | @spawned item queue w hphase hq hw =>
    have hanswers : (((k.withQueue queue).heed item.callback.demand).spawn w).answers = k.answers :=
      (heed_keeps item.callback.demand).answers
    rw [hanswers]
    exact hbefore
  | stopped hphase =>
    intro a ha
    rcases List.mem_append.mp ha with ha | ha
    · exact hbefore a ha
    · obtain ⟨dropped, hdropped, rfl⟩ := List.mem_map.mp ha
      obtain ⟨item, hitem, rfl⟩ := List.mem_map.mp hdropped
      refine ⟨item, mem_sent_concat (hrec.queued item hitem).1, rfl, .unread ?_⟩
      rw [isRead_concat_of_ne (e := .stop) hrun (by simp)]
      exact (hrec.queued item hitem).2
  | @ended e w answer hw hend =>
    intro a ha
    rcases List.mem_append.mp ha with ha | ha
    · exact hbefore a ha
    · cases List.mem_singleton.mp ha
      obtain ⟨hsent, hread, hfwd⟩ := hrec.working w.item (List.mem_map_of_mem hw)
      exact ⟨w.item, mem_sent_concat hsent, rfl,
        .served ((isRead_concat_iff hrun).mpr (Or.inl hread)) hfwd
          ((isServed_concat_iff hrun).mpr (Or.inr ⟨w, hw, rfl, hend⟩))⟩
  | drained hphase hworkers => exact hbefore
  | kept hsent hne hk =>
    rw [hk.answers]
    exact hbefore

end Step

/-- The events of a run account for where each callback is. -/
theorem run_recorded (h : (ofInstant now).run c events = some k) : Recorded c now events k := by
  refine Run.foldlM_induction (P := fun events k => Recorded c now events k) ?_ ?_ h
  · -- before the first event all three places are empty
    exact ⟨fun item hread => absurd hread Run.not_happens_nil,
      fun item hitem => absurd hitem List.not_mem_nil,
      fun item hitem => absurd hitem List.not_mem_nil, fun a ha => absurd ha List.not_mem_nil⟩
  · intro events k e k' hrun ih hstep
    have heffect := step_effect hstep
    exact ⟨ih.read_concat hrun, ih.queued_concat hrun heffect, ih.working_concat hrun heffect,
      ih.answered_concat hrun heffect⟩

/-! ## Closed connections -/

/-- The answers to a callback. -/
def answersTo (k : Connection) (ticket : Ticket) : List Answer :=
  (k.answers.filter (·.2.ticket = ticket)).map (·.2.answer)

/-- A callback has at most one answer, and then it is the one on record. -/
theorem Sound.answersTo_cases (hk : Sound k) (ticket : Ticket) :
    k.answersTo ticket = [] ∨
      ∃ a ∈ k.answers, a.2.ticket = ticket ∧ k.answersTo ticket = [a.2.answer] := by
  have hn : (k.answers.map (·.2.ticket)).Nodup := (List.nodup_append.mp hk.nodup).2.1
  by_cases h : ∃ a ∈ k.answers, a.2.ticket = ticket
  · obtain ⟨a, ha, rfl⟩ := h
    refine Or.inr ⟨a, ha, rfl, ?_⟩
    rw [answersTo, Keyed.filter_eq_singleton hn ha]
    rfl
  · left
    have hnone : k.answers.filter (·.2.ticket = ticket) = [] := by
      rw [List.filter_eq_nil_iff]
      intro a ha hticket
      exact h ⟨a, ha, by simpa using hticket⟩
    rw [answersTo, hnone]
    rfl

/-- The callbacks that are sent have different tickets. -/
theorem run_nodup_sent (h : (ofInstant now).run c events = some k) :
    ((Event.sent events).map (·.ticket)).Nodup :=
  (run_tickets h).nodup_iff.mp (run_sound h).nodup

/-- The settings of a read-only connection without time limits. -/
def readOnlySettings : Settings where
  target := ⟨"http", some ⟨"", "", .name "h", none⟩, .segments [""], none, none⟩
  isReadOnly := true
  requestTimeout := none
  drainTimeout := none
  client := ⟨.raw, none⟩

end FsGateway.Gateway.Connection
