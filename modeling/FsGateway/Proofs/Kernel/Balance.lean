import FsGateway.Proofs.Kernel.Plans
import FsGateway.Proofs.Keyed
import FsGateway.Proofs.Run

/-!
# Replies and handles that wait

Whatever happens to a volume and its session, no handle gets lost and none is used twice.

* `Balanced`: every handle that waits belongs to one callback that is still around, and for every
  file call the replies and the handles that wait make up for the callbacks that were submitted.
* `Balanced.effect`: this stays so. `balanced_run`: it is so after every run.
* `logged_run`: what was submitted for a file call.
-/

namespace FsGateway.Kernel

/-! ## Handles, events and logs -/

/-- Whatever becomes of its callback, a handle that was not used makes the reply for the answer. -/
theorem Fate.replies_eq {h : Handle} {respond : Answer → Option FileReply}
    (hr : h.respond = some respond) (fate : Fate) :
    fate.replies h = (respond fate.answer).toList := by
  cases fate with
  | answered answer => simp [Fate.replies, Fate.answer, Handle.send, Handle.drop, Handle.use, hr]
  | dropped | refused => simp [Fate.replies, Fate.answer, Handle.drop, Handle.use, hr]

/-- The callback that someone answers or lets go of, and what becomes of it. -/
def TrafficEvent.fate? : TrafficEvent → Option (Ticket × Fate)
  | .answer ticket a => some (ticket, .answered a)
  | .release ticket => some (ticket, .dropped)
  | .call .. | .receive | .close => none

section Logs

variable {α : Type} {j k : Nat}

@[simp] theorem entriesOf_append (k : Nat) (l l' : List (Nat × α)) :
    entriesOf k (l ++ l') = entriesOf k l ++ entriesOf k l' := List.filterMap_append

@[simp] theorem entriesOf_own (k : Nat) (xs : List α) : entriesOf k (xs.map (k, ·)) = xs := by
  simp [entriesOf, List.filterMap_map]

theorem entriesOf_eq_nil {l : List (Nat × α)} (h : ∀ e ∈ l, e.1 ≠ k) : entriesOf k l = [] := by
  rw [entriesOf, List.filterMap_eq_nil_iff]
  intro e he
  rw [if_neg (h e he)]

theorem entriesOf_append_other (h : j ≠ k) (l : List (Nat × α)) (xs : List α) :
    entriesOf k (l ++ xs.map (j, ·)) = entriesOf k l := by
  have hnone : entriesOf k (xs.map (j, ·)) = [] := by
    apply entriesOf_eq_nil
    intro e he
    obtain ⟨x, -, rfl⟩ := List.mem_map.mp he
    exact h
  rw [entriesOf_append, hnone, List.append_nil]

theorem entriesOf_singleton (j k : Nat) (x : α) :
    entriesOf k [(j, x)] = if j = k then [x] else [] := by
  by_cases h : j = k <;> simp [entriesOf, h]

theorem getElem?_extend {l l' : List α} {a : α} (h : l <+: l') (ha : l[k]? = some a) :
    l'[k]? = some a := by
  obtain ⟨rest, rfl⟩ := h
  rw [List.getElem?_append_left (List.getElem?_eq_some_iff.mp ha).1, ha]

theorem getElem?_concat_cases {l : List α} {a b : α} (h : (l ++ [a])[k]? = some b) :
    l.length ≠ k ∧ l[k]? = some b ∨ k = l.length ∧ b = a := by
  rcases Nat.lt_or_ge k l.length with hlt | hge
  · rw [List.getElem?_append_left hlt] at h
    exact Or.inl ⟨Nat.ne_of_gt hlt, h⟩
  · rw [List.getElem?_append_right hge, List.getElem?_singleton] at h
    split at h
    · cases h
      exact Or.inr ⟨by omega, rfl⟩
    · cases h

end Logs

namespace Traffic

variable {t t' : Traffic} {e : TrafficEvent} {ticket : Ticket} {pending : List Ticket} {fate : Fate}
  {k : Nat} {m : Made} {r : FileReply}

/-! ## Balance -/

/-- A ticket is that of a callback of a file call. -/
def IsFor (t : Traffic) (ticket : Ticket) (k : Nat) : Prop := ∃ c, t.submitted[ticket]? = some (k, c)

/-- The handles that wait belong to the callbacks that are in the queue or that someone has, and to
some that are about to be settled. For each file call that asks somebody, the replies and the handles
that wait are as many as the callbacks that were submitted. The others are answered at once. -/
structure Balanced (pending : List Ticket) (t : Traffic) : Prop where
  tickets : (t.waiting.map Prod.fst).Perm
    ((t.session.queue ++ t.held).map (·.ticket) ++ pending)
  nodup : (t.waiting.map Prod.fst).Nodup
  waits : ∀ w ∈ t.waiting, t.IsFor w.1 w.2.call ∧
    ∃ m, t.calls[w.2.call]? = some m ∧ w.2.respond = some m.plan.later
  asked : ∀ k m, t.calls[k]? = some m → m.plan.asks = true →
    (t.repliesTo k).length + (t.waitingFor k).length = (t.submittedFor k).length
  others : ∀ k m, t.calls[k]? = some m → m.plan.asks = false →
    t.repliesTo k = m.plan.atOnce.toList
  submitted_lt : ∀ e ∈ t.submitted, e.1 < t.calls.length
  replies_lt : ∀ e ∈ t.replies, e.1 < t.calls.length

theorem balanced_start : Balanced [] start where
  tickets := List.Perm.nil
  nodup := List.nodup_nil
  waits := by rintro w ⟨⟩
  asked := by rintro k m ⟨⟩
  others := by rintro k m ⟨⟩
  submitted_lt := by rintro e ⟨⟩
  replies_lt := by rintro e ⟨⟩

/-! ## A callback is settled -/

/-- Nothing has changed but which handles wait, and the replies. -/
structure Keeps (t t' : Traffic) : Prop where
  session : t'.session = t.session
  held : t'.held = t.held
  calls : t'.calls = t.calls
  submitted : t'.submitted = t.submitted
  volume : t'.volume = t.volume
  replies : t.replies <+: t'.replies

theorem settle_keeps (t : Traffic) (ticket : Ticket) (fate : Fate) :
    Keeps t (t.settle ticket fate) := by
  unfold settle
  split
  · exact ⟨rfl, rfl, rfl, rfl, rfl, List.prefix_append _ _⟩
  · exact ⟨rfl, rfl, rfl, rfl, rfl, List.prefix_rfl⟩

theorem settleAll_keeps (answers : List Answered) (t : Traffic) (fate : Fate) :
    Keeps t (t.settleAll answers fate) := by
  induction answers generalizing t with
  | nil => exact ⟨rfl, rfl, rfl, rfl, rfl, List.prefix_rfl⟩
  | cons a answers ih =>
    have hfirst := t.settle_keeps a.ticket fate
    have hrest := ih (t.settle a.ticket fate)
    exact ⟨hrest.session.trans hfirst.session, hrest.held.trans hfirst.held,
      hrest.calls.trans hfirst.calls, hrest.submitted.trans hfirst.submitted,
      hrest.volume.trans hfirst.volume, hfirst.replies.trans hrest.replies⟩

/-- A callback that is around has its handle, which makes the reply. -/
theorem Balanced.settle_eq (hb : Balanced (ticket :: pending) t) (fate : Fate) :
    ∃ h m, (ticket, h) ∈ t.waiting ∧ t.IsFor ticket h.call ∧ t.calls[h.call]? = some m ∧
      t.settle ticket fate = { t with
        waiting := t.waiting.filter (·.1 ≠ ticket)
        replies := t.replies ++ (m.plan.later fate.answer).toList.map (h.call, ·) } := by
  have hticket : ticket ∈ t.waiting.map Prod.fst :=
    hb.tickets.mem_iff.mpr (List.mem_append_right _ List.mem_cons_self)
  obtain ⟨⟨ticket, h⟩, hmem, rfl⟩ := List.mem_map.mp hticket
  obtain ⟨hfor, m, hm, hrespond⟩ := hb.waits _ hmem
  have hfind : t.waiting.find? (·.1 = ticket) = some (ticket, h) := by
    rw [← List.head?_filter, Keyed.filter_eq_singleton hb.nodup hmem]
    rfl
  refine ⟨h, m, hmem, hfor, hm, ?_⟩
  rw [settle, hfind, ← Fate.replies_eq hrespond]

theorem Balanced.settle (hb : Balanced (ticket :: pending) t) (fate : Fate) :
    Balanced pending (t.settle ticket fate) := by
  obtain ⟨h, m, hmem, -, hm, heq⟩ := hb.settle_eq fate
  rw [heq]
  have hperm := Keyed.perm_cons_filter hb.nodup hmem
  have hsub : (t.waiting.filter (·.1 ≠ ticket)).Sublist t.waiting := List.filter_sublist
  refine ⟨?tickets, ?nodup, ?waits, ?asked, ?others, hb.submitted_lt, ?replies⟩
  case tickets =>
    have hold := (hperm.map Prod.fst).symm.trans hb.tickets
    exact List.Perm.cons_inv (hold.trans List.perm_middle)
  case nodup => exact hb.nodup.sublist (hsub.map _)
  case waits => exact fun w hw => hb.waits w (hsub.subset hw)
  case asked =>
    intro k mk hmk hasks
    have hold := hb.asked k mk hmk hasks
    have hwaiting : (t.waiting.filter (·.2.call = k)).length =
        (((ticket, h) :: t.waiting.filter (·.1 ≠ ticket)).filter (·.2.call = k)).length :=
      (hperm.filter _).length_eq
    simp only [repliesTo, waitingFor, submittedFor] at hold ⊢
    by_cases hk : h.call = k
    · -- one handle less waits, and there is one reply more
      subst hk
      cases hm.symm.trans hmk
      obtain ⟨r, hr⟩ := Plan.exists_later hasks fate.answer
      rw [List.filter_cons_of_pos (by simp), List.length_cons] at hwaiting
      rw [entriesOf_append, entriesOf_own, hr, Option.toList_some, List.length_append,
        List.length_singleton]
      omega
    · rw [List.filter_cons_of_neg (by simpa using hk)] at hwaiting
      rw [entriesOf_append_other hk]
      omega
  case others =>
    intro k mk hmk hasks
    have hold := hb.others k mk hmk hasks
    simp only [repliesTo] at hold ⊢
    by_cases hk : h.call = k
    · subst hk
      cases hm.symm.trans hmk
      rw [Plan.later_of_not_asks hasks, Option.toList_none, List.map_nil, List.append_nil]
      exact hold
    · rw [entriesOf_append_other hk]
      exact hold
  case replies =>
    intro e he
    rcases List.mem_append.mp he with he | he
    · exact hb.replies_lt e he
    · obtain ⟨r, -, rfl⟩ := List.mem_map.mp he
      exact (List.getElem?_eq_some_iff.mp hm).1

theorem Balanced.settleAll {answers : List Answered}
    (hb : Balanced (answers.map (·.ticket)) t) (fate : Fate) :
    Balanced [] (t.settleAll answers fate) := by
  induction answers generalizing t with
  | nil => exact hb
  | cons a answers ih => exact ih (hb.settle fate)

/-! ## File calls -/

theorem Balanced.ticket_lt (hb : Balanced pending t) {w : Ticket × Handle} (hw : w ∈ t.waiting) :
    w.1 < t.submitted.length := by
  obtain ⟨⟨c, hc⟩, -⟩ := hb.waits w hw
  exact (List.getElem?_eq_some_iff.mp hc).1

/-- A callback is submitted. If nobody receives it any more, it is about to be refused. -/
theorem Balanced.sent (hb : Balanced [] t) (hm : t.calls[k]? = some m) (c : Callback) :
    Balanced ((t.session.send ⟨t.submitted.length, c⟩).2.map (·.ticket)) { t with
      session := (t.session.send ⟨t.submitted.length, c⟩).1
      waiting := t.waiting ++ [(t.submitted.length, ⟨k, some m.plan.later⟩)]
      submitted := t.submitted ++ [(k, c)] } := by
  have hlt : k < t.calls.length := (List.getElem?_eq_some_iff.mp hm).1
  refine ⟨?tickets, ?nodup, ?waits, ?asked, hb.others, ?submitted, hb.replies_lt⟩
  case tickets =>
    have hold := hb.tickets
    simp only [List.append_nil, List.map_append] at hold
    have hnew := hold.append_right [t.submitted.length]
    cases hopen : t.session.isOpen with
    | true =>
      simp only [Session.send, hopen, if_true, List.map_append, List.map_cons, List.map_nil,
        List.append_nil]
      refine hnew.trans ?_
      rw [List.append_assoc, List.append_assoc]
      exact List.perm_append_comm.append_left _
    | false =>
      simpa [Session.send, hopen, Queued.dropped] using hnew
  case nodup =>
    have hfresh : t.submitted.length ∉ t.waiting.map Prod.fst := by
      intro hmem
      obtain ⟨w, hw, hticket⟩ := List.mem_map.mp hmem
      exact absurd (hb.ticket_lt hw) (Nat.not_lt.mpr (Nat.le_of_eq hticket.symm))
    rw [List.map_append]
    exact (List.nodup_append_comm.mp (List.nodup_cons.mpr ⟨hfresh, hb.nodup⟩))
  case waits =>
    intro w hw
    rcases List.mem_append.mp hw with hw | hw
    · obtain ⟨⟨c', hc'⟩, hrest⟩ := hb.waits w hw
      exact ⟨⟨c', getElem?_extend (List.prefix_append _ _) hc'⟩, hrest⟩
    · cases List.mem_singleton.mp hw
      exact ⟨⟨c, List.getElem?_concat_length⟩, m, hm, rfl⟩
  case asked =>
    intro k' m' hm' hasks
    have hold := hb.asked k' m' hm' hasks
    simp only [repliesTo, waitingFor, submittedFor, entriesOf_append, entriesOf_singleton,
      List.filter_append, List.length_append] at hold ⊢
    by_cases hk : k = k'
    · simp only [hk, decide_true, List.filter_cons_of_pos, List.filter_nil, if_true,
        List.length_singleton]
      omega
    · simp only [hk, decide_false, List.filter_cons_of_neg, List.filter_nil, if_false,
        List.length_nil, Bool.false_eq_true, not_false_eq_true]
      omega
  case submitted =>
    intro e he
    rcases List.mem_append.mp he with he | he
    · exact hb.submitted_lt e he
    · cases List.mem_singleton.mp he
      exact hlt

theorem Balanced.submit (hb : Balanced [] t) (hm : t.calls[k]? = some m) (c : Callback) :
    Balanced [] (t.submit k m.plan c) := (hb.sent hm c).settleAll .refused

/-- A file call is made, but nothing is submitted for it yet. -/
theorem Balanced.begun (hb : Balanced [] t) (m : Made) : Balanced [] { t with
    volume := t.volume.after m.call
    calls := t.calls ++ [m]
    replies := t.replies ++ m.plan.atOnce.toList.map (t.calls.length, ·) } := by
  have hprefix : t.calls <+: t.calls ++ [m] := List.prefix_append _ _
  have hreplies : entriesOf t.calls.length t.replies = [] :=
    entriesOf_eq_nil fun e he => Nat.ne_of_lt (hb.replies_lt e he)
  have hsubmitted : entriesOf t.calls.length t.submitted = [] :=
    entriesOf_eq_nil fun e he => Nat.ne_of_lt (hb.submitted_lt e he)
  have hwaiting : t.waiting.filter (·.2.call = t.calls.length) = [] := by
    rw [List.filter_eq_nil_iff]
    intro w hw
    obtain ⟨-, m', hm', -⟩ := hb.waits w hw
    simpa using Nat.ne_of_lt (List.getElem?_eq_some_iff.mp hm').1
  refine ⟨hb.tickets, hb.nodup, ?waits, ?asked, ?others, ?submitted, ?replies⟩
  case waits =>
    intro w hw
    obtain ⟨hfor, m', hm', hrespond⟩ := hb.waits w hw
    exact ⟨hfor, m', getElem?_extend hprefix hm', hrespond⟩
  case asked =>
    intro k mk hmk hasks
    simp only [repliesTo, waitingFor, submittedFor]
    rcases getElem?_concat_cases hmk with ⟨hk, hold⟩ | ⟨rfl, rfl⟩
    · rw [entriesOf_append_other hk]
      exact hb.asked k mk hold hasks
    · rw [entriesOf_append, hreplies, hwaiting, hsubmitted, Plan.atOnce_of_asks hasks]
      rfl
  case others =>
    intro k mk hmk hasks
    simp only [repliesTo]
    rcases getElem?_concat_cases hmk with ⟨hk, hold⟩ | ⟨rfl, rfl⟩
    · rw [entriesOf_append_other hk]
      exact hb.others k mk hold hasks
    · rw [entriesOf_append, hreplies, entriesOf_own, List.nil_append]
  case submitted => exact fun e he => Nat.lt_of_lt_of_le (hb.submitted_lt e he) hprefix.length_le
  case replies =>
    intro e he
    rcases List.mem_append.mp he with he | he
    · exact Nat.lt_of_lt_of_le (hb.replies_lt e he) hprefix.length_le
    · obtain ⟨r, -, rfl⟩ := List.mem_map.mp he
      simp

theorem submit_calls (t : Traffic) (k : Nat) (p : Plan) (c : Callback) :
    (t.submit k p c).calls = t.calls := (settleAll_keeps _ _ _).calls

theorem submit_submitted (t : Traffic) (k : Nat) (p : Plan) (c : Callback) :
    (t.submit k p c).submitted = t.submitted ++ [(k, c)] := (settleAll_keeps _ _ _).submitted

theorem submit_replies (t : Traffic) (k : Nat) (p : Plan) (c : Callback) :
    t.replies <+: (t.submit k p c).replies := by
  have h : Keeps _ (t.submit k p c) := settleAll_keeps _ _ _
  exact h.replies

/-- What is submitted for a file call comes after what was there. -/
theorem foldl_submit (cs : List Callback) (t : Traffic) (k : Nat) (p : Plan) :
    (cs.foldl (fun t c => t.submit k p c) t).calls = t.calls ∧
      (cs.foldl (fun t c => t.submit k p c) t).submitted = t.submitted ++ cs.map (k, ·) ∧
      t.replies <+: (cs.foldl (fun t c => t.submit k p c) t).replies := by
  induction cs generalizing t with
  | nil => exact ⟨rfl, (List.append_nil _).symm, List.prefix_rfl⟩
  | cons c cs ih =>
    obtain ⟨hcalls, hsubmitted, hreplies⟩ := ih (t.submit k p c)
    refine ⟨hcalls.trans (t.submit_calls k p c), ?_, (t.submit_replies k p c).trans hreplies⟩
    rw [List.foldl_cons, hsubmitted, submit_submitted, List.append_assoc]
    rfl

theorem Balanced.submits (hb : Balanced [] t) (hm : t.calls[k]? = some m) (cs : List Callback) :
    Balanced [] (cs.foldl (fun t c => t.submit k m.plan c) t) := by
  induction cs generalizing t with
  | nil => exact hb
  | cons c cs ih => exact ih (hb.submit hm c) (by rwa [submit_calls])

theorem Balanced.call (hb : Balanced [] t) (m : Made) : Balanced [] (t.call m) :=
  (hb.begun m).submits List.getElem?_concat_length _

theorem call_calls (t : Traffic) (m : Made) : (t.call m).calls = t.calls ++ [m] :=
  (foldl_submit _ _ _ _).1

theorem call_submitted (t : Traffic) (m : Made) : (t.call m).submitted =
    t.submitted ++ (m.plan.callbacks m.header).map (t.calls.length, ·) :=
  (foldl_submit _ _ _ _).2.1

theorem call_replies (t : Traffic) (m : Made) : t.replies <+: (t.call m).replies := by
  have h : _ <+: (t.call m).replies := (foldl_submit _ _ _ _).2.2
  exact (List.prefix_append _ _).trans h

/-! ## Events -/

/-- A callback that someone has is taken away from them. -/
def without (t : Traffic) (ticket : Ticket) : Traffic :=
  { t with held := t.held.filter (·.ticket ≠ ticket) }

/-- What an event does. -/
inductive Effect (t : Traffic) : TrafficEvent → Traffic → Prop
  | called (clock : Clock) (header : Header) (c : FileCall) :
      Effect t (.call clock header c) (t.call ⟨t.volume, clock, header, c⟩)
  | received {item : Queued} {queue : List Queued} (h : t.session.queue = item :: queue) :
      Effect t .receive
        { t with session := { t.session with queue := queue }, held := t.held ++ [item] }
  | settled {e : TrafficEvent} {ticket : Ticket} {fate : Fate} (he : e.fate? = some (ticket, fate))
      (h : ticket ∈ t.held.map (·.ticket)) : Effect t e ((t.without ticket).settle ticket fate)
  | closed : Effect t .close t.close

theorem settleHeld_eq_some (h : t.settleHeld ticket fate = some t') :
    ticket ∈ t.held.map (·.ticket) ∧ t' = (t.without ticket).settle ticket fate := by
  unfold settleHeld at h
  split at h
  · rename_i hany
    cases h
    exact ⟨by simpa using hany, rfl⟩
  · cases h

theorem step_effect (h : t.step e = some t') : Effect t e t' := by
  cases e with
  | call clock header c =>
    cases h
    exact .called clock header c
  | receive =>
    cases hqueue : t.session.queue with
    | nil => cases hsender : t.session.hasSender <;> simp [step, Session.receive, *] at h
    | cons item queue =>
      simp only [step, Session.receive, hqueue] at h
      cases h
      exact .received hqueue
  | answer ticket answer =>
    obtain ⟨hheld, rfl⟩ := settleHeld_eq_some h
    exact .settled rfl hheld
  | release ticket =>
    obtain ⟨hheld, rfl⟩ := settleHeld_eq_some h
    exact .settled rfl hheld
  | close =>
    cases h
    exact .closed

/-- Callbacks go from one place to another. -/
theorem Balanced.moved {pending' : List Ticket} {session : Session} {held : List Queued}
    (hb : Balanced pending t) (volume : Volume)
    (h : ((t.session.queue ++ t.held).map (·.ticket) ++ pending).Perm
      ((session.queue ++ held).map (·.ticket) ++ pending')) :
    Balanced pending' { t with volume := volume, session := session, held := held } :=
  ⟨hb.tickets.trans h, hb.nodup, hb.waits, hb.asked, hb.others, hb.submitted_lt, hb.replies_lt⟩

theorem Balanced.without (hb : Balanced [] t) (hheld : ticket ∈ t.held.map (·.ticket)) :
    Balanced [ticket] (t.without ticket) := by
  obtain ⟨item, hitem, rfl⟩ := List.mem_map.mp hheld
  have hnodup : (t.held.map (·.ticket)).Nodup := by
    have hall := hb.tickets.nodup_iff.mp hb.nodup
    rw [List.append_nil, List.map_append] at hall
    exact hall.sublist (List.sublist_append_right _ _)
  have hperm := (Keyed.perm_cons_filter hnodup hitem).map (·.ticket)
  refine hb.moved t.volume ?_
  rw [List.append_nil, List.map_append, List.map_append, List.append_assoc]
  exact (hperm.trans (List.perm_append_singleton _ _).symm).append_left _

/-- Nobody receives callbacks any more. Those of the queue are about to be dropped. -/
theorem Balanced.closed (hb : Balanced [] t) :
    Balanced (t.session.close.2.map (·.ticket)) { t with
      volume := { t.volume with bridge.isOpen := false }
      session := t.session.close.1 } := by
  have hdropped : t.session.close.2.map (·.ticket) = t.session.queue.map (·.ticket) :=
    List.map_map
  refine hb.moved _ ?_
  rw [hdropped, List.append_nil, List.map_append]
  exact List.perm_append_comm

theorem Balanced.effect (hb : Balanced [] t) (h : Effect t e t') : Balanced [] t' := by
  cases h with
  | called clock header c => exact hb.call _
  | @received item queue hqueue =>
    refine hb.moved t.volume ?_
    have hperm : (item :: queue ++ t.held).Perm (queue ++ (t.held ++ [item])) := by
      rw [List.cons_append, ← List.append_assoc]
      exact (List.perm_append_singleton _ _).symm
    rw [hqueue, List.append_nil, List.append_nil]
    exact hperm.map _
  | settled he hheld => exact (hb.without hheld).settle _
  | closed => exact hb.closed.settleAll .dropped

/-- A file call is made, or else the logs of file calls and callbacks stay as they are. -/
theorem Effect.call_or_keeps (h : Effect t e t') :
    (∃ m, t' = t.call m) ∨
      t'.calls = t.calls ∧ t'.submitted = t.submitted ∧ t.replies <+: t'.replies := by
  cases h with
  | called clock header c => exact Or.inl ⟨_, rfl⟩
  | received => exact Or.inr ⟨rfl, rfl, List.prefix_rfl⟩
  | @settled _ ticket fate he h =>
    have hkeeps := (t.without ticket).settle_keeps ticket fate
    exact Or.inr ⟨hkeeps.calls, hkeeps.submitted, hkeeps.replies⟩
  | closed =>
    have hkeeps : Keeps _ t.close := settleAll_keeps _ _ .dropped
    exact Or.inr ⟨hkeeps.calls, hkeeps.submitted, hkeeps.replies⟩

/-- File calls and replies are only added. -/
structure Extends (t t' : Traffic) : Prop where
  calls : t.calls <+: t'.calls
  replies : t.replies <+: t'.replies

theorem Effect.extends (h : Effect t e t') : Extends t t' := by
  rcases h.call_or_keeps with ⟨m, rfl⟩ | ⟨hcalls, -, hreplies⟩
  · exact ⟨t.call_calls m ▸ List.prefix_append _ _, t.call_replies m⟩
  · exact ⟨hcalls ▸ List.prefix_rfl, hreplies⟩

/-- For every file call, the callbacks of its plan were submitted, and nothing else. -/
def Logged (t : Traffic) : Prop :=
  ∀ k m, t.calls[k]? = some m → t.submittedFor k = m.plan.callbacks m.header

theorem Logged.effect (hl : Logged t) (hb : Balanced [] t) (h : Effect t e t') : Logged t' := by
  intro k m hm
  rcases h.call_or_keeps with ⟨made, rfl⟩ | ⟨hcalls, hsubmitted, -⟩
  · rw [call_calls] at hm
    rw [submittedFor, call_submitted]
    rcases getElem?_concat_cases hm with ⟨hk, hold⟩ | ⟨rfl, rfl⟩
    · rw [entriesOf_append_other hk]
      exact hl k m hold
    · rw [entriesOf_append, entriesOf_own,
        entriesOf_eq_nil fun e he => Nat.ne_of_lt (hb.submitted_lt e he), List.nil_append]
  · rw [hcalls] at hm
    rw [submittedFor, hsubmitted]
    exact hl k m hm

/-! ## Runs -/

theorem extends_run {events : List TrafficEvent} (h : t.run events = some t') : Extends t t' := by
  refine Run.foldlM_keeps (P := Extends t) ?_ ⟨List.prefix_rfl, List.prefix_rfl⟩ h
  intro u e v hu hstep
  have huv := (step_effect hstep).extends
  exact ⟨hu.calls.trans huv.calls, hu.replies.trans huv.replies⟩

theorem balanced_run {events : List TrafficEvent} (h : start.run events = some t) :
    Balanced [] t :=
  Run.foldlM_keeps (P := Balanced []) (fun _ _ _ hb hstep => hb.effect (step_effect hstep))
    balanced_start h

theorem logged_run {events : List TrafficEvent} (h : start.run events = some t) : Logged t := by
  have hboth : Balanced [] t ∧ Logged t := by
    refine Run.foldlM_keeps (P := fun t => Balanced [] t ∧ Logged t) ?_ ⟨balanced_start, ?_⟩ h
    · rintro u e v ⟨hb, hl⟩ hstep
      have heffect := step_effect hstep
      exact ⟨hb.effect heffect, hl.effect hb heffect⟩
    · rintro k m ⟨⟩
  exact hboth.2

end Traffic

end FsGateway.Kernel
