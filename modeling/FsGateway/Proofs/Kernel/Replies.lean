import FsGateway.Gateway.Connection
import FsGateway.Proofs.Kernel.Balance

/-!
# Replies to file calls

A file call that expects a reply gets one, and no second one. Until then its handle is with the
callback that was submitted for it, which is in the queue of the session or with someone who has
received it.

* `Settles`: an event decides what becomes of the callback of a file call.
* `Met.repliesTo_eq`: the file call is answered with what has become of its callback.
* `replies_once`: how often and with what a file call is answered.
-/

namespace FsGateway.Kernel

namespace Traffic

variable {t t' : Traffic} {e : TrafficEvent} {ticket : Ticket} {pending : List Ticket} {fate : Fate}
  {k : Nat} {m : Made} {r : FileReply}

/-! ## What becomes of a file call -/

/-- An event decides what becomes of the callback of a file call. -/
inductive Settles (t : Traffic) (k : Nat) : TrafficEvent → Fate → Prop
  /-- Whoever has the callback answers it. -/
  | answered {ticket : Ticket} {answer : Answer} (h : t.IsFor ticket k) :
      Settles t k (.answer ticket answer) (.answered answer)
  /-- Whoever has the callback lets go of it. -/
  | released {ticket : Ticket} (h : t.IsFor ticket k) : Settles t k (.release ticket) .dropped
  /-- The session is closed while the callback is in its queue. -/
  | closed {item : Queued} (hqueue : item ∈ t.session.queue) (h : t.IsFor item.ticket k) :
      Settles t k .close .dropped
  /-- The session is closed already when the file call is made. -/
  | refused {clock : Clock} {header : Header} {c : FileCall} (h : t.calls.length = k)
      (hclosed : t.session.isOpen = false) : Settles t k (.call clock header c) .refused

/-- In a run it was decided what becomes of the callback of a file call. -/
def Met (events : List TrafficEvent) (k : Nat) (fate : Fate) : Prop :=
  Run.Happens step start events fun t e => t.Settles k e fate

theorem IsFor.unique {j : Nat} (hj : t.IsFor ticket j) (hk : t.IsFor ticket k) : j = k := by
  obtain ⟨c, hc⟩ := hj
  obtain ⟨c', hc'⟩ := hk
  cases hc.symm.trans hc'
  rfl

theorem mem_repliesTo_extend (h : t.replies <+: t'.replies) (hr : r ∈ t.repliesTo k) :
    r ∈ t'.repliesTo k := (h.filterMap _).subset hr

/-- With its callback, a file call is settled. -/
theorem Balanced.mem_settle (hb : Balanced (ticket :: pending) t) (hfor : t.IsFor ticket k)
    (hm : t.calls[k]? = some m) (hr : m.plan.later fate.answer = some r) :
    r ∈ (t.settle ticket fate).repliesTo k := by
  obtain ⟨h, m', -, hfor', hm', heq⟩ := hb.settle_eq fate
  obtain rfl := hfor'.unique hfor
  cases hm'.symm.trans hm
  rw [heq, repliesTo, entriesOf_append, entriesOf_own, hr]
  exact List.mem_append_right _ List.mem_cons_self

theorem Balanced.mem_settleAll {answers : List Answered} {a : Answered}
    (hb : Balanced (answers.map (·.ticket)) t) (ha : a ∈ answers)
    (hfor : t.IsFor a.ticket k) (hm : t.calls[k]? = some m)
    (hr : m.plan.later fate.answer = some r) : r ∈ (t.settleAll answers fate).repliesTo k := by
  induction answers generalizing t with
  | nil => cases ha
  | cons first answers ih =>
    have hkeeps := t.settle_keeps first.ticket fate
    rcases List.mem_cons.mp ha with rfl | ha
    · exact mem_repliesTo_extend (settleAll_keeps answers _ fate).replies
        (hb.mem_settle hfor hm hr)
    · refine ih (hb.settle fate) ha ?_ (by rw [hkeeps.calls]; exact hm)
      rw [IsFor, hkeeps.submitted]
      exact hfor

/-- A callback that nobody receives is refused. -/
theorem Balanced.mem_submit (hb : Balanced [] t) (hm : t.calls[k]? = some m)
    (hclosed : t.session.isOpen = false) (c : Callback)
    (hr : m.plan.later .dropped = some r) : r ∈ (t.submit k m.plan c).repliesTo k := by
  have hrefused : ⟨t.submitted.length, .dropped⟩ ∈ (t.session.send ⟨t.submitted.length, c⟩).2 := by
    simp [Session.send, hclosed, Queued.dropped]
  exact (hb.sent hm c).mem_settleAll hrefused ⟨c, List.getElem?_concat_length⟩ hm hr

theorem Balanced.exists_made (hb : Balanced pending t) (hfor : t.IsFor ticket k) :
    ∃ m, t.calls[k]? = some m := by
  obtain ⟨c, hc⟩ := hfor
  have hlt : k < t.calls.length := hb.submitted_lt _ (List.mem_of_getElem? hc)
  exact ⟨t.calls[k], List.getElem?_eq_getElem hlt⟩

/-- Once it is decided what becomes of its callback, a file call has its reply. -/
theorem Settles.exists_reply (h : Settles t k e fate) (hb : Balanced [] t)
    (heffect : Effect t e t') :
    ∃ m, t'.calls[k]? = some m ∧ (m.plan.asks = true →
      ∃ r, m.plan.later fate.answer = some r ∧ r ∈ t'.repliesTo k) := by
  have hheld : ∀ {ticket : Ticket}, t.IsFor ticket k → ticket ∈ t.held.map (·.ticket) →
      ∃ m, ((t.without ticket).settle ticket fate).calls[k]? = some m ∧ (m.plan.asks = true →
        ∃ r, m.plan.later fate.answer = some r ∧
          r ∈ ((t.without ticket).settle ticket fate).repliesTo k) := by
    intro ticket hfor hmem
    obtain ⟨m, hm⟩ := hb.exists_made hfor
    refine ⟨m, by rw [(settle_keeps _ _ _).calls]; exact hm, fun hasks => ?_⟩
    obtain ⟨r, hr⟩ := Plan.exists_later hasks fate.answer
    exact ⟨r, hr, (hb.without hmem).mem_settle hfor hm hr⟩
  cases h with
  | answered hfor | released hfor =>
    cases heffect with
    | settled he hmem =>
      cases he
      exact hheld hfor hmem
  | closed hqueue hfor =>
    cases heffect with
    | settled he => cases he
    | closed =>
      obtain ⟨m, hm⟩ := hb.exists_made hfor
      have hkeeps : Keeps _ t.close := settleAll_keeps _ _ .dropped
      refine ⟨m, by rw [hkeeps.calls]; exact hm, fun hasks => ?_⟩
      obtain ⟨r, hr⟩ := Plan.exists_later hasks Answer.dropped
      exact ⟨r, hr, hb.closed.mem_settleAll (List.mem_map_of_mem hqueue) hfor hm hr⟩
  | @refused clock header c hlength hclosed =>
    subst hlength
    cases heffect with
    | settled he => cases he
    | called =>
      refine ⟨_, by rw [call_calls]; exact List.getElem?_concat_length, fun hasks => ?_⟩
      obtain ⟨r, hr⟩ := Plan.exists_later hasks Answer.dropped
      refine ⟨r, hr, ?_⟩
      obtain ⟨d, hd⟩ := Plan.exists_callback hasks header
      have hbegun := (hb.begun ⟨t.volume, clock, header, c⟩).mem_submit
        List.getElem?_concat_length hclosed ⟨header, d⟩ hr
      rw [Traffic.call, hd]
      exact hbegun

/-! ## One reply -/

variable {before after events : List TrafficEvent} {s : Traffic} {clock : Clock}
  {header : Header} {c : FileCall}

/-- A file call is made at some moment of a run. -/
theorem made_of_run (hs : start.run before = some s)
    (ht : start.run (before ++ .call clock header c :: after) = some t) :
    t.calls[s.calls.length]? = some ⟨s.volume, clock, header, c⟩ := by
  have hrest : (s.call ⟨s.volume, clock, header, c⟩).run after = some t :=
    Run.foldlM_rest hs rfl ht
  refine getElem?_extend (extends_run hrest).calls ?_
  rw [call_calls]
  exact List.getElem?_concat_length

theorem length_replies (ht : start.run events = some t) (hm : t.calls[k]? = some m)
    (hasks : m.plan.asks = true) : (t.repliesTo k).length + (t.waitingFor k).length = 1 := by
  obtain ⟨d, hd⟩ := Plan.exists_callback hasks m.header
  rw [(balanced_run ht).asked k m hm hasks, logged_run ht k m hm, hd]
  rfl

theorem Balanced.waitingFor_eq_nil (hb : Balanced pending t) (h : t.submittedFor k = []) :
    t.waitingFor k = [] := by
  rw [waitingFor, List.filter_eq_nil_iff]
  intro w hw hk
  obtain ⟨⟨c, hc⟩, -⟩ := hb.waits w hw
  rw [of_decide_eq_true hk] at hc
  have hmem : c ∈ t.submittedFor k :=
    List.mem_filterMap.mpr ⟨_, List.mem_of_getElem? hc, if_pos rfl⟩
  rw [h] at hmem
  cases hmem

/-- The handles that wait are those of callbacks that are around. -/
theorem Balanced.mem_around (hb : Balanced [] t) {w : Ticket × Handle} (hw : w ∈ t.waitingFor k) :
    w.1 ∈ (t.session.queue ++ t.held).map (·.ticket) := by
  have hticket : w.1 ∈ t.waiting.map Prod.fst :=
    List.mem_map_of_mem (List.mem_filter.mp hw).1
  simpa using hb.tickets.mem_iff.mp hticket

/-- A file call is answered with what became of its callback. -/
theorem Met.repliesTo_eq (h : Met events k fate) (ht : start.run events = some t)
    (hm : t.calls[k]? = some m) (hasks : m.plan.asks = true) :
    t.repliesTo k = (m.plan.later fate.answer).toList := by
  have hlength := length_replies ht hm hasks
  obtain ⟨before, e, after, u, rfl, hu, hsettles⟩ := h
  obtain ⟨u', hu', hrest⟩ := Run.foldlM_append_eq_some ht
  cases hu.symm.trans hu'
  obtain ⟨v, hv, hrest⟩ := Run.foldlM_cons_eq_some hrest
  have hlater := extends_run hrest
  obtain ⟨m', hm', hreply⟩ := hsettles.exists_reply (balanced_run hu) (step_effect hv)
  cases (getElem?_extend hlater.calls hm').symm.trans hm
  obtain ⟨r, hr, hmem⟩ := hreply hasks
  obtain ⟨r', hr'⟩ : ∃ r', t.repliesTo k = [r'] := by
    have hpos := List.length_pos_of_mem (mem_repliesTo_extend hlater.replies hmem)
    exact List.length_eq_one_iff.mp (by omega)
  have hmem' := mem_repliesTo_extend hlater.replies hmem
  rw [hr', List.mem_singleton] at hmem'
  rw [hr, hr', hmem']
  rfl

theorem refused_once (ht : start.run events = some t) (hm : t.calls[k]? = some m) {errno : Errno}
    (hplan : m.plan = .refuse errno) :
    t.submittedFor k = [] ∧ t.repliesTo k = [.error errno] ∧ t.waitingFor k = [] := by
  have hsubmitted : t.submittedFor k = [] := by
    rw [logged_run ht k m hm, hplan]
    rfl
  refine ⟨hsubmitted, ?_, (balanced_run ht).waitingFor_eq_nil hsubmitted⟩
  rw [(balanced_run ht).others k m hm (by rw [hplan]; rfl), hplan]
  rfl

end Traffic

/-- A file call that expects a reply, made at any moment of any run, has one reply, or else one handle
that waits for the answer to a callback that is in the queue or that someone has. A volume that was
given up refuses it. A name that is no text makes it fail with nothing submitted. Otherwise one
callback was submitted for its caller. An error number that this is answered with is the reply, and
so is that of an input or output error if the callback was dropped or refused. A response makes the
reply that it stands for. Calls that no operation stands for fail in any case, with an error number
that says so if their callback is dispatched by a connection. -/
theorem replies_once {before after events : List TrafficEvent} {clock : Clock}
    {header : Header} {c : FileCall} {s t : Traffic} {k : Nat}
    (hs : Traffic.start.run before = some s) (hk : s.calls.length = k)
    (hevents : events = before ++ .call clock header c :: after)
    (ht : Traffic.start.run events = some t) (hc : c.expectsReply = true) :
    (t.repliesTo k).length + (t.waitingFor k).length = 1 ∧
      (∀ w ∈ t.waitingFor k, w.1 ∈ (t.session.queue ++ t.held).map (·.ticket)) ∧
      (s.volume.isDestroyed = true →
        t.submittedFor k = [] ∧ t.repliesTo k = [.error Errno.eio]) ∧
      (s.volume.isDestroyed = false → ¬ c.HasTextNames →
        t.submittedFor k = [] ∧ t.repliesTo k = [.error Errno.einval]) ∧
      (s.volume.isDestroyed = false → c.HasTextNames → ∃ d, t.submittedFor k = [⟨header, d⟩] ∧
        (∀ errno, Traffic.Met events k (.answered (.error errno)) →
          t.repliesTo k = [.error errno]) ∧
        (Traffic.Met events k .dropped ∨ Traffic.Met events k .refused →
          t.repliesTo k = [.error Errno.eio]) ∧
        (∀ op payload respond, c.plan clock = .ask op payload respond →
          d = .operation op payload ∧ ∀ response,
            Traffic.Met events k (.answered (.ofResult (.ok response))) →
              t.repliesTo k = [respond response]) ∧
        (∀ inode, c = .ioctl inode → d = .unsupported "ioctl") ∧
        (∀ inode, c = .fallocate inode → d = .unsupported "fallocate") ∧
        ∀ opcode, d = .unsupported opcode →
          (∀ values, Traffic.Met events k (.answered (.ok values)) →
            t.repliesTo k = [.error Errno.enosys]) ∧
          ∀ (n : Gateway.Connection) settings ticket,
            n.dispatch settings ⟨ticket, header, d⟩ =
              n.record [⟨ticket, .error Errno.enosys⟩]) := by
  subst hk hevents
  have hm := Traffic.made_of_run hs ht
  have hb := Traffic.balanced_run ht
  refine ⟨?once, fun w hw => hb.mem_around hw, ?destroyed, ?noText, ?text⟩
  case once =>
    rcases Made.asks_or_refuses (m := ⟨s.volume, clock, header, c⟩) hc with hasks | ⟨errno, hplan⟩
    · exact Traffic.length_replies ht hm hasks
    · obtain ⟨-, hreplies, hwaiting⟩ := Traffic.refused_once ht hm hplan
      rw [hreplies, hwaiting]
      rfl
  case destroyed =>
    intro hdestroyed
    obtain ⟨hsubmitted, hreplies, -⟩ :=
      Traffic.refused_once ht hm (Made.plan_of_destroyed hdestroyed hc)
    exact ⟨hsubmitted, hreplies⟩
  case noText =>
    intro hthere hnames
    rcases c.plan_follows hc clock with ⟨-, htexts⟩ | ⟨hrefuse, -⟩
    · exact absurd htexts hnames
    · obtain ⟨hsubmitted, hreplies, -⟩ :=
        Traffic.refused_once ht hm ((Made.plan_of_not_destroyed hthere).trans hrefuse)
      exact ⟨hsubmitted, hreplies⟩
  case text =>
    intro hthere hnames
    have hplan : Made.plan ⟨s.volume, clock, header, c⟩ = c.plan clock :=
      Made.plan_of_not_destroyed hthere
    have hasks := Plan.Follows.asks (c.plan_follows hc clock) hnames
    have hmet {fate : Fate} (h : Traffic.Met (before ++ .call clock header c :: after) _ fate) :=
      hplan ▸ h.repliesTo_eq ht hm (hplan ▸ hasks)
    obtain ⟨d, hd⟩ := Plan.exists_callback hasks header
    refine ⟨d, ?submitted, ?error, ?dropped, ?ask, ?ioctl, ?fallocate, ?unsupported⟩
    case submitted =>
      rw [Traffic.logged_run ht _ _ hm, hplan, hd]
    case error =>
      intro errno h
      rw [hmet h, Fate.answer, Plan.later_error hasks]
      rfl
    case dropped =>
      rintro (h | h) <;>
      · rw [hmet h, Fate.answer, Answer.dropped, Plan.later_error hasks]
        rfl
    case ask =>
      intro op payload respond hask
      rw [hask] at hd
      cases hd
      refine ⟨rfl, fun response h => ?_⟩
      rw [hmet h, hask, Fate.answer, Plan.later_ask]
      rfl
    case ioctl =>
      rintro inode rfl
      cases hd
      rfl
    case fallocate =>
      rintro inode rfl
      cases hd
      rfl
    case unsupported =>
      rintro opcode rfl
      refine ⟨fun values h => ?_, fun n settings ticket => rfl⟩
      rw [hmet h, Plan.eq_askUnsupported hd]
      rfl

/-- A file is looked up. -/
def sampleLookup : TrafficEvent := .call (.still ⟨0⟩) ⟨7, ⟨1000, 100, 42⟩⟩ (.lookup 1 (Text.encode "a"))

/-- A file is looked up, and then whoever has received the callback says that it does not exist. -/
def sampleTraffic : List TrafficEvent := [sampleLookup, .receive, .answer 0 (.error Errno.enoent)]

theorem replies_once_lookup : ∃ t, Traffic.start.run sampleTraffic = some t ∧
    (t.repliesTo 0).length + (t.waitingFor 0).length = 1 ∧
    t.repliesTo 0 = [.error Errno.enoent] := by
  obtain ⟨t, ht⟩ : ∃ t, Traffic.start.run sampleTraffic = some t := ⟨_, rfl⟩
  have hnames : (FileCall.lookup 1 (Text.encode "a")).HasTextNames := by
    intro name hname
    rw [List.mem_singleton.mp hname]
    exact ⟨"a", Text.decode_encode "a"⟩
  have hcall : sampleTraffic =
      [] ++ sampleLookup :: [.receive, .answer 0 (.error Errno.enoent)] := rfl
  obtain ⟨hone, -, -, -, htext⟩ := replies_once rfl rfl hcall ht rfl
  obtain ⟨d, -, herror, -⟩ := htext rfl hnames
  refine ⟨t, ht, hone, herror _ ?_⟩
  exact ⟨[sampleLookup, .receive], _, [], _, rfl, rfl, .answered ⟨_, rfl⟩⟩

end FsGateway.Kernel
