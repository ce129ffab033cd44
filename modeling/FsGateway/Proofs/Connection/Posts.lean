import FsGateway.Proofs.Connection.Calls

/-!
# What reaches the backend

A request is posted when a worker starts, and a worker starts once. So each request belongs to one
callback that was read and is forwarded; it says what this callback asks for, and who asked.

* `Posts`: an event posts a request. `Change.posts`: the log grows by it and by nothing else.
* `Logged`: what the log of posted requests has to do with the events.
* `posts_match_callbacks`: which callbacks have a request in the log, and which one.
-/

namespace FsGateway.Gateway

open Kernel (Queued Ticket Answer)
open Client (Request IsRequest)
open Wire (Operation)

namespace Connection

variable {c : Settings} {now : Nat} {events later : List Event} {k k' : Connection} {e : Event}
  {item : Queued} {ticket : Ticket} {w w' : Worker} {r r' : Request}

/-! ## Events that post -/

/-- An event posts the request of a worker. -/
def Posts (c : Settings) (k : Connection) (e : Event) (w : Worker) (r : Request) : Prop :=
  w ∈ k.workers ∧ w.stage = .spawned ∧ w.request c.client c.target k.now = .ok r ∧
    ∃ reply, e = .start w.ticket reply

theorem Posts.unique (hn : (k.workers.map (·.ticket)).Nodup) (h : Posts c k e w r)
    (h' : Posts c k e w' r') : w = w' ∧ r = r' := by
  obtain ⟨hw, -, hrequest, reply, rfl⟩ := h
  obtain ⟨hw', -, hrequest', reply', he⟩ := h'
  cases List.inj_on_of_nodup_map hn hw hw' (Event.start.inj he).1
  rw [hrequest] at hrequest'
  exact ⟨rfl, Except.ok.inj hrequest'⟩

theorem not_posts (h : ∀ t reply, e ≠ .start t reply) (w : Worker) (r : Request) :
    ¬ Posts c k e w r := by
  rintro ⟨-, -, -, reply, he⟩
  exact h _ _ he

theorem heed_posts (d : Kernel.Demand) : (k.heed d).posts = k.posts := by
  rw [heed_eq_target]
  split
  · rfl
  · rw [interrupt_eq_map]

/-- The log grows by what an event posts, and by nothing else. -/
theorem Change.posts (h : Change c k e k') (hn : (k.workers.map (·.ticket)).Nodup) :
    (k'.posts = k.posts ∧ ∀ w r, ¬ Posts c k e w r) ∨
      ∃ w r, Posts c k e w r ∧ k'.posts = k.posts ++ [(w.ticket, r)] := by
  cases h with
  | queued | dropped | hungUp | toldToStop | served | refused | stopped | finished | expired
  | drained | elapsed => exact Or.inl ⟨rfl, not_posts (by simp)⟩
  | spawned hphase hreads hq hw => exact Or.inl ⟨heed_posts _, not_posts (by simp)⟩
  | @posted w reply request hw hstage hrequest =>
    exact Or.inr ⟨w, request, ⟨hw, hstage, hrequest, reply, rfl⟩, rfl⟩
  | @failed w reply cause hw hstage hfail =>
    refine Or.inl ⟨rfl, ?_⟩
    rintro w' r ⟨hw', -, hrequest, reply', he⟩
    cases List.inj_on_of_nodup_map hn hw hw' (Event.start.inj he).1
    rw [hfail] at hrequest
    cases hrequest

/-- The request of a callback is posted in the course of events. -/
def IsPosted (c : Settings) (now : Nat) (events : List Event) (item : Queued) (r : Request) : Prop :=
  Run.Happens (fun k e => k.step c e) (ofInstant now) events fun k e =>
    ∃ w, w.item = item ∧ Posts c k e w r

theorem isPosted_concat_iff (hrun : (ofInstant now).run c events = some k) :
    IsPosted c now (events ++ [e]) item r ↔
      IsPosted c now events item r ∨ ∃ w, w.item = item ∧ Posts c k e w r :=
  Run.happens_concat_iff hrun e

/-- A callback whose request is posted was read and is forwarded. -/
theorem IsPosted.forwarded (h : IsPosted c now events item r) :
    IsRead c now events item ∧ (∀ a, ¬ Refuses c item.callback.demand a) ∧
      ∃ op payload, item.callback.demand = .operation op payload ∧
        IsRequest c.client ⟨c.target, item.callback.header.identity⟩ op payload r := by
  obtain ⟨before, e, after, k, rfl, hk, w, rfl, hw, -, hrequest, -⟩ := h
  obtain ⟨-, hread, hfwd⟩ := (run_recorded hk).working w.item (List.mem_map_of_mem hw)
  exact ⟨hread.append _, hfwd, _, _, rfl, (Worker.request_eq_ok hrequest).2.2.2⟩

/-- What the log has to do with the events so far. -/
structure Logged (c : Settings) (now : Nat) (events : List Event) (k : Connection) : Prop where
  once : (k.posts.map (·.1)).Nodup
  posted : ∀ t r, (t, r) ∈ k.posts ↔ ∃ item, item.ticket = t ∧ IsPosted c now events item r
  /-- A worker that has not started has posted nothing. -/
  waiting : ∀ w ∈ k.workers, w.stage = .spawned → w.ticket ∉ k.posts.map (·.1)

/-- Nothing was posted for a callback that waits in the queue. -/
theorem Logged.not_posted_of_queued (h : Logged c now events k)
    (hrun : (ofInstant now).run c events = some k) (hitem : item ∈ k.session.queue) :
    item.ticket ∉ k.posts.map (·.1) := by
  intro hposted
  obtain ⟨⟨t, r⟩, hmem, hticket⟩ := List.mem_map.mp hposted
  obtain ⟨item', hsame, hposts⟩ := (h.posted t r).mp hmem
  have hrec := run_recorded hrun
  obtain ⟨hsent, hunread⟩ := hrec.queued item hitem
  have hread := hposts.forwarded.1
  have heq : item' = item := List.inj_on_of_nodup_map (run_nodup_sent hrun) (hrec.read item' hread)
    hsent (hsame.trans hticket)
  exact hunread (heq ▸ hread)

section Logged

variable (h : Logged c now events k) (hrun : (ofInstant now).run c events = some k)
  (hchange : Change c k e k')

include h hrun hchange

theorem Logged.once_concat : (k'.posts.map (·.1)).Nodup := by
  rcases hchange.posts (nodup_workers (run_sound hrun).nodup) with
    ⟨hsame, -⟩ | ⟨w, r, ⟨hw, hspawned, -⟩, hmore⟩
  · rw [hsame]
    exact h.once
  · rw [hmore, List.map_append]
    exact (List.perm_append_singleton _ _).nodup_iff.mpr
      (List.nodup_cons.mpr ⟨h.waiting w hw hspawned, h.once⟩)

theorem Logged.posted_concat (t : Ticket) (r : Request) : (t, r) ∈ k'.posts ↔
    ∃ item, item.ticket = t ∧ IsPosted c now (events ++ [e]) item r := by
  have hn := nodup_workers (run_sound hrun).nodup
  simp only [isPosted_concat_iff hrun]
  rcases hchange.posts hn with ⟨hsame, hnone⟩ | ⟨w, r₀, hw, hmore⟩
  · rw [hsame, h.posted]
    simp [hnone]
  · rw [hmore, List.mem_append, List.mem_singleton, h.posted]
    constructor
    · rintro (⟨item, hticket, hposted⟩ | hlast)
      · exact ⟨item, hticket, Or.inl hposted⟩
      · cases hlast
        exact ⟨w.item, rfl, Or.inr ⟨w, rfl, hw⟩⟩
    · rintro ⟨item, hticket, hposted | ⟨w', rfl, hw'⟩⟩
      · exact Or.inl ⟨item, hticket, hposted⟩
      · obtain ⟨rfl, rfl⟩ := hw.unique hn hw'
        exact Or.inr (by rw [← hticket]; rfl)

theorem Logged.waiting_concat (hw' : w' ∈ k'.workers) (hstage : w'.stage = .spawned) :
    w'.ticket ∉ k'.posts.map (·.1) := by
  have hn := nodup_workers (run_sound hrun).nodup
  rcases hchange.origin hn hw' with ⟨item, queue, rfl, hq, hnew⟩ | ⟨w, hw, hgo⟩
  · have hticket : w'.ticket = item.ticket := congrArg Queued.ticket hnew.item
    rcases hchange.posts hn with ⟨hsame, -⟩ | ⟨x, r, hx, -⟩
    · rw [hsame, hticket]
      exact h.not_posted_of_queued hrun (hq ▸ List.mem_cons_self)
    · exact absurd hx (not_posts (by simp) x r)
  · obtain ⟨hspawned, hother⟩ := hgo.spawned hstage
    have hticket : w'.ticket = w.ticket := congrArg Queued.ticket hgo.item
    have hout := h.waiting w hw hspawned
    rw [hticket]
    rcases hchange.posts hn with ⟨hsame, -⟩ | ⟨x, r, ⟨-, -, -, reply, he⟩, hmore⟩
    · rwa [hsame]
    · -- another worker has started
      have hne : w.ticket ≠ x.ticket := by
        intro hsame
        rw [← hsame] at he
        exact hother reply he
      rw [hmore, List.map_append, List.mem_append, not_or]
      exact ⟨hout, by simpa using hne⟩

theorem Logged.concat : Logged c now (events ++ [e]) k' :=
  ⟨h.once_concat hrun hchange, h.posted_concat hrun hchange,
    fun _ => h.waiting_concat hrun hchange⟩

end Logged

end Connection

end FsGateway.Gateway
