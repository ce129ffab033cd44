import FsGateway.Proofs.Client.Classification
import FsGateway.Proofs.Connection.VirtualTime

/-!
# Circumstances of a call

A call that a connection forwards ends at the first of three instants: it is canceled, its deadline
passes, or the transport has its outcome.

* `Circumstances`: what a call depends on. `cancel`, `deadline`, `arrival`: the three instants.
* `Verdict`: the answer and its instant, unless the call is canceled at the instant at which it ends
  otherwise.
* `Decides`: an answer that the call gets, also in this case.
* `after`: what is known of the circumstances after one more event.
-/

namespace FsGateway.Gateway

open Kernel (Header Answer)
open Client (Outcome Failure delivered classify)
open Wire (Operation)

/-! ## Circumstances -/

/-- What the answer to a forwarded callback depends on, besides the settings of the connection. -/
structure Circumstances where
  /-- The instant at which the callback is read. -/
  dispatched : Nat
  /-- What the backend has for the request, and after which delay. -/
  reply : Option (Nat × Outcome)
  /-- The instant at which an interrupt that names the callback is read first. -/
  named : Option Nat
  /-- The instant at which the session ends or the connection is told to stop. -/
  ended : Option Nat

namespace Circumstances

variable {c : Settings} {header : Header} {op : Operation} {s : Circumstances} {T : Nat}
  {answer : Answer}

/-- The instant at which the time for draining is up. Draining begins with the end of the session,
but not before the callback is read. -/
def limit (s : Circumstances) (c : Settings) : Option Nat :=
  s.ended.bind fun i => c.drainTimeout.map (max s.dispatched i + ·)

/-- The first instant at which the call is canceled. -/
def cancel (s : Circumstances) (c : Settings) : Option Nat :=
  (s.named.toList ++ (s.limit c).toList).min?

/-- The instant at which the time of the call is up. There is none for a call that has no URL: it
fails when it starts. -/
def deadline (s : Circumstances) (c : Settings) (op : Operation) : Option Nat :=
  match c.target.append op.path with
  | .ok _ => c.requestTimeout.map (s.dispatched + ·)
  | .error _ => none

/-- The outcome of the transport, and when it arrives. -/
def arrival (s : Circumstances) (c : Settings) (header : Header) (op : Operation) :
    Option (Nat × Outcome) :=
  match c.target.append op.path with
  | .ok _ => (delivered c.client ⟨c.target, header.identity⟩ s.reply).map fun r =>
      (s.dispatched + r.1, r.2)
  | .error _ => some (s.dispatched, .error (.invalidUrl (c.target.appendText op.path)))

/-- The answer that an outcome stands for. -/
def answerFor (c : Settings) (header : Header) (op : Operation) (outcome : Outcome) : Answer :=
  .ofResult ((classify c.client.encoding header.unique op outcome).mapError Failure.toErrno)

/-- The answer to a call, and its instant: whatever comes first. A deadline comes before an outcome
that arrives at the same instant. -/
inductive Verdict (c : Settings) (header : Header) (op : Operation) (s : Circumstances) :
    Nat → Answer → Prop
  | canceled {T : Nat} : s.cancel c = some T → (∀ i ∈ s.deadline c op, T < i) →
      (∀ r ∈ s.arrival c header op, T < r.1) → Verdict c header op s T (.error Errno.eintr)
  | timedOut {T : Nat} : s.deadline c op = some T → (∀ r ∈ s.arrival c header op, T ≤ r.1) →
      (∀ i ∈ s.cancel c, T < i) → Verdict c header op s T (.error Errno.etimedout)
  | replied {T : Nat} {outcome : Outcome} : s.arrival c header op = some (T, outcome) →
      (∀ i ∈ s.deadline c op, T < i) → (∀ i ∈ s.cancel c, T < i) →
      Verdict c header op s T (answerFor c header op outcome)

/-- The call is canceled at the same instant at which it ends otherwise. -/
def Tied (c : Settings) (header : Header) (op : Operation) (s : Circumstances) : Prop :=
  ∃ T, s.cancel c = some T ∧
    ((s.deadline c op = some T ∧ ∀ r ∈ s.arrival c header op, T ≤ r.1) ∨
      ((∃ outcome, s.arrival c header op = some (T, outcome)) ∧ ∀ i ∈ s.deadline c op, T ≤ i))

/-- The instants at which a call may end. -/
def instants (s : Circumstances) (c : Settings) (header : Header) (op : Operation) : List Nat :=
  (s.cancel c).toList ++ (s.deadline c op).toList ++
    ((s.arrival c header op).map Prod.fst).toList

theorem forall_instants {P : Nat → Prop} : (∀ i ∈ s.instants c header op, P i) ↔
    (∀ i ∈ s.cancel c, P i) ∧ (∀ i ∈ s.deadline c op, P i) ∧
      ∀ r ∈ s.arrival c header op, P r.1 := by
  simp only [instants, List.mem_append, Option.mem_toList, or_imp, forall_and, and_assoc]
  refine and_congr_right fun _ => and_congr_right fun _ => ?_
  cases s.arrival c header op <;> simp

/-- What ends a call at an instant. -/
inductive EndsAt (c : Settings) (header : Header) (op : Operation) (s : Circumstances) (T : Nat) :
    Answer → Prop
  | canceled : s.cancel c = some T → EndsAt c header op s T (.error Errno.eintr)
  | timedOut : s.deadline c op = some T → EndsAt c header op s T (.error Errno.etimedout)
  | replied {outcome : Outcome} : s.arrival c header op = some (T, outcome) →
      (∀ i ∈ s.deadline c op, T < i) → EndsAt c header op s T (answerFor c header op outcome)

/-- An answer that a call gets at an instant: nothing has ended it before. -/
def Decides (c : Settings) (header : Header) (op : Operation) (s : Circumstances) (T : Nat)
    (answer : Answer) : Prop :=
  (∀ i ∈ s.instants c header op, T ≤ i) ∧ EndsAt c header op s T answer

/-- There is one answer at most, and it is the one that the call gets. -/
theorem Verdict.eq_of_decides {T' : Nat} {answer' : Answer} (h : Verdict c header op s T answer)
    (h' : Decides c header op s T' answer') : T' = T ∧ answer' = answer := by
  obtain ⟨hfirst, hends⟩ := h'
  obtain ⟨hcancel', hdeadline', harrival'⟩ := forall_instants.mp hfirst
  cases h with
  | canceled hcancel hdeadline harrival =>
    have hle := hcancel' T hcancel
    cases hends with
    | canceled hc => exact ⟨Option.some.inj (hc.symm.trans hcancel), rfl⟩
    | timedOut hd => exact absurd (hdeadline T' hd) (Nat.not_lt_of_le hle)
    | replied hr => exact absurd (harrival _ hr) (Nat.not_lt_of_le hle)
  | timedOut hdeadline harrival hcancel =>
    have hle := hdeadline' T hdeadline
    cases hends with
    | canceled hc => exact absurd (hcancel T' hc) (Nat.not_lt_of_le hle)
    | timedOut hd => exact ⟨Option.some.inj (hd.symm.trans hdeadline), rfl⟩
    | replied hr hbefore =>
      have hlt := hbefore T hdeadline
      exact absurd (harrival _ hr) (Nat.not_le_of_lt hlt)
  | @replied outcome harrival hdeadline hcancel =>
    have hle := harrival' _ harrival
    cases hends with
    | canceled hc => exact absurd (hcancel T' hc) (Nat.not_lt_of_le hle)
    | timedOut hd => exact absurd (hdeadline T' hd) (Nat.not_lt_of_le hle)
    | replied hr =>
      cases hr.symm.trans harrival
      exact ⟨rfl, rfl⟩

theorem Verdict.mem_instants (h : Verdict c header op s T answer) : T ∈ s.instants c header op := by
  simp only [instants, List.mem_append, Option.mem_toList]
  cases h with
  | canceled hcancel => exact Or.inl (Or.inl hcancel)
  | timedOut hdeadline => exact Or.inl (Or.inr hdeadline)
  | replied harrival => exact Or.inr (Option.mem_map_of_mem Prod.fst harrival)

/-- Unless it is tied, the answer that a call gets is the one that comes first. -/
theorem Decides.verdict (h : Decides c header op s T answer) (htied : ¬ Tied c header op s) :
    Verdict c header op s T answer := by
  obtain ⟨hfirst, hends⟩ := h
  obtain ⟨hcancel, hdeadline, harrival⟩ := forall_instants.mp hfirst
  cases hends with
  | canceled hc =>
    refine .canceled hc (fun i hi => ?_) (fun r hr => ?_)
    · apply Nat.lt_of_le_of_ne (hdeadline i hi)
      rintro rfl
      exact htied ⟨T, hc, Or.inl ⟨hi, harrival⟩⟩
    · apply Nat.lt_of_le_of_ne (harrival r hr)
      rintro rfl
      exact htied ⟨r.1, hc, Or.inr ⟨⟨r.2, hr⟩, hdeadline⟩⟩
  | timedOut hd =>
    refine .timedOut hd harrival fun i hi => ?_
    apply Nat.lt_of_le_of_ne (hcancel i hi)
    rintro rfl
    exact htied ⟨T, hi, Or.inl ⟨hd, harrival⟩⟩
  | @replied outcome hr hbefore =>
    refine .replied hr hbefore fun i hi => ?_
    apply Nat.lt_of_le_of_ne (hcancel i hi)
    rintro rfl
    exact htied ⟨T, hi, Or.inr ⟨⟨outcome, hr⟩, hdeadline⟩⟩

/-! ## Circumstances in the course of events -/

theorem forall_cancel {P : Nat → Prop} (hmin : ∀ i j, i ≤ j → P i → P j) :
    (∀ i ∈ s.cancel c, P i) ↔ (∀ i ∈ s.named, P i) ∧ ∀ i ∈ s.limit c, P i := by
  have hall : (∀ i ∈ s.named.toList ++ (s.limit c).toList, P i) ↔
      (∀ i ∈ s.named, P i) ∧ ∀ i ∈ s.limit c, P i := by
    simp only [List.mem_append, Option.mem_toList, or_imp, forall_and, Option.mem_def]
  rw [← hall, cancel]
  constructor
  · intro h i hi
    cases hfirst : (s.named.toList ++ (s.limit c).toList).min? with
    | none =>
      rw [List.min?_eq_none_iff.mp hfirst] at hi
      cases hi
    | some first =>
      exact hmin first i ((List.min?_eq_some_iff.mp hfirst).2 i hi) (h first hfirst)
  · intro h first hfirst
    exact h first (List.min?_eq_some_iff.mp hfirst).1

theorem cancel_eq_some (hfirst : ∀ i ∈ s.cancel c, T ≤ i)
    (h : s.named = some T ∨ s.limit c = some T) : s.cancel c = some T := by
  obtain ⟨hnamed, hlimit⟩ := (forall_cancel fun i j hij hi => Nat.le_trans hi hij).mp hfirst
  apply List.min?_eq_some_iff.mpr
  simp only [List.mem_append, Option.mem_toList]
  exact ⟨h, fun i hi => hi.elim (hnamed i) (hlimit i)⟩

theorem cancel_of_unnamed (h : s.named = none) : s.cancel c = s.limit c := by
  rw [cancel, h]
  cases s.limit c <;> rfl

theorem dispatched_le_instants (h : s.named = none) :
    ∀ i ∈ s.instants c header op, s.dispatched ≤ i := by
  refine forall_instants.mpr ⟨?_, fun i hi => ?_, fun r hr => ?_⟩
  · refine (forall_cancel fun i j hij hi => Nat.le_trans hi hij).mpr ⟨fun i hi => ?_, fun i hi => ?_⟩
    · rw [h] at hi
      cases hi
    · obtain ⟨j, -, hi⟩ := Option.bind_eq_some_iff.mp hi
      obtain ⟨d, -, rfl⟩ := Option.map_eq_some_iff.mp hi
      omega
  · rw [deadline] at hi
    split at hi
    · obtain ⟨d, -, rfl⟩ := Option.map_eq_some_iff.mp hi
      exact Nat.le_add_right _ _
    · cases hi
  · rw [arrival] at hr
    split at hr
    · obtain ⟨x, -, rfl⟩ := Option.map_eq_some_iff.mp hr
      exact Nat.le_add_right _ _
    · cases hr
      exact Nat.le_refl _

/-- What is known of the circumstances of a number after an event. -/
def after (s : Circumstances) (unique : UInt64) (k : Connection) (e : Event) : Circumstances where
  dispatched := s.dispatched
  reply := s.reply
  named := s.named.or (if k.named? e = some unique then some k.now else none)
  ended := s.ended.or (if e.isEnd then some k.now else none)

variable {unique : UInt64} {k : Connection} {e : Event}

@[simp] theorem after_dispatched : (s.after unique k e).dispatched = s.dispatched := rfl

@[simp] theorem after_reply : (s.after unique k e).reply = s.reply := rfl

@[simp] theorem after_deadline : (s.after unique k e).deadline c op = s.deadline c op := by
  rw [deadline, deadline, after_dispatched]

@[simp] theorem after_arrival :
    (s.after unique k e).arrival c header op = s.arrival c header op := by
  rw [arrival, arrival, after_dispatched, after_reply]

theorem after_of_quiet (hnamed : k.named? e = none) (hopen : e.isEnd = false) :
    s.after unique k e = s := by
  simp [after, hnamed, hopen]

theorem ended_after {i : Nat} (h : s.ended = some i) : (s.after unique k e).ended = some i := by
  simp [after, h]

theorem ended_after_ne_none (h : s.ended ≠ none) : (s.after unique k e).ended ≠ none := by
  obtain ⟨i, hi⟩ := Option.ne_none_iff_exists'.mp h
  rw [ended_after hi]
  exact Option.some_ne_none i

theorem limit_after (h : s.ended ≠ none) : (s.after unique k e).limit c = s.limit c := by
  obtain ⟨i, hi⟩ := Option.ne_none_iff_exists'.mp h
  rw [limit, limit, ended_after hi, hi, after_dispatched]

theorem now_of_some {p : Prop} [Decidable p] {now i : Nat}
    (h : (if p then some now else none) = some i) : i = now := by
  split at h
  · exact (Option.some.inj h).symm
  · cases h

/-- Nothing is canceled at an instant that is over. -/
theorem le_cancel_after (hT : T ≤ k.now) (h : ∀ i ∈ s.cancel c, T ≤ i) :
    ∀ i ∈ (s.after unique k e).cancel c, T ≤ i := by
  have hle : ∀ i j : Nat, i ≤ j → T ≤ i → T ≤ j := fun i j hij hi => Nat.le_trans hi hij
  obtain ⟨hnamed, hlimit⟩ := (forall_cancel hle).mp h
  refine (forall_cancel hle).mpr ⟨fun i hi => ?_, fun i hi => ?_⟩
  · rcases Option.or_eq_some_iff.mp hi with hi | ⟨-, hi⟩
    · exact hnamed i hi
    · rw [now_of_some hi]
      exact hT
  · by_cases hended : s.ended = none
    · obtain ⟨j, hj, hi⟩ := Option.bind_eq_some_iff.mp hi
      obtain ⟨d, -, rfl⟩ := Option.map_eq_some_iff.mp hi
      rw [after, hended, Option.none_or] at hj
      have hnow := now_of_some hj
      change T ≤ max s.dispatched j + d
      omega
    · rw [limit_after hended] at hi
      exact hlimit i hi

theorem cancel_after (hT : T ≤ k.now) (h : s.cancel c = some T) :
    (s.after unique k e).cancel c = some T := by
  have hle : ∀ i ∈ s.cancel c, T ≤ i := by
    intro i hi
    cases hi.symm.trans h
    exact Nat.le_refl T
  apply cancel_eq_some (le_cancel_after hT hle)
  have hmem := (List.min?_eq_some_iff.mp h).1
  simp only [List.mem_append, Option.mem_toList] at hmem
  rcases hmem with hnamed | hlimit
  · left
    simp [after, hnamed]
  · right
    have hended : s.ended ≠ none := by
      intro hnone
      rw [limit, hnone] at hlimit
      cases hlimit
    rw [limit_after hended, hlimit]

theorem le_instants_after (hT : T ≤ k.now) (h : ∀ i ∈ s.instants c header op, T ≤ i) :
    ∀ i ∈ (s.after unique k e).instants c header op, T ≤ i := by
  obtain ⟨hcancel, hrest⟩ := forall_instants.mp h
  rw [forall_instants, after_deadline, after_arrival]
  exact ⟨le_cancel_after hT hcancel, hrest⟩

/-- What happens after a call got its answer does not matter to it. -/
theorem Decides.after (h : Decides c header op s T answer) (hT : T ≤ k.now) :
    Decides c header op (s.after unique k e) T answer := by
  obtain ⟨hfirst, hends⟩ := h
  refine ⟨le_instants_after hT hfirst, ?_⟩
  cases hends with
  | canceled hc => exact .canceled (cancel_after hT hc)
  | timedOut hd => exact .timedOut (after_deadline.trans hd)
  | replied hr hbefore =>
    refine .replied (after_arrival.trans hr) ?_
    rw [after_deadline]
    exact hbefore

end Circumstances

end FsGateway.Gateway
