import Mathlib.Data.List.Induction

/-!
# Runs

The connection and the manager make a step at an event, unless the event cannot happen. A run is the
fold of such steps over a list of events. The lemmas here are about any step of this kind.

* `foldlM_induction`: what holds at the start and is kept by every step holds after a run. The
  property may speak of the events so far.
* `Happens`: at some moment of a run, a state and the event that comes next have a property.
* `Since`: a property has happened, and another one has not happened since.
* `Followed`: the same, and a third one has happened since.
* `AtMostOnce`: a property happens at no two moments of a run.
-/

namespace FsGateway.Run

variable {σ ε : Type} {step : σ → ε → Option σ} {start : σ}

theorem foldlM_append_eq_some {first second : List ε} {t : σ}
    (h : (first ++ second).foldlM step start = some t) :
    ∃ s, first.foldlM step start = some s ∧ second.foldlM step s = some t := by
  rw [List.foldlM_append] at h
  exact Option.bind_eq_some_iff.mp h

theorem foldlM_cons_eq_some {e : ε} {events : List ε} {t : σ}
    (h : (e :: events).foldlM step start = some t) :
    ∃ s, step start e = some s ∧ events.foldlM step s = some t := by
  rw [List.foldlM_cons] at h
  exact Option.bind_eq_some_iff.mp h

theorem foldlM_concat_eq_some {events : List ε} {e : ε} {t : σ}
    (h : (events ++ [e]).foldlM step start = some t) :
    ∃ s, events.foldlM step start = some s ∧ step s e = some t := by
  obtain ⟨s, hs, ht⟩ := foldlM_append_eq_some h
  exact ⟨s, hs, by simpa using ht⟩

theorem foldlM_append_of {first second : List ε} {s t : σ}
    (hs : first.foldlM step start = some s) (ht : second.foldlM step s = some t) :
    (first ++ second).foldlM step start = some t := by
  rw [List.foldlM_append, hs]
  exact ht

/-- Induction over the events of a run, with the latest event last. -/
theorem foldlM_induction {P : List ε → σ → Prop} (nil : P [] start)
    (concat : ∀ events s e t, events.foldlM step start = some s → P events s →
      step s e = some t → P (events ++ [e]) t)
    {events : List ε} {t : σ} (h : events.foldlM step start = some t) : P events t := by
  induction events using List.reverseRecOn generalizing t with
  | nil =>
    cases h
    exact nil
  | append_singleton events e ih =>
    obtain ⟨s, hs, ht⟩ := foldlM_concat_eq_some h
    exact concat events s e t hs (ih hs) ht

/-- What every step keeps is kept by a run. -/
theorem foldlM_keeps {P : σ → Prop} (keep : ∀ s e t, P s → step s e = some t → P t)
    {events : List ε} {t : σ} (hs : P start) (h : events.foldlM step start = some t) : P t :=
  foldlM_induction (P := fun _ s => P s) hs (fun _ s e t _ ih ht => keep s e t ih ht) h

/-! ## Moments of a run -/

/-- At some moment of a run, the state and the event that comes next have a property. -/
def Happens (step : σ → ε → Option σ) (start : σ) (events : List ε) (P : σ → ε → Prop) : Prop :=
  ∃ before e after s, events = before ++ e :: after ∧ before.foldlM step start = some s ∧ P s e

theorem not_happens_nil {P : σ → ε → Prop} : ¬ Happens step start [] P := by
  rintro ⟨before, e, after, s, h, -⟩
  cases before <;> cases h

/-- The last event of a run is the one that splits it, or belongs to what follows. -/
theorem concat_eq_append_cons_iff {events before after : List ε} {e e' : ε} :
    events ++ [e] = before ++ e' :: after ↔
      (events = before ∧ e = e' ∧ after = []) ∨
        ∃ front, after = front ++ [e] ∧ events = before ++ e' :: front := by
  constructor
  · intro h
    rcases List.eq_nil_or_concat after with rfl | ⟨front, last, rfl⟩
    · obtain ⟨rfl, hlast⟩ := List.append_inj' h rfl
      cases hlast
      exact Or.inl ⟨rfl, rfl, rfl⟩
    · have hsplit : events ++ [e] = (before ++ e' :: front) ++ [last] := by simpa using h
      obtain ⟨rfl, hlast⟩ := List.append_inj' hsplit rfl
      cases hlast
      exact Or.inr ⟨front, by simp, rfl⟩
  · rintro (⟨rfl, rfl, rfl⟩ | ⟨front, rfl, rfl⟩)
    · rfl
    · simp

theorem Happens.append {P : σ → ε → Prop} {first : List ε} (h : Happens step start first P)
    (second : List ε) : Happens step start (first ++ second) P := by
  obtain ⟨before, e, after, s, rfl, hs, hp⟩ := h
  exact ⟨before, e, after ++ second, s, by simp, hs, hp⟩

theorem happens_concat_iff {P : σ → ε → Prop} {events : List ε} {s : σ}
    (hs : events.foldlM step start = some s) (e : ε) :
    Happens step start (events ++ [e]) P ↔ Happens step start events P ∨ P s e := by
  constructor
  · rintro ⟨before, e', after, t, he, ht, hp⟩
    rcases concat_eq_append_cons_iff.mp he with ⟨rfl, rfl, rfl⟩ | ⟨front, rfl, rfl⟩
    · cases hs.symm.trans ht
      exact Or.inr hp
    · exact Or.inl ⟨before, e', front, t, rfl, ht, hp⟩
  · rintro (⟨before, e', after, t, rfl, ht, hp⟩ | hp)
    · exact ⟨before, e', after ++ [e], t, by simp, ht, hp⟩
    · exact ⟨events, e, [], s, rfl, hs, hp⟩

/-- After an event, the rest of a run leads from the state after the event to the end. -/
theorem foldlM_rest {before after : List ε} {e : ε} {s t u : σ}
    (hs : before.foldlM step start = some s) (ht : step s e = some t)
    (hu : (before ++ e :: after).foldlM step start = some u) : after.foldlM step t = some u := by
  obtain ⟨s', hs', hrest⟩ := foldlM_append_eq_some hu
  cases hs.symm.trans hs'
  rw [List.foldlM_cons, ht] at hrest
  exact hrest

/-- At some moment of a run `P` holds, and it does not happen later that `Q`. -/
def Since (step : σ → ε → Option σ) (start : σ) (events : List ε) (P Q : σ → ε → Prop) : Prop :=
  ∃ before e after s t, events = before ++ e :: after ∧ before.foldlM step start = some s ∧
    step s e = some t ∧ P s e ∧ ¬ Happens step t after Q

/-- At some moment of a run `P` holds, it happens later that `Q`, and not that `R`. -/
def Followed (step : σ → ε → Option σ) (start : σ) (events : List ε) (P Q R : σ → ε → Prop) :
    Prop :=
  ∃ before e after s t, events = before ++ e :: after ∧ before.foldlM step start = some s ∧
    step s e = some t ∧ P s e ∧ Happens step t after Q ∧ ¬ Happens step t after R

section Since

variable {P Q R : σ → ε → Prop} {events : List ε} {s t : σ} {e : ε}

theorem not_since_nil : ¬ Since step start [] P Q := by
  rintro ⟨before, e, after, s, t, h, -⟩
  cases before <;> cases h

theorem not_followed_nil : ¬ Followed step start [] P Q R := by
  rintro ⟨before, e, after, s, t, h, -⟩
  cases before <;> cases h

theorem Followed.since (h : Followed step start events P Q R) : Since step start events P R := by
  obtain ⟨before, e, after, s, t, he, hs, ht, hp, -, hr⟩ := h
  exact ⟨before, e, after, s, t, he, hs, ht, hp, hr⟩

theorem since_concat_iff (hs : events.foldlM step start = some s) (ht : step s e = some t) :
    Since step start (events ++ [e]) P Q ↔ P s e ∨ Since step start events P Q ∧ ¬ Q s e := by
  constructor
  · rintro ⟨before, e', after, s', t', he, hs', ht', hp, hq⟩
    rcases concat_eq_append_cons_iff.mp he with ⟨rfl, rfl, rfl⟩ | ⟨front, rfl, rfl⟩
    · cases hs.symm.trans hs'
      exact Or.inl hp
    · rw [happens_concat_iff (foldlM_rest hs' ht' hs), not_or] at hq
      exact Or.inr ⟨⟨before, e', front, s', t', rfl, hs', ht', hp, hq.1⟩, hq.2⟩
  · rintro (hp | ⟨⟨before, e', after, s', t', rfl, hs', ht', hp, hq⟩, hlast⟩)
    · exact ⟨events, e, [], s, t, rfl, hs, ht, hp, not_happens_nil⟩
    · refine ⟨before, e', after ++ [e], s', t', by simp, hs', ht', hp, ?_⟩
      rw [happens_concat_iff (foldlM_rest hs' ht' hs), not_or]
      exact ⟨hq, hlast⟩

theorem followed_concat_iff (hs : events.foldlM step start = some s) :
    Followed step start (events ++ [e]) P Q R ↔
      (Followed step start events P Q R ∨ Since step start events P R ∧ Q s e) ∧ ¬ R s e := by
  constructor
  · rintro ⟨before, e', after, s', t', he, hs', ht', hp, hq, hr⟩
    rcases concat_eq_append_cons_iff.mp he with ⟨rfl, rfl, rfl⟩ | ⟨front, rfl, rfl⟩
    · exact absurd hq not_happens_nil
    · have hrest := foldlM_rest hs' ht' hs
      rw [happens_concat_iff hrest, not_or] at hr
      refine ⟨?_, hr.2⟩
      rcases (happens_concat_iff hrest e).mp hq with hq | hq
      · exact Or.inl ⟨before, e', front, s', t', rfl, hs', ht', hp, hq, hr.1⟩
      · exact Or.inr ⟨⟨before, e', front, s', t', rfl, hs', ht', hp, hr.1⟩, hq⟩
  · rintro ⟨⟨before, e', after, s', t', rfl, hs', ht', hp, hq, hr⟩ |
      ⟨⟨before, e', after, s', t', rfl, hs', ht', hp, hr⟩, hq⟩, hlast⟩
    · have hrest := foldlM_rest hs' ht' hs
      refine ⟨before, e', after ++ [e], s', t', by simp, hs', ht', hp, ?_, ?_⟩
      · exact (happens_concat_iff hrest e).mpr (Or.inl hq)
      · rw [happens_concat_iff hrest, not_or]
        exact ⟨hr, hlast⟩
    · have hrest := foldlM_rest hs' ht' hs
      refine ⟨before, e', after ++ [e], s', t', by simp, hs', ht', hp, ?_, ?_⟩
      · exact (happens_concat_iff hrest e).mpr (Or.inr hq)
      · rw [happens_concat_iff hrest, not_or]
        exact ⟨hr, hlast⟩

end Since

/-- What does not end has happened since it happened. -/
theorem since_false_iff {P : σ → ε → Prop} {events : List ε} {u : σ}
    (hu : events.foldlM step start = some u) :
    Since step start events P (fun _ _ => False) ↔ Happens step start events P := by
  constructor
  · rintro ⟨before, e, after, s, t, he, hs, -, hp, -⟩
    exact ⟨before, e, after, s, he, hs, hp⟩
  · rintro ⟨before, e, after, s, rfl, hs, hp⟩
    obtain ⟨s', hs', hrest⟩ := foldlM_append_eq_some hu
    cases hs.symm.trans hs'
    obtain ⟨t, ht, -⟩ := foldlM_cons_eq_some hrest
    refine ⟨before, e, after, s, t, rfl, hs, ht, hp, ?_⟩
    rintro ⟨-, -, -, -, -, -, h⟩
    exact h

/-- At no two moments of a run `P` holds. -/
def AtMostOnce (step : σ → ε → Option σ) (start : σ) (events : List ε) (P : σ → ε → Prop) : Prop :=
  ∀ before e after s t, events = before ++ e :: after → before.foldlM step start = some s →
    step s e = some t → P s e → ¬ Happens step t after P

/-- What can be spent, and is never there again once it has been spent, is spent at most once. -/
theorem atMostOnce_of_spent {P : σ → ε → Prop} {events : List ε} (Spent : σ → Prop)
    (spends : ∀ (before : List ε) s e t, before.foldlM step start = some s → step s e = some t →
      P s e → Spent t) (stays : ∀ s e t, Spent s → step s e = some t → Spent t)
    (gone : ∀ s e, Spent s → ¬ P s e) : AtMostOnce step start events P := by
  rintro before e after s t - hs ht hp ⟨later, e', rest, s', -, hs', hp'⟩
  exact gone s' e' (foldlM_keeps stays (spends before s e t hs ht hp) hs') hp'

theorem AtMostOnce.mono {P Q : σ → ε → Prop} {events : List ε}
    (h : AtMostOnce step start events Q) (hpq : ∀ s e, P s e → Q s e) :
    AtMostOnce step start events P := by
  rintro before e after s t he hs ht hp ⟨later, e', rest, s', hafter, hs', hp'⟩
  exact h before e after s t he hs ht (hpq s e hp)
    ⟨later, e', rest, s', hafter, hs', hpq s' e' hp'⟩

end FsGateway.Run
