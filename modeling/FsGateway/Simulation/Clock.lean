/-!
# Virtual time

A machine whose time is a number makes its steps at one instant after another. Time moves only
when nothing more can happen at an instant.

* `settle`: everything that can happen at this instant.
* `advance`: everything that happens in a span of time.
-/

namespace FsGateway.Simulation

/-- Something that makes steps in time. -/
structure Clockwork (σ : Type) where
  now : σ → Nat
  /-- The next thing that happens at this instant. -/
  step? : σ → Option σ
  /-- The instants at which something may happen. -/
  instants : σ → List Nat
  elapse : Nat → σ → σ
  /-- A bound on how much can happen. -/
  weight : σ → Nat

namespace Clockwork

variable {σ : Type} (m : Clockwork σ)

/-- Everything that can happen at this instant, up to a number of steps. -/
def settleWithin : (steps : Nat) → σ → σ
  | 0, s => s
  | steps + 1, s =>
    match m.step? s with
    | none => s
    | some t => settleWithin steps t

/-- Everything that can happen at this instant. -/
def settle (s : σ) : σ := m.settleWithin (m.weight s + 1) s

/-- The first later instant at which something may happen. -/
def nextInstant (s : σ) : Option Nat := ((m.instants s).filter (m.now s < ·)).min?

/-- Everything that happens up to an instant, stopping at a number of instants at most. -/
def settleUntil (limit : Nat) : (stops : Nat) → σ → σ
  | 0, s => s
  | stops + 1, s =>
    match (m.nextInstant s).filter (· ≤ limit) with
    | none => m.settle (m.elapse (limit - m.now s) s)
    | some t => settleUntil limit stops (m.settle (m.elapse (t - m.now s) s))

/-- Everything that happens in a span of time. -/
def advance (duration : Nat) (s : σ) : σ :=
  let t := m.settle s
  m.settleUntil (m.now s + duration) (m.weight t + 1) t

end Clockwork

end FsGateway.Simulation
