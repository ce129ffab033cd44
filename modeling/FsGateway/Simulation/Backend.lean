import FsGateway.Client.Http

/-!
# A scripted backend

The backend answers by a script: replies are put up for the number of a callback, each with a
delay, and every request takes the next reply for its number. A request without a reply waits for
ever.
-/

namespace FsGateway.Simulation

open Client (Outcome)

/-- The replies that are not taken yet, in the order in which they were put up. -/
structure Backend where
  replies : List (UInt64 × Nat × Outcome)

namespace Backend

/-- A backend without replies. -/
def empty : Backend := ⟨[]⟩

/-- Puts up a reply. -/
def add (b : Backend) (unique : UInt64) (reply : Nat × Outcome) : Backend :=
  ⟨b.replies ++ [(unique, reply)]⟩

/-- The next reply for a number. -/
def peek (b : Backend) (unique : UInt64) : Option (Nat × Outcome) := b.replies.lookup unique

/-- The backend when the next reply for a number is taken. -/
def take (b : Backend) (unique : UInt64) : Backend :=
  ⟨b.replies.eraseP (·.1 = unique)⟩

end Backend

end FsGateway.Simulation
