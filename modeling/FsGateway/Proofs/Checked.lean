/-!
# Checked steps

A computation on positions may look outside a list, or take more from a number than there is, and
one on numbers of limited width may leave that width. Here such a step has no result, and a
computation that takes one has none either.

* `slice?`, `put?`, `less?`, `below?`: the steps.
* `Returns`: a computation takes no such step, and what its outcome is.
-/

namespace FsGateway.Checked

variable {α β ε : Type}

/-! ## Steps -/

/-- The elements from one position up to another. -/
def slice? (xs : List α) (start stop : Nat) : Option (List α) :=
  if start ≤ stop ∧ stop ≤ xs.length then some ((xs.drop start).take (stop - start)) else none

/-- The elements with another one at a position. -/
def put? (xs : List α) (i : Nat) (x : α) : Option (List α) :=
  if i < xs.length then some (xs.set i x) else none

/-- A number less another one, which must not be greater. -/
def less? (n k : Nat) : Option Nat := if k ≤ n then some (n - k) else none

/-- A number that must stay below a bound. -/
def below? (bound n : Nat) : Option Nat := if n < bound then some n else none

theorem slice?_eq_some {xs : List α} {start stop : Nat} (hstart : start ≤ stop)
    (hstop : stop ≤ xs.length) :
    slice? xs start stop = some ((xs.drop start).take (stop - start)) :=
  if_pos ⟨hstart, hstop⟩

theorem slice?_take {xs : List α} {n : Nat} (h : n ≤ xs.length) :
    slice? xs 0 n = some (xs.take n) :=
  slice?_eq_some (Nat.zero_le n) h

theorem slice?_drop {xs : List α} {n : Nat} (h : n ≤ xs.length) :
    slice? xs n xs.length = some (xs.drop n) := by
  rw [slice?_eq_some h (Nat.le_refl _), ← List.length_drop, List.take_length]

theorem slice?_append (xs ys : List α) :
    slice? (xs ++ ys) xs.length (xs ++ ys).length = some ys := by
  rw [slice?_drop (List.length_append ▸ Nat.le_add_right _ _), List.drop_left]

theorem put?_eq_some {xs : List α} {i : Nat} (x : α) (h : i < xs.length) :
    put? xs i x = some (xs.set i x) :=
  if_pos h

theorem less?_eq_some {n k : Nat} (h : k ≤ n) : less? n k = some (n - k) := if_pos h

theorem below?_eq_some {bound n : Nat} (h : n < bound) : below? bound n = some n := if_pos h

/-! ## Whole computations -/

/-- Every step of a computation has a result, and so the computation has an outcome. -/
def Returns (x : ExceptT ε Option α) (outcome : Except ε α) : Prop := x.run = some outcome

theorem Returns.pure (a : α) : Returns (Pure.pure a : ExceptT ε Option α) (.ok a) := rfl

theorem Returns.throw (fault : ε) : Returns (throw fault : ExceptT ε Option α) (.error fault) := rfl

theorem Returns.outcome (x : Except ε α) : Returns (liftM x : ExceptT ε Option α) x := rfl

/-- A computation that has found no fault, and one that goes on with its result. -/
theorem Returns.bind_ok {x : ExceptT ε Option α} {a : α} {f : α → ExceptT ε Option β}
    {outcome : Except ε β} (hx : Returns x (.ok a)) (hf : Returns (f a) outcome) :
    Returns (x >>= f) outcome := by
  have hrun : (x >>= f).run = x.run >>= ExceptT.bindCont f := rfl
  rw [Returns, hrun, hx]
  exact hf

/-- A computation that has found a fault. -/
theorem Returns.bind_error {x : ExceptT ε Option α} {fault : ε} {f : α → ExceptT ε Option β}
    (hx : Returns x (.error fault)) : Returns (x >>= f) (.error fault) := by
  have hrun : (x >>= f).run = x.run >>= ExceptT.bindCont f := rfl
  rw [Returns, hrun, hx]
  rfl

/-- Two computations one after the other. -/
theorem Returns.bind {x : ExceptT ε Option α} {f : α → ExceptT ε Option β} {outcome : Except ε α}
    {g : α → Except ε β} (hx : Returns x outcome) (hf : ∀ a, Returns (f a) (g a)) :
    Returns (x >>= f) (outcome >>= g) := by
  cases outcome with
  | error fault => exact bind_error hx
  | ok a => exact bind_ok hx (hf a)

/-- A step that has a result, and a computation that goes on with it. -/
theorem Returns.step {x : Option α} {a : α} {f : α → ExceptT ε Option β} {outcome : Except ε β}
    (hx : x = some a) (hf : Returns (f a) outcome) :
    Returns ((liftM x : ExceptT ε Option α) >>= f) outcome := by
  subst hx
  exact hf

end FsGateway.Checked
