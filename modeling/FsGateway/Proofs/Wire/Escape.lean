import FsGateway.Proofs.Outcome
import FsGateway.Wire.Escape

/-!
# Which inputs do not start with an escaped field

An input from which no field can be read spells a value up to its end, without a newline, or up to a
backslash that starts no escape sequence. The position of that backslash is the fault's.

* `read_eq_error_iff`: the inputs from which no field can be read, and their faults.
-/

namespace FsGateway.Wire.Escape

variable {offset : Nat} {input rest : Bytes} {fault : Fault}

/-- A value, escaped and not terminated. -/
def spelled (value : Bytes) : Bytes := value.flatMap escape

theorem spelled_cons (b : UInt8) (value : Bytes) :
    spelled (b :: value) = escape b ++ spelled value := List.flatMap_cons

/-- Why no field can be read from an input that begins at an offset. -/
inductive FailsAt (offset : Nat) (input : Bytes) : Fault → Prop
  /-- The whole input spells a value, and no newline ends it. -/
  | unterminated (value : Bytes) (h : input = spelled value) : FailsAt offset input .unterminated
  /-- What spells a value is followed by a backslash that starts no escape sequence. -/
  | invalid (value rest : Bytes) (h : input = spelled value ++ backslash :: rest)
      (hnext : ∀ c ∈ rest.head?, c ≠ backslash ∧ c ≠ letterN) :
      FailsAt offset input (.invalid (offset + (spelled value).length))

theorem FailsAt.of_escape {b : UInt8} {spelling : Bytes} (hb : escape b = spelling)
    (h : FailsAt (offset + spelling.length) rest fault) : FailsAt offset (spelling ++ rest) fault := by
  subst hb
  cases h with
  | unterminated value h =>
    refine .unterminated (b :: value) ?_
    rw [spelled_cons, h]
  | invalid value after h hnext =>
    rw [Nat.add_assoc, ← List.length_append, ← spelled_cons]
    refine .invalid (b :: value) after ?_ hnext
    rw [spelled_cons, List.append_assoc, h]

theorem failsAt_of_readAt (h : readAt offset input = .error fault) : FailsAt offset input fault := by
  have hescape : escape backslash = [backslash, backslash] := by decide
  have hnewline : escape newline = [backslash, letterN] := by decide
  fun_induction readAt offset input with
  | case1 offset =>
    cases h
    exact .unterminated [] rfl
  | case2 offset input => cases h
  | case3 offset =>
    cases h
    exact .invalid [] [] rfl (by simp)
  | case4 offset input hne ih => exact .of_escape hescape (ih (Outcome.map_eq_error_iff.mp h))
  | case5 offset input hne hn ih => exact .of_escape hnewline (ih (Outcome.map_eq_error_iff.mp h))
  | case6 offset c input hb hn hne =>
    cases h
    exact .invalid [] (c :: input) rfl (by simp [hb, hn])
  | case7 offset b input hb hb' ih =>
    have hplain : escape b = [b] := by rw [escape, if_neg hb', if_neg hb]
    exact .of_escape hplain (ih (Outcome.map_eq_error_iff.mp h))

/-- What spells a value is read as that value. -/
theorem readAt_spelled (offset : Nat) (value rest : Bytes) :
    readAt offset (spelled value ++ rest) =
      (readAt (offset + (spelled value).length) rest).map fun r => (value ++ r.1, r.2) := by
  induction value generalizing offset with
  | nil =>
    rw [spelled, List.flatMap_nil, List.nil_append, List.length_nil, Nat.add_zero]
    cases readAt offset rest <;> rfl
  | cons b value ih =>
    rw [spelled_cons, List.append_assoc, readAt_escape, ih, List.length_append, Nat.add_assoc]
    cases readAt (offset + ((escape b).length + (spelled value).length)) rest <;> rfl

theorem readAt_invalid (hnext : ∀ c ∈ rest.head?, c ≠ backslash ∧ c ≠ letterN) :
    readAt offset (backslash :: rest) = .error (.invalid offset) := by
  have hne : ¬ backslash = newline := by decide
  cases rest with
  | nil => simp [readAt, hne]
  | cons c rest =>
    obtain ⟨hc, hn⟩ := hnext c rfl
    simp [readAt, hne, hc, hn]

theorem FailsAt.readAt (h : FailsAt offset input fault) : readAt offset input = .error fault := by
  cases h with
  | unterminated value h =>
    rw [h, ← List.append_nil (spelled value), readAt_spelled, Escape.readAt]
    rfl
  | invalid value rest h hnext =>
    rw [h, readAt_spelled, readAt_invalid hnext]
    rfl

/-- The inputs from which no field can be read, and their faults. -/
theorem read_eq_error_iff : read input = .error fault ↔ FailsAt 0 input fault :=
  ⟨failsAt_of_readAt, FailsAt.readAt⟩

end FsGateway.Wire.Escape
