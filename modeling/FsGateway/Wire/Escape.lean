import FsGateway.Bytes

/-!
# Escaped fields

When a payload has several fields of varying length, each is written with a backslash before every
backslash, a backslash and the letter n for every newline, and one newline at its end.

* `read_write`: reading a written field gives the field and what follows it.
-/

namespace FsGateway.Wire.Escape

/-- The backslash. -/
def backslash : UInt8 := 0x5C

/-- The newline. -/
def newline : UInt8 := 0x0A

/-- The letter that stands for a newline after a backslash. -/
def letterN : UInt8 := 0x6E

/-- Why no field can be read. -/
inductive Fault
  /-- The input ends before a newline. -/
  | unterminated
  /-- A backslash at this offset is followed neither by a backslash nor by the letter n. -/
  | invalid (offset : Nat)
  deriving DecidableEq, Repr

/-- One byte, escaped. -/
def escape (b : UInt8) : Bytes :=
  if b = backslash then [backslash, backslash]
  else if b = newline then [backslash, letterN]
  else [b]

/-- A field, escaped and terminated. -/
def write (value : Bytes) : Bytes := value.flatMap escape ++ [newline]

/-- The field at the start of the input, which begins at `offset`, and the bytes after it. -/
def readAt (offset : Nat) : Bytes → Except Fault (Bytes × Bytes)
  | [] => .error .unterminated
  | b :: rest =>
    if b = newline then .ok ([], rest)
    else if b = backslash then
      match rest with
      | [] => .error (.invalid offset)
      | c :: rest =>
        if c = backslash then (readAt (offset + 2) rest).map fun r => (backslash :: r.1, r.2)
        else if c = letterN then (readAt (offset + 2) rest).map fun r => (newline :: r.1, r.2)
        else .error (.invalid offset)
    else (readAt (offset + 1) rest).map fun r => (b :: r.1, r.2)

/-- The field at the start of the input and the bytes after it. -/
def read (input : Bytes) : Except Fault (Bytes × Bytes) := readAt 0 input

/-- At most so many fields one after another, each with the number of bytes that it takes, and the
fault of the last one, if it cannot be read. The last field ends the input, and there is one. -/
def readUpTo : (count : Nat) → Bytes → List (Bytes × Nat) × Option Fault
  | 0, _ => ([], none)
  | count + 1, input =>
    match read input with
    | .error fault => ([], some fault)
    | .ok (value, rest) =>
      let one := (value, input.length - rest.length)
      if rest.isEmpty then ([one], none)
      else
        let (more, fault) := readUpTo count rest
        (one :: more, fault)

/-- The fields that make up an input, and the fault of the one that cannot be read. -/
def readAll (input : Bytes) : List (Bytes × Nat) × Option Fault :=
  readUpTo (input.length + 1) input

theorem readAt_newline (offset : Nat) (rest : Bytes) :
    readAt offset (newline :: rest) = .ok ([], rest) := by
  unfold readAt
  simp

theorem readAt_escape (offset : Nat) (b : UInt8) (rest : Bytes) :
    readAt offset (escape b ++ rest)
      = (readAt (offset + (escape b).length) rest).map fun r => (b :: r.1, r.2) := by
  have hne : ¬ backslash = newline := by decide
  have hn : ¬ letterN = backslash := by decide
  unfold escape
  split
  · next h =>
    rw [List.cons_append, List.cons_append, readAt.eq_def]
    simp [h, hne]
  · split
    · next h =>
      rw [List.cons_append, List.cons_append, readAt.eq_def]
      simp [h, hne, hn]
    · next h h' =>
      rw [List.cons_append, readAt.eq_def]
      simp [h, h']

theorem readAt_write (offset : Nat) (value rest : Bytes) :
    readAt offset (write value ++ rest) = .ok (value, rest) := by
  induction value generalizing offset with
  | nil => exact readAt_newline offset rest
  | cons b value ih =>
    have h : write (b :: value) ++ rest = escape b ++ (write value ++ rest) := by
      simp [write, List.flatMap_cons]
    rw [h, readAt_escape, ih]
    rfl

theorem read_write (value rest : Bytes) : read (write value ++ rest) = .ok (value, rest) :=
  readAt_write 0 value rest

end FsGateway.Wire.Escape
