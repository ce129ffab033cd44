import FsGateway.Proofs.Kernel.Subject
import FsGateway.Proofs.Kernel.Timestamp
import Mathlib

/-!
# What a request to change attributes says

A request to change attributes has a word of bits beside a field for each attribute. A bit marks the
attributes that are given, or says that a time is to be the present. No two marks share a bit, so
the changes can be read from the request again, but for times that do not fit in a word.

* `testBit_valid_iff`: the bits of the word.
* `ofRequest_of_isSaid`: the changes that are read from a request.
* `setattr_tells_changes`: all of it for what a bridge submits.
-/

namespace FsGateway.Kernel

open Wire

/-! ## Times -/

/-- A timestamp kept within the words of 64 bits. -/
def Timestamp.clamped (t : Timestamp) : Timestamp :=
  ⟨max Int64.minValue.toInt (min t.sinceEpoch Int64.maxValue.toInt)⟩

namespace TimeChoice

/-- The timestamp that is chosen, where the clock shows the present. -/
def instant (present : Timestamp) : TimeChoice → Timestamp
  | now => present
  | specific time => time

/-- A choice whose timestamp is kept within the words of 64 bits. -/
def clamped : TimeChoice → TimeChoice
  | now => now
  | specific time => specific time.clamped

end TimeChoice

namespace AttributeChanges

/-! ## Marks -/

/-- What a bit can say: that an attribute is given, or that a time is to be the present. -/
inductive Mark
  | mode | uid | gid | size | atime | mtime | handle | atimeNow | mtimeNow
  | crtime | chgtime | bkuptime | flags
  deriving DecidableEq, Repr

/-- The position of a mark in the word of bits, counted from the least one. -/
def Mark.position : Mark → Nat
  | mode => 0
  | uid => 1
  | gid => 2
  | size => 3
  | atime => 4
  | mtime => 5
  | handle => 6
  | atimeNow => 7
  | mtimeNow => 8
  | crtime => 28
  | chgtime => 29
  | bkuptime => 30
  | flags => 31

/-- Whether changes call for a mark. -/
def Mark.isDue (c : AttributeChanges) : Mark → Bool
  | mode => c.mode.isSome
  | uid => c.uid.isSome
  | gid => c.gid.isSome
  | size => c.size.isSome
  | atime => c.atime.isSome
  | mtime => c.mtime.isSome
  | handle => c.handle.isSome
  | atimeNow => c.atime = some .now
  | mtimeNow => c.mtime = some .now
  | crtime => c.crtime.isSome
  | chgtime => c.chgtime.isSome
  | bkuptime => c.bkuptime.isSome
  | flags => c.flags.isSome

/-- No two marks share a position. -/
theorem Mark.position_injective {k k' : Mark} (h : k.position = k'.position) : k = k' := by
  cases k <;> cases k' <;> first | rfl | cases h

/-- The bit of a mark. -/
def Mark.bit : Mark → UInt32
  | mode => Bit.mode
  | uid => Bit.uid
  | gid => Bit.gid
  | size => Bit.size
  | atime => Bit.atime
  | mtime => Bit.mtime
  | handle => Bit.handle
  | atimeNow => Bit.atimeNow
  | mtimeNow => Bit.mtimeNow
  | crtime => Bit.crtime
  | chgtime => Bit.chgtime
  | bkuptime => Bit.bkuptime
  | flags => Bit.flags

theorem Mark.toNat_bit (k : Mark) : k.bit.toNat = 2 ^ k.position := by cases k <;> rfl

/-- All marks, in the order in which they are looked at. -/
def Mark.all : List Mark :=
  [mode, uid, gid, size, atime, atimeNow, mtime, mtimeNow, handle, crtime, chgtime, bkuptime, flags]

theorem Mark.mem_all (k : Mark) : k ∈ all := by cases k <;> decide

/-- The bits of those of some marks that changes call for. -/
def markedBy (c : AttributeChanges) : List Mark → UInt32
  | [] => 0
  | k :: ks => (if k.isDue c then k.bit else 0) ||| markedBy c ks

theorem nowBit_eq (b : UInt32) (o : Option TimeChoice) :
    nowBit b o = if decide (o = some .now) then b else 0 := by
  by_cases h : o = some .now <;> simp [nowBit, h]

theorem valid_eq_markedBy (c : AttributeChanges) : c.valid = c.markedBy Mark.all := by
  simp only [valid, bit, nowBit_eq, markedBy, Mark.all, Mark.isDue, Mark.bit, UInt32.or_assoc,
    UInt32.or_zero]
  rfl

theorem testBit_markedBy_iff {i : Nat} (c : AttributeChanges) (ks : List Mark) :
    (c.markedBy ks).toNat.testBit i = true ↔ ∃ k ∈ ks, k.position = i ∧ k.isDue c = true := by
  induction ks with
  | nil => simp [markedBy]
  | cons k ks ih =>
    simp only [markedBy, UInt32.toNat_or, Nat.testBit_or, Bool.or_eq_true, ih, List.mem_cons,
      exists_eq_or_imp]
    refine or_congr_left ?_
    split
    · rename_i hdue
      rw [k.toNat_bit, Nat.testBit_two_pow, decide_eq_true_iff]
      exact (and_iff_left hdue).symm
    · rename_i hdue
      exact iff_of_false (by simp) fun h => hdue h.2

/-- A bit is set exactly if it is that of a mark that the changes call for. -/
theorem testBit_valid_iff {i : Nat} (c : AttributeChanges) :
    c.valid.toNat.testBit i = true ↔ ∃ k : Mark, k.position = i ∧ k.isDue c = true := by
  simp only [valid_eq_markedBy, testBit_markedBy_iff, Mark.mem_all, true_and]

/-! ## Fields -/

/-- A word stands for a timestamp as far as it can, or is 0 if there is none. -/
def HoldsTime (o : Option Timestamp) (w : Int64) : Prop :=
  w.toInt = match o with
    | none => 0
    | some t => t.clamped.sinceEpoch

theorem holdsTime_givenNs (o : Option Timestamp) : HoldsTime o (givenNs o) := by
  cases o with
  | none => rfl
  | some t => exact t.toInt_toNs

theorem holdsTime_timeNs (present : Timestamp) (o : Option TimeChoice) :
    HoldsTime (o.map (TimeChoice.instant present)) ((o.map (timeNs present)).getD 0) := by
  cases o with
  | none => rfl
  | some choice => cases choice <;> exact Timestamp.toInt_toNs _

/-- A request says what changes there are, by the clock. -/
structure IsSaid (clock : Clock) (c : AttributeChanges) (r : SetattrRequest) : Prop where
  bits : ∀ i, r.valid.toNat.testBit i = true ↔ ∃ k : Mark, k.position = i ∧ k.isDue c = true
  mode : r.mode = c.mode.getD 0
  uid : r.uid = c.uid.getD 0
  gid : r.gid = c.gid.getD 0
  size : r.size = c.size.getD 0
  handle : r.handle = c.handle.getD 0
  flags : r.flags = c.flags.getD 0
  atime : HoldsTime (c.atime.map (TimeChoice.instant clock.atime)) r.atimeNs
  mtime : HoldsTime (c.mtime.map (TimeChoice.instant clock.mtime)) r.mtimeNs
  crtime : HoldsTime c.crtime r.crtimeNs
  chgtime : HoldsTime c.chgtime r.chgtimeNs
  bkuptime : HoldsTime c.bkuptime r.bkuptimeNs

theorem isSaid_request (clock : Clock) (c : AttributeChanges) :
    c.IsSaid clock (c.request clock) where
  bits _ := c.testBit_valid_iff
  mode := rfl
  uid := rfl
  gid := rfl
  size := rfl
  handle := rfl
  flags := rfl
  atime := holdsTime_timeNs clock.atime c.atime
  mtime := holdsTime_timeNs clock.mtime c.mtime
  crtime := holdsTime_givenNs c.crtime
  chgtime := holdsTime_givenNs c.chgtime
  bkuptime := holdsTime_givenNs c.bkuptime

/-! ## Reading the changes -/

/-- What a request says under a mark, if it has the mark. -/
def under {α : Type} (r : SetattrRequest) (k : Mark) (x : α) : Option α :=
  if r.valid.toNat.testBit k.position then some x else none

/-- The time that a word of a request stands for, unless a mark says that it is the present. -/
def choiceOf (r : SetattrRequest) (k : Mark) (w : Int64) : TimeChoice :=
  if r.valid.toNat.testBit k.position then .now else .specific (.ofNs w)

/-- The changes that a request says. -/
def ofRequest (r : SetattrRequest) : AttributeChanges where
  mode := under r .mode r.mode
  uid := under r .uid r.uid
  gid := under r .gid r.gid
  size := under r .size r.size
  atime := under r .atime (choiceOf r .atimeNow r.atimeNs)
  mtime := under r .mtime (choiceOf r .mtimeNow r.mtimeNs)
  ctime := none
  handle := under r .handle r.handle
  crtime := under r .crtime (.ofNs r.crtimeNs)
  chgtime := under r .chgtime (.ofNs r.chgtimeNs)
  bkuptime := under r .bkuptime (.ofNs r.bkuptimeNs)
  flags := under r .flags r.flags

/-- The changes as far as a request can say them: times are kept within the words, and there is no
place for the time of the last change. -/
def told (c : AttributeChanges) : AttributeChanges :=
  { c with
    atime := c.atime.map TimeChoice.clamped
    mtime := c.mtime.map TimeChoice.clamped
    ctime := none
    crtime := c.crtime.map Timestamp.clamped
    chgtime := c.chgtime.map Timestamp.clamped
    bkuptime := c.bkuptime.map Timestamp.clamped }

section

variable {α : Type} {clock : Clock} {c : AttributeChanges} {r : SetattrRequest}

theorem IsSaid.testBit (h : c.IsSaid clock r) (k : Mark) :
    r.valid.toNat.testBit k.position = k.isDue c := by
  rw [Bool.eq_iff_iff, h.bits]
  constructor
  · rintro ⟨k', hposition, hdue⟩
    rwa [← Mark.position_injective hposition]
  · exact fun hdue => ⟨k, rfl, hdue⟩

/-- An attribute is got back from its field. -/
theorem IsSaid.under_eq (h : c.IsSaid clock r) {k : Mark} {o : Option α} {x : α}
    (hdue : k.isDue c = o.isSome) (hx : ∀ a, o = some a → x = a) : under r k x = o := by
  rw [under, h.testBit k, hdue]
  cases o with
  | none => rfl
  | some a => rw [hx a rfl]; rfl

theorem ofNs_of_holdsTime {o : Option Timestamp} {w : Int64} (h : HoldsTime o w) {t : Timestamp}
    (ht : o = some t) : Timestamp.ofNs w = t.clamped := by
  subst ht
  rw [HoldsTime] at h
  rw [Timestamp.ofNs, h]

/-- A choice of a time is got back from its word and its mark. -/
theorem IsSaid.choiceOf_eq (h : c.IsSaid clock r) {k : Mark} {o : Option TimeChoice} {w : Int64}
    (hdue : k.isDue c = decide (o = some .now))
    {present : Timestamp} (hw : HoldsTime (o.map (TimeChoice.instant present)) w)
    {choice : TimeChoice} (hchoice : o = some choice) : choiceOf r k w = choice.clamped := by
  rw [choiceOf, h.testBit k, hdue, hchoice]
  cases choice with
  | now => rfl
  | specific t =>
    subst hchoice
    rw [ofNs_of_holdsTime hw rfl]
    rfl

/-- The changes are read from a request that says them, as far as a request can. -/
theorem ofRequest_of_isSaid (h : c.IsSaid clock r) : ofRequest r = c.told := by
  have hmap {α : Type} {o : Option α} {f : α → α} {k : Mark} {x : α}
      (hdue : k.isDue c = o.isSome) (hx : ∀ a, o = some a → x = f a) :
      under r k x = o.map f := by
    refine h.under_eq (by rw [hdue, Option.isSome_map]) fun b hb => ?_
    obtain ⟨a, ha, rfl⟩ := Option.map_eq_some_iff.mp hb
    exact hx a ha
  have hfield {α : Type} {o : Option α} {x default : α} (hx : x = o.getD default) :
      ∀ a, o = some a → x = a := by
    rintro a rfl
    exact hx
  simp only [ofRequest, told]
  congr 1
  · exact h.under_eq rfl (hfield h.mode)
  · exact h.under_eq rfl (hfield h.uid)
  · exact h.under_eq rfl (hfield h.gid)
  · exact h.under_eq rfl (hfield h.size)
  · exact hmap rfl fun _ => h.choiceOf_eq rfl h.atime
  · exact hmap rfl fun _ => h.choiceOf_eq rfl h.mtime
  · exact h.under_eq rfl (hfield h.handle)
  · exact hmap rfl fun _ => ofNs_of_holdsTime h.crtime
  · exact hmap rfl fun _ => ofNs_of_holdsTime h.chgtime
  · exact hmap rfl fun _ => ofNs_of_holdsTime h.bkuptime
  · exact h.under_eq rfl (hfield h.flags)

end

/-- What a bridge submits to change attributes says which of them are given and what they are, by
one bit for each, one more where a time is to be the present, and no other bit. All of them can be
read from it again, but for times that do not fit in a word. For a call to a volume the same is
submitted, unless the volume was given up. -/
theorem setattr_tells_changes (clock : Clock) (h : Header) (inode : UInt64) (c : AttributeChanges) :
    ∃ r : SetattrRequest,
      (∀ b : Bridge, b.submitted clock h (.setattr inode c) =
        if b.isOpen then [.operation .setattr r] else []) ∧
      (∀ v : Volume, v.submitted clock h (.setattr inode c) =
        if v.bridge.isOpen && !v.isDestroyed then [.operation .setattr r] else []) ∧
      c.IsSaid clock r ∧ ofRequest r = c.told := by
  have hsaid := c.isSaid_request clock
  have hbridge : ∀ b : Bridge, b.submitted clock h (.setattr inode c) =
      if b.isOpen then [.operation .setattr (c.request clock)] else [] := by
    intro b
    cases hopen : b.isOpen <;> simp [Bridge.submitted, Bridge.callbacks, hopen, FileCall.plan,
      Plan.callbacks]
  refine ⟨c.request clock, hbridge, fun v => ?_, hsaid, ofRequest_of_isSaid hsaid⟩
  rw [v.submitted_eq, hbridge]
  cases v.isDestroyed <;> simp

end AttributeChanges

end FsGateway.Kernel
