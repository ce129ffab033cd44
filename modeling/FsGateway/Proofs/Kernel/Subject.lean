import FsGateway.Kernel.Bridge
import Mathlib.Data.Bool.AllAny

/-!
# Which file an operation is for

A file call names its files by inodes, or by a handle once a file is open, and may give names of
directory entries. The backend sees only the operation and its request. It can tell the files and the
names from them, unless attributes are changed without a handle: that request has no place for the
inode. The flags of a rename cannot be told either.

* `Subject`: the files and names of a call.
* `Demand.subject`: what the backend can tell about them.
* `subject_told_iff`: the two agree for every call but a change of attributes without a handle.
-/

namespace FsGateway.Kernel

open Wire

/-- The files that are addressed, by inode or by handle, and the names that are given. -/
@[ext] structure Subject where
  inodes : List UInt64 := []
  handles : List UInt64 := []
  names : List Bytes := []
  deriving DecidableEq

namespace Subject

/-- The files and names of several requests, one after another. -/
def join (ss : List Subject) : Subject :=
  ⟨ss.flatMap inodes, ss.flatMap handles, ss.flatMap names⟩

@[simp] theorem join_singleton (s : Subject) : join [s] = s := by simp [join]

theorem join_nodes (nodes : List (UInt64 × UInt64)) :
    join (nodes.map fun n => { inodes := [n.1] }) = { inodes := nodes.map (·.1) } := by
  induction nodes with
  | nil => rfl
  | cons n nodes ih =>
    simp only [join, mk.injEq] at ih ⊢
    simp [ih]

end Subject

/-! ## What the backend can tell -/

/-- The files and names in a request. A request to change attributes has its handle only if its bits
say so. -/
def Demand.subject : Demand → Subject
  | .operation .access (r : AccessRequest) => { inodes := [r.inode] }
  | .operation .getattr (r : GetattrRequest) => { inodes := [r.inode] }
  | .operation .setattr (r : SetattrRequest) =>
    { handles := if r.valid &&& AttributeChanges.Bit.handle = 0 then [] else [r.handle] }
  | .operation .listxattr (r : ListxattrRequest) => { inodes := [r.inode] }
  | .operation .getxattr (r : GetxattrRequest) =>
    { inodes := [r.inode], names := [Text.encode r.name] }
  | .operation .setxattr (r : SetxattrRequest) =>
    { inodes := [r.inode], names := [Text.encode r.name] }
  | .operation .removexattr (r : RemovexattrRequest) =>
    { inodes := [r.inode], names := [Text.encode r.name] }
  | .operation .lookup (r : LookupRequest) =>
    { inodes := [r.inode], names := [Text.encode r.name] }
  | .operation .openNode (r : OpenRequest) => { inodes := [r.inode] }
  | .operation .create (r : CreateRequest) =>
    { inodes := [r.inode], names := [Text.encode r.name] }
  | .operation .mkdir (r : MkdirRequest) =>
    { inodes := [r.inode], names := [Text.encode r.name] }
  | .operation .symlink (r : SymlinkRequest) =>
    { inodes := [r.inode], names := [Text.encode r.newName, Text.encode r.target] }
  | .operation .readlink (r : ReadlinkRequest) => { inodes := [r.inode] }
  | .operation .link (r : LinkRequest) =>
    { inodes := [r.oldInode, r.inode], names := [Text.encode r.newName] }
  | .operation .mknod (r : MknodRequest) =>
    { inodes := [r.inode], names := [Text.encode r.name] }
  | .operation .rename (r : RenameRequest) =>
    { inodes := [r.inode, r.newDirInode], names := [Text.encode r.oldName, Text.encode r.newName] }
  | .operation .remove (r : RemoveRequest) =>
    { inodes := [r.inode], names := [Text.encode r.name] }
  | .operation .read (r : ReadRequest) => { handles := [r.handle] }
  | .operation .write (r : WriteRequest) => { handles := [r.handle] }
  | .operation .flush (r : FlushRequest) => { handles := [r.handle] }
  | .operation .fsync (r : FsyncRequest) => { handles := [r.handle] }
  | .operation .release (r : ReleaseRequest) => { handles := [r.handle] }
  | .operation .forget (r : ForgetRequest) => { inodes := [r.inode] }
  | .operation .init _ | .operation .destroy _ | .operation .statfs _ | .operation .interrupt _
  | .unsupported _ => {}

/-! ## What a call is about -/

/-- The bridge asks the backend for an operation about certain files. It does not for a call about the
filesystem as a whole, nor for one that no operation stands for. -/
def FileCall.isForwarded : FileCall → Bool
  | .statfs _ | .ioctl _ | .fallocate _ | .destroy => false
  | _ => true

/-- The files and names of a call. A file that is open is addressed by its handle. -/
def FileCall.subject : FileCall → Subject
  | .lookup parent name | .mknod parent name .. | .mkdir parent name .. | .unlink parent name
  | .rmdir parent name | .create parent name .. => { inodes := [parent], names := [name] }
  | .forget nodes => { inodes := nodes.map (·.1) }
  | .getattr inode | .readlink inode | .openFile inode _ | .openDirectory inode _ | .statfs inode
  | .access inode _ | .listxattr inode _ | .ioctl inode | .fallocate inode => { inodes := [inode] }
  | .setattr inode changes =>
    match changes.handle with
    | some handle => { handles := [handle] }
    | none => { inodes := [inode] }
  | .symlink parent name target => { inodes := [parent], names := [name, target] }
  | .rename parent name newParent newName _ =>
    { inodes := [parent, newParent], names := [name, newName] }
  | .link inode newParent newName => { inodes := [inode, newParent], names := [newName] }
  | .read _ handle .. | .readDirectory _ handle .. | .write _ handle .. | .flush _ handle _
  | .release _ handle .. | .releaseDirectory _ handle _ | .sync _ handle _
  | .syncDirectory _ handle _ => { handles := [handle] }
  | .setxattr inode name .. | .getxattr inode name _ | .removexattr inode name =>
    { inodes := [inode], names := [name] }
  | .destroy => {}

/-- All names of a call are texts. -/
def FileCall.HasTextNames (c : FileCall) : Prop :=
  ∀ name ∈ c.subject.names, ∃ s, Text.decode? name = some s

/-- Two calls come through the same callback. -/
def FileCall.SameForm (c c' : FileCall) : Prop := c.ctorIdx = c'.ctorIdx

/-- Attributes are changed without a handle. -/
def FileCall.isUnaddressed : FileCall → Bool
  | .setattr _ changes => changes.handle.isNone
  | _ => false

/-- What a bridge submits for a call, by the clock: operations with their requests. -/
def Bridge.submitted (b : Bridge) (clock : Clock) (h : Header) (c : FileCall) : List Demand :=
  (b.callbacks h (c.plan clock)).map (·.demand)

/-- What is submitted for a call to a volume. -/
def Volume.submitted (v : Volume) (clock : Clock) (h : Header) (c : FileCall) : List Demand :=
  (v.bridge.callbacks h (v.plan clock c)).map (·.demand)

/-- A volume leaves it to its bridge what is submitted, unless it was given up. -/
theorem Volume.submitted_eq (v : Volume) (clock : Clock) (h : Header) (c : FileCall) :
    v.submitted clock h c =
      if v.isDestroyed && c ≠ .destroy then [] else v.bridge.submitted clock h c := by
  rw [Volume.submitted, Volume.plan]
  split
  · simp [Bridge.callbacks, Plan.callbacks]
  · rfl

/-! ## The bits of a request that changes attributes -/

namespace AttributeChanges

variable {α : Type}

theorem bit_and (b m : UInt32) (o : Option α) :
    bit b o &&& m = if o.isSome then b &&& m else 0 := by
  unfold bit
  split
  · rfl
  · exact UInt32.zero_and

theorem nowBit_and (b m : UInt32) (o : Option TimeChoice) :
    nowBit b o &&& m = if o = some .now then b &&& m else 0 := by
  unfold nowBit
  split
  · rfl
  · exact UInt32.zero_and

theorem or_and (a b m : UInt32) : (a ||| b) &&& m = a &&& m ||| b &&& m := by
  apply UInt32.toBitVec_inj.mp
  exact BitVec.and_or_distrib_right

/-- Of the bits, only that of the handle says whether a handle is given. -/
theorem valid_and_handle (c : AttributeChanges) :
    c.valid &&& Bit.handle = if c.handle.isSome then Bit.handle else 0 := by
  have hothers : ∀ b ∈ [Bit.mode, Bit.uid, Bit.gid, Bit.size, Bit.atime, Bit.mtime, Bit.atimeNow,
      Bit.mtimeNow, Bit.crtime, Bit.chgtime, Bit.bkuptime, Bit.flags], b &&& Bit.handle = 0 :=
    List.all_iff_forall_prop.mp (by decide)
  simp only [List.forall_mem_cons] at hothers
  simp [valid, or_and, bit_and, nowBit_and, hothers]

theorem subject_request (clock : Clock) (c : AttributeChanges) :
    Demand.subject (.operation .setattr (c.request clock)) = { handles := c.handle.toList } := by
  have hvalid := c.valid_and_handle
  have hbit : Bit.handle ≠ 0 := by decide
  cases hhandle : c.handle with
  | none => simp_all [Demand.subject, request]
  | some handle => simp_all [Demand.subject, request]

end AttributeChanges

/-! ## Calls that are forwarded -/

variable {c c' : FileCall} {clock clock' : Clock} {h h' : Header}

@[simp] theorem Plan.named_encode (s : String) (plan : String → Plan) :
    Plan.named (Text.encode s) plan = plan s := by
  rw [Plan.named, Text.decode_encode]

theorem FileCall.HasTextNames.exists_text (hc : c.HasTextNames) {name : Bytes}
    (hname : name ∈ c.subject.names) : ∃ s, name = Text.encode s := by
  obtain ⟨s, hs⟩ := hc name hname
  exact ⟨s, Text.decode_eq_some_iff.mp hs⟩

theorem submitted_start (clock : Clock) (h : Header) (c : FileCall) :
    Bridge.start.submitted clock h c = ((c.plan clock).callbacks h).map (·.demand) := rfl

/-- The backend can tell the files and names of a call, or it is told nothing about them. -/
theorem subject_submitted (hc : c.isForwarded = true) (hnames : c.HasTextNames)
    (clock : Clock) (h : Header) :
    Subject.join ((Bridge.start.submitted clock h c).map Demand.subject) =
      if c.isUnaddressed then {} else c.subject := by
  rw [submitted_start]
  cases c with
  | setattr inode changes =>
    have hrequest := changes.subject_request clock
    cases hhandle : changes.handle <;>
      simp_all [FileCall.plan, Plan.callbacks, FileCall.isUnaddressed, FileCall.subject]
  | forget nodes =>
    simp only [FileCall.plan, Plan.callbacks, List.map_map]
    exact Subject.join_nodes nodes
  | symlink _ name target | rename _ name _ target _ =>
    obtain ⟨s, rfl⟩ := hnames.exists_text List.mem_cons_self
    obtain ⟨t, rfl⟩ := hnames.exists_text (List.mem_cons_of_mem _ List.mem_cons_self)
    simp [FileCall.plan, Plan.callbacks, FileCall.isUnaddressed, FileCall.subject, Demand.subject]
  | lookup _ name | mknod _ name | mkdir _ name | unlink _ name | rmdir _ name | create _ name
  | link _ _ name | setxattr _ name | getxattr _ name | removexattr _ name =>
    obtain ⟨s, rfl⟩ := hnames.exists_text List.mem_cons_self
    simp [FileCall.plan, Plan.callbacks, FileCall.isUnaddressed, FileCall.subject, Demand.subject]
  | statfs | ioctl | fallocate | destroy => cases hc
  | _ =>
    simp [FileCall.plan, Plan.callbacks, FileCall.isUnaddressed, FileCall.subject, Demand.subject]

theorem isUnaddressed_iff :
    c.isUnaddressed = true ↔ ∃ inode changes, c = .setattr inode changes ∧ changes.handle = none := by
  constructor
  · intro hc
    cases c with
    | setattr inode changes => exact ⟨inode, changes, rfl, Option.isNone_iff_eq_none.mp hc⟩
    | _ => cases hc
  · rintro ⟨inode, changes, rfl, hnone⟩
    exact Option.isNone_iff_eq_none.mpr hnone

theorem isForwarded_of_sameForm (h : c'.SameForm c) : c'.isForwarded = c.isForwarded := by
  cases c' <;> cases c <;> first | rfl | cases h

/-- A change of attributes with a handle is not submitted like one without. -/
theorem isUnaddressed_of_submitted (hform : c'.SameForm c) (hc : c.isUnaddressed = true)
    (hsame : Bridge.start.submitted clock' h' c' = Bridge.start.submitted clock h c) :
    c'.isUnaddressed = true := by
  obtain ⟨inode, changes, rfl, hnone⟩ := isUnaddressed_iff.mp hc
  cases c' with
  | setattr inode' changes' =>
    have htold := congrArg (fun ds => Subject.join (ds.map Demand.subject)) hsame
    simp only [submitted_start, FileCall.plan, Plan.callbacks, List.map_cons, List.map_nil,
      Subject.join_singleton, AttributeChanges.subject_request, Subject.mk.injEq, hnone] at htold
    have hnone' : changes'.handle = none := by simpa using htold.2.1
    exact isUnaddressed_iff.mpr ⟨inode', changes', rfl, hnone'⟩
  | _ => cases hform

theorem submitted_setattr (inode inode' : UInt64) (changes : AttributeChanges) :
    Bridge.start.submitted clock h (.setattr inode changes) =
      Bridge.start.submitted clock h (.setattr inode' changes) := rfl

theorem submitted_rename (parent : UInt64) (name : Bytes) (newParent : UInt64) (newName : Bytes)
    (flags flags' : UInt32) :
    Bridge.start.submitted clock h (.rename parent name newParent newName flags) =
      Bridge.start.submitted clock h (.rename parent name newParent newName flags') := rfl

/-- The files and names of a call can be told from what is submitted for it, among all calls of its
form, exactly where it is no change of attributes without a handle. The inode of a change of
attributes makes no difference to what is submitted, and neither do the flags of a rename. -/
theorem subject_told_iff (hc : c.isForwarded = true) (hnames : c.HasTextNames) (clock : Clock)
    (h : Header) :
    ((∀ c' clock' h', c'.SameForm c → c'.HasTextNames →
        Bridge.start.submitted clock' h' c' = Bridge.start.submitted clock h c →
          c'.subject = c.subject) ↔ c.isUnaddressed = false) ∧
      (∀ inode inode' changes, c = .setattr inode changes →
        Bridge.start.submitted clock h (.setattr inode' changes) =
          Bridge.start.submitted clock h c) ∧
      ∀ parent name newParent newName flags flags',
        c = .rename parent name newParent newName flags →
          Bridge.start.submitted clock h (.rename parent name newParent newName flags') =
            Bridge.start.submitted clock h c := by
  refine ⟨⟨?_, ?_⟩, ?_, ?_⟩
  · intro htold
    cases haddressed : c.isUnaddressed with
    | false => rfl
    | true =>
      -- another inode is told apart from this one by nothing
      obtain ⟨inode, changes, rfl, hnone⟩ := isUnaddressed_iff.mp haddressed
      have hnames' : (FileCall.setattr (inode + 1) changes).HasTextNames := by
        simp [FileCall.HasTextNames, FileCall.subject, hnone]
      have hsubject := htold (.setattr (inode + 1) changes) clock h rfl hnames' rfl
      simp [FileCall.subject, hnone] at hsubject
  · intro haddressed c' clock' h' hform hnames' hsame
    have haddressed' : c'.isUnaddressed = false := by
      cases hnot : c'.isUnaddressed with
      | false => rfl
      | true =>
        cases (isUnaddressed_of_submitted (Eq.symm hform) hnot hsame.symm).symm.trans haddressed
    have hc' : c'.isForwarded = true := (isForwarded_of_sameForm hform).trans hc
    have htold := subject_submitted hc hnames clock h
    have htold' := subject_submitted hc' hnames' clock' h'
    rw [haddressed] at htold
    rw [haddressed', hsame] at htold'
    exact htold'.symm.trans htold
  · rintro inode inode' changes rfl
    exact submitted_setattr inode' inode changes
  · rintro parent name newParent newName flags flags' rfl
    exact submitted_rename parent name newParent newName flags' flags

/-- A file is renamed in place of another one, which is to take its name. -/
def sampleExchange : FileCall := .rename 1 (Text.encode "a") 2 (Text.encode "b") 2

theorem subject_told_exchange : sampleExchange.isForwarded = true ∧ sampleExchange.HasTextNames ∧
    (∀ c' clock' h', c'.SameForm sampleExchange → c'.HasTextNames →
      Bridge.start.submitted clock' h' c' =
        Bridge.start.submitted (.still ⟨0⟩) .none sampleExchange → c'.subject = sampleExchange.subject) ∧
    Bridge.start.submitted (.still ⟨0⟩) .none (.rename 1 (Text.encode "a") 2 (Text.encode "b") 0) =
      Bridge.start.submitted (.still ⟨0⟩) .none sampleExchange := by
  have hnames : sampleExchange.HasTextNames := by
    intro name hname
    rcases List.mem_cons.mp hname with rfl | hname
    · exact ⟨"a", Text.decode_encode "a"⟩
    · rw [List.mem_singleton.mp hname]
      exact ⟨"b", Text.decode_encode "b"⟩
  obtain ⟨htold, -, hrename⟩ := subject_told_iff rfl hnames (.still ⟨0⟩) .none
  exact ⟨rfl, hnames, htold.mpr rfl, hrename 1 _ 2 _ 2 0 rfl⟩

/-- The flags of a call that renames. -/
def FileCall.renameFlags : FileCall → Option UInt32
  | .rename _ _ _ _ flags => some flags
  | _ => none

/-- Calls of one form that differ in their files, their names or the flags of a rename are submitted
differently, or nothing is submitted for one of them. -/
def SubmittedApart : Prop :=
  ∀ (c c' : FileCall) clock clock' h h', c.SameForm c' → c.isForwarded = true →
    c.HasTextNames → c'.HasTextNames → (c.subject ≠ c'.subject ∨ c.renameFlags ≠ c'.renameFlags) →
      Bridge.start.submitted clock h c ≠ Bridge.start.submitted clock' h' c' ∨
        Bridge.start.submitted clock h c = [] ∨ Bridge.start.submitted clock' h' c' = []

/-- The permissions of a file are changed. -/
def sampleChmod (inode : UInt64) : FileCall :=
  .setattr inode ⟨some 0o644, none, none, none, none, none, none, none, none, none, none, none⟩

/-- Two files whose permissions are changed are not told apart. -/
theorem not_submittedApart : ¬ SubmittedApart := by
  intro hapart
  have hnames : ∀ inode, (sampleChmod inode).HasTextNames := by
    intro inode name hname
    cases hname
  have hsubject : (sampleChmod 2).subject ≠ (sampleChmod 3).subject := by decide
  rcases hapart (sampleChmod 2) (sampleChmod 3) (.still ⟨0⟩) (.still ⟨0⟩) .none .none rfl rfl
    (hnames 2) (hnames 3) (Or.inl hsubject) with hne | hnil | hnil
  · exact hne rfl
  · cases hnil
  · cases hnil

end FsGateway.Kernel
