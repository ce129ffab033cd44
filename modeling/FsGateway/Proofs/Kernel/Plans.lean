import FsGateway.Kernel.Traffic
import FsGateway.Proofs.Kernel.Subject
import FsGateway.Proofs.Wire.RoundTrip

/-!
# What becomes of file calls

A file call that expects a reply is refused, or somebody is asked and every answer makes a reply.

* `Plan.exists_later`: every answer makes a reply.
* `FileCall.plan_follows`: a file call is refused for a name that is no text, and only for that.
* `Made.asks_or_refuses`: the same for a volume that may have been given up.
-/

namespace FsGateway.Kernel

open Wire (Operation Record)

/-! ## Answers and replies -/

namespace Plan

variable {p : Plan} {names : List Bytes}

/-- Somebody is asked, and the file call is answered with what they say. -/
def asks : Plan → Bool
  | ask .. | askUnsupported _ => true
  | refuse _ | tell _ | dismiss => false

theorem atOnce_of_asks (hp : p.asks = true) : p.atOnce = none := by
  cases p with
  | ask | askUnsupported => rfl
  | refuse | tell | dismiss => cases hp

/-- Every answer makes a reply. -/
theorem exists_later (hp : p.asks = true) (answer : Answer) : ∃ r, p.later answer = some r := by
  cases p with
  | refuse | tell | dismiss => cases hp
  | askUnsupported opcode => cases answer <;> exact ⟨_, rfl⟩
  | ask op payload respond =>
    cases answer with
    | error errno => exact ⟨_, rfl⟩
    | ok values =>
      simp only [later, atOnce, Option.isSome_none, Bool.false_eq_true, if_false, reply]
      split <;> exact ⟨_, rfl⟩

theorem later_of_not_asks (hp : p.asks = false) (answer : Answer) : p.later answer = none := by
  cases p with
  | refuse | tell | dismiss => rfl
  | ask | askUnsupported => cases hp

theorem later_error (hp : p.asks = true) (errno : Errno) :
    p.later (.error errno) = some (.error errno) := by
  cases p with
  | ask | askUnsupported => rfl
  | refuse | tell | dismiss => cases hp

theorem later_ask {op : Operation} {payload : op.Request} {respond : op.Response → FileReply}
    (response : op.Response) :
    (ask op payload respond).later (.ofResult (.ok response)) = some (respond response) := by
  have hread := Record.unflatten_self response
  simp [later, atOnce, reply, Answer.ofResult, Except.map, hread]

theorem exists_callback (hp : p.asks = true) (h : Header) :
    ∃ d, p.callbacks h = [⟨h, d⟩] := by
  cases p with
  | ask | askUnsupported => exact ⟨_, rfl⟩
  | refuse | tell | dismiss => cases hp

theorem eq_askUnsupported {h : Header} {opcode : String}
    (hp : p.callbacks h = [⟨h, .unsupported opcode⟩]) : p = .askUnsupported opcode := by
  cases p with
  | askUnsupported =>
    cases hp
    rfl
  | refuse | ask | dismiss => cases hp
  | tell nodes =>
    cases nodes <;> cases hp

/-- Somebody is asked if the names are texts. Otherwise the file call is refused. -/
def Follows (p : Plan) (names : List Bytes) : Prop :=
  p.asks = true ∧ (∀ name ∈ names, ∃ s, Text.decode? name = some s) ∨
    p = .refuse Errno.einval ∧ ∃ name ∈ names, Text.decode? name = none

theorem Follows.of_asks (hp : p.asks = true) : p.Follows [] := Or.inl ⟨hp, by simp⟩

theorem Follows.named {name : Bytes} {plan : String → Plan} (h : ∀ s, (plan s).Follows names) :
    (Plan.named name plan).Follows (name :: names) := by
  cases hname : Text.decode? name with
  | none =>
    refine Or.inr ⟨?_, name, List.mem_cons_self, hname⟩
    simp only [Plan.named, hname]
  | some s =>
    have hplan : Plan.named name plan = plan s := by simp only [Plan.named, hname]
    rw [hplan]
    rcases h s with ⟨hasks, htexts⟩ | ⟨hrefuse, other, hmem, hnone⟩
    · exact Or.inl ⟨hasks, List.forall_mem_cons.mpr ⟨⟨s, hname⟩, htexts⟩⟩
    · exact Or.inr ⟨hrefuse, other, List.mem_cons_of_mem _ hmem, hnone⟩

theorem Follows.asks (h : p.Follows names)
    (hnames : ∀ name ∈ names, ∃ s, Text.decode? name = some s) : p.asks = true := by
  rcases h with ⟨hasks, -⟩ | ⟨-, name, hmem, hnone⟩
  · exact hasks
  · obtain ⟨s, hs⟩ := hnames name hmem
    cases hnone.symm.trans hs

end Plan

/-- A file call expects a reply. -/
def FileCall.expectsReply : FileCall → Bool
  | .forget _ | .destroy => false
  | _ => true

theorem FileCall.plan_follows {c : FileCall} (hc : c.expectsReply = true) (clock : Clock) :
    (c.plan clock).Follows c.subject.names := by
  cases c with
  | forget | destroy => cases hc
  | setattr inode changes =>
    have hnames : (FileCall.setattr inode changes).subject.names = [] := by
      cases h : changes.handle <;> simp [FileCall.subject, h]
    rw [hnames]
    exact .of_asks rfl
  | symlink | rename => exact .named fun _ => .named fun _ => .of_asks rfl
  | lookup | mknod | mkdir | unlink | rmdir | create | link | setxattr | getxattr | removexattr =>
    exact .named fun _ => .of_asks rfl
  | _ => exact .of_asks rfl

/-! ## Volumes -/

/-- A volume that was not given up makes its plan for a file call from the call alone. -/
theorem Made.plan_of_not_destroyed {m : Made} (h : m.volume.isDestroyed = false) :
    m.plan = m.call.plan m.clock := by
  simp [Made.plan, Volume.plan, h]

theorem Made.plan_of_destroyed {m : Made} (h : m.volume.isDestroyed = true)
    (hc : m.call.expectsReply = true) : m.plan = .refuse Errno.eio := by
  have hne : m.call ≠ .destroy := by
    intro heq
    rw [heq] at hc
    cases hc
  simp [Made.plan, Volume.plan, h, hne]

theorem Made.asks_or_refuses {m : Made} (hc : m.call.expectsReply = true) :
    m.plan.asks = true ∨ ∃ errno, m.plan = .refuse errno := by
  cases hdestroyed : m.volume.isDestroyed with
  | true => exact Or.inr ⟨_, plan_of_destroyed hdestroyed hc⟩
  | false =>
    rw [plan_of_not_destroyed hdestroyed]
    rcases m.call.plan_follows hc m.clock with ⟨hasks, -⟩ | ⟨hrefuse, -⟩
    · exact Or.inl hasks
    · exact Or.inr ⟨_, hrefuse⟩

end FsGateway.Kernel
