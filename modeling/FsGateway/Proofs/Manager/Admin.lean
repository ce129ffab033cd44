import FsGateway.Gateway.Admin
import FsGateway.Proofs.Manager.Ownership
import FsGateway.Proofs.Mount.Contents

/-!
# Replies to calls that fail

A call of the admin interface that changes the mounts is turned away at once, or it becomes an
operation of the manager, whose result makes the reply. A failed operation is reported by a problem
body. A call that is turned away has no such body, and this befalls the bodies that are not what the
call takes.

* `Reply.Reports`: what a caller reads in the body of a reply.
* `Requests`, `Mutation.Takes`: what bodies request, and which of them a call takes.
* `asks_ofRequest`: what becomes of a body.
* `Answers`: how a manager comes to answer a call.
* `failed_call_reported_iff`: the failed calls whose reply has a problem body.
* `not_failuresReported`: a failed call whose reply has none.
-/

namespace FsGateway.Gateway.Admin

open Mount (Path Descriptor Fault FileSystem Files Problem)
open Json (Node)

/-! ## Problem bodies -/

/-- The members of a problem body. -/
def problemSchema : Json.Schema Json.DocumentType :=
  .field "title" .text none <| .field "status" .i32 none <| .field "detail" .text none <|
  .field "errno" .i32 none .done

theorem problemSchema_distinct : problemSchema.Distinct := by
  decide

namespace Reply

/-- A reply reports a problem under its own status: its body is a JSON document in which a caller
reads the problem. -/
structure Reports (r : Reply) (p : Problem) : Prop where
  status : p.status = r.status
  body : ∃ (n : Node) (status : Int32), r.body = some n ∧ status.toInt = p.status ∧
    Json.readDocument problemSchema.ofNode n.print = .ok (p.title, status, p.detail, p.errno, ())

/-- A reply reports a problem with a positive error number. -/
def HasProblem (r : Reply) : Prop := ∃ p, r.Reports p ∧ 0 < p.errno

/-- The status of a reply says that the call has succeeded. -/
def IsSuccess (r : Reply) : Prop := 200 ≤ r.status ∧ r.status ≤ 299

theorem not_hasProblem_of_empty (status : Nat) : ¬HasProblem ⟨status, none⟩ := by
  rintro ⟨p, ⟨-, n, -, hbody, -⟩, -⟩
  cases hbody

end Reply

theorem errno_pos (f : Fault) : 0 < f.errno := by
  cases f <;> rw [Fault.errno] <;> decide

/-- The status of a fault as a caller reads it. -/
theorem toInt_status (f : Fault) : (Int32.ofNat f.status).toInt = f.status := by
  cases f <;> rfl

theorem toNode_problem (f : Fault) : (Problem.ofFault f).toNode =
    problemSchema.toNode (f.title, Int32.ofNat f.status, f.message, f.errno, ()) := by
  change Node.object [_, (_, .number (Json.Number.intLexeme f.status)), _, _] true =
    .object [_, (_, .number (Json.Number.intLexeme (Int32.ofNat f.status).toInt)), _, _] true
  rw [toInt_status]
  rfl

/-- The reply for a fault reports it. -/
theorem ofFault_reports (f : Fault) : (Reply.ofFault f).Reports (Problem.ofFault f) where
  status := rfl
  body := by
    refine ⟨_, Int32.ofNat f.status, rfl, toInt_status f, ?_⟩
    rw [toNode_problem]
    exact Json.readDocument_print (problemSchema.toNode_spelled _)
      (problemSchema.ofNode_toNode problemSchema_distinct _)

/-- An operation that has not succeeded has failed with a fault, which its reply reports. -/
theorem ofResult_hasProblem {result : Except Fault Done}
    (h : ¬(Reply.ofResult result).IsSuccess) : (Reply.ofResult result).HasProblem := by
  cases result with
  | ok done => exact absurd ⟨Nat.le_refl 200, Nat.le_add_right 200 99⟩ h
  | error fault => exact ⟨_, ofFault_reports fault, errno_pos fault⟩

/-! ## Calls -/

/-- A call that changes the mounts. -/
inductive Mutation
  | mount | unmount

namespace Mutation

/-- The path of a call. -/
def path : Mutation → String
  | mount => "/v1/mount"
  | unmount => "/v1/unmount"

end Mutation

/-- A body requests something of a call: it is a JSON document of a descriptor that is to be
mounted, or of a record with the mount point that is to be unmounted. -/
inductive Requests (body : Bytes) : Mutation → Action → Prop
  | mount {n : Node} {d : Descriptor} : Node.DocumentOf n body → Descriptor.StandsFor n d →
      Requests body .mount (.mount d)
  | unmount {n : Node} {p : Path} : Node.DocumentOf n body → unmountSchema.Stands n (p.text, ()) →
      Requests body .unmount (.unmount p)

/-- A body is what a call takes: it is not too long, and it requests something. -/
structure Mutation.Takes (c : Mutation) (body : Bytes) : Prop where
  fits : body.length ≤ bodyLimit
  requests : ∃ a, Requests body c a

/-- The statuses for a body that is not what a call takes. -/
def refusals (body : Bytes) : List Nat := if bodyLimit < body.length then [413] else [400, 422]

/-- What becomes of a body: what it requests is asked for if it is not too long, or else the call is
turned away. -/
inductive Asks (c : Mutation) (body : Bytes) : Action → Prop
  | taken {a : Action} : body.length ≤ bodyLimit → Requests body c a → Asks c body a
  | refused {status : Nat} : ¬c.Takes body → status ∈ refusals body → Asks c body (.turnAway status)

section Bodies

variable {c : Mutation} {target : String} {contentType : Option String} {body : Bytes}

theorem requests_mount_iff {a : Action} : Requests body .mount a ↔
    ∃ d, Json.readDocument Descriptor.ofNode body = .ok d ∧ a = .mount d := by
  simp only [Json.readDocument_eq_ok_iff]
  constructor
  · intro h
    cases h with
    | @mount n d hdocument hstands =>
      have hread := (Descriptor.ofNode_eq_ok_iff n d hdocument.wellFormed).mpr hstands
      exact ⟨d, ⟨n, hdocument, hread⟩, rfl⟩
  · rintro ⟨d, ⟨n, hdocument, hread⟩, rfl⟩
    exact .mount hdocument ((Descriptor.ofNode_eq_ok_iff n d hdocument.wellFormed).mp hread)

theorem requests_unmount_iff {a : Action} : Requests body .unmount a ↔
    ∃ p, Json.readDocument pointOfNode body = .ok p ∧ a = .unmount p := by
  have hdistinct : unmountSchema.Distinct := by decide
  simp only [Json.readDocument_eq_ok_iff, pointOfNode, Outcome.map_eq_ok_iff]
  constructor
  · intro h
    cases h with
    | @unmount n p hdocument hstands =>
      have hread := (Json.Schema.ofNode_eq_ok_iff hdistinct hdocument.wellFormed).mpr hstands
      exact ⟨p, ⟨n, hdocument, _, hread, rfl⟩, rfl⟩
  · rintro ⟨_, ⟨n, hdocument, v, hread, rfl⟩, rfl⟩
    have hstands := (Json.Schema.ofNode_eq_ok_iff hdistinct hdocument.wellFormed).mp hread
    exact .unmount hdocument hstands

theorem mem_refusals (h : body.length ≤ bodyLimit) (fault : Json.Fault) :
    faultStatus fault ∈ refusals body := by
  rw [refusals, if_neg (Nat.not_lt.mpr h)]
  cases fault <;> decide

/-- What is asked for with a JSON body is what the body requests. If it is too long or requests
nothing, nothing is asked for. -/
theorem asks_ofBody {α : Type} {read : Node → Except Json.Fault α} {action : α → Action}
    (htype : contentType.any MediaType.isJson = true)
    (h : ∀ a, Requests body c a ↔ ∃ x, Json.readDocument read body = .ok x ∧ a = action x) :
    Asks c body (.ofBody contentType body read action) := by
  rw [Action.ofBody, if_pos htype]
  by_cases hlong : bodyLimit < body.length
  · rw [if_pos hlong]
    refine .refused (fun htakes => Nat.not_lt.mpr htakes.fits hlong) ?_
    rw [refusals, if_pos hlong]
    exact List.mem_singleton_self 413
  have hfits := Nat.not_lt.mp hlong
  rw [if_neg hlong]
  cases hread : Json.readDocument read body with
  | ok x => exact .taken hfits ((h _).mpr ⟨x, hread, rfl⟩)
  | error fault =>
    refine .refused ?_ (mem_refusals hfits fault)
    rintro ⟨-, a, hrequests⟩
    obtain ⟨x, hx, -⟩ := (h a).mp hrequests
    cases hread.symm.trans hx

theorem asks_ofRequest (htarget : pathOf target = c.path)
    (htype : contentType.any MediaType.isJson = true) :
    Asks c body (.ofRequest "POST" target contentType body) := by
  rw [Action.ofRequest, htarget]
  cases c with
  | mount => exact asks_ofBody htype fun _ => requests_mount_iff
  | unmount => exact asks_ofBody htype fun _ => requests_unmount_iff

end Bodies

/-! ## Answers -/

section Answers

variable {σ : Type} {fs : FileSystem σ} {s : Setup} {m : Manager σ} {a : Action} {c : Mutation}
  {target : String} {contentType : Option String} {body : Bytes}

/-- How a manager comes to answer what a request asks for: at once, or when the operation is over
that the request has begun, whatever else has happened by then. -/
inductive Answers (fs : FileSystem σ) (s : Setup) (m : Manager σ) (a : Action) : Reply → Prop
  | atOnce {reply : Reply} : a.reply? m = some reply → Answers fs s m a reply
  | whenOver {task : TaskId} {e : ManagerEvent} {m₁ m₂ : Manager σ} {events : List ManagerEvent}
      {result : Except Fault Done} : a.event? task = some e → m.step fs s e = some m₁ →
      m₁.run fs s events = some m₂ → (task, result) ∈ m₂.results →
      Answers fs s m a (Reply.ofResult result)

theorem answers_turnAway_iff {status : Nat} {reply : Reply} :
    Answers fs s m (.turnAway status) reply ↔ reply = ⟨status, none⟩ := by
  constructor
  · intro h
    cases h with
    | atOnce hreply =>
      cases hreply
      rfl
    | whenOver hevent => cases hevent
  · rintro rfl
    exact .atOnce rfl

/-- A request that no manager answers at once is answered by the result of an operation. -/
theorem Answers.hasProblem {reply : Reply} (h : Answers fs s m a reply) (ha : a.reply? m = none)
    (hfails : ¬reply.IsSuccess) : reply.HasProblem := by
  cases h with
  | atOnce hreply => cases ha.symm.trans hreply
  | whenOver => exact ofResult_hasProblem hfails

/-- An operation to unmount can always begin, since the session of a slot exists. -/
theorem beginUnmount_isSome (hm : m.Sound) (task : TaskId) (p : Path) :
    ∃ m', m.beginUnmount task p = some m' := by
  unfold Manager.beginUnmount
  split
  · rename_i i hslot
    obtain ⟨q, hq, -⟩ := Slots.mem_of_find? hslot
    obtain ⟨l, hl⟩ := hm.exists_session (Manager.mem_held_of_slot hq)
    exact ⟨_, Option.map_eq_some_iff.mpr ⟨l, hl, rfl⟩⟩
  · exact ⟨_, rfl⟩

theorem begin_eq {task : TaskId} (h : m.fresh ≤ task) :
    m.begin task = some { m with fresh := task + 1 } := if_pos h

/-- What a body requests begins an operation, whatever the state of the manager. -/
theorem Requests.begins (h : Requests body c a) (hm : m.Sound) {task : TaskId}
    (hfresh : m.fresh ≤ task) :
    a.reply? m = none ∧ ∃ e m₁, a.event? task = some e ∧ m.step fs s e = some m₁ := by
  cases h with
  | @mount n d =>
    refine ⟨rfl, _, { m with fresh := task + 1 }.beginMount task d .single, rfl, ?_⟩
    rw [Manager.step, begin_eq hfresh]
    rfl
  | @unmount n p =>
    obtain ⟨m₁, hm₁⟩ := beginUnmount_isSome (hm.begun hfresh) task p
    refine ⟨rfl, _, m₁, rfl, ?_⟩
    rw [Manager.step, begin_eq hfresh]
    exact hm₁

/-- A call with a JSON body begins the operation that the body requests. If the body is too long or
requests none, nothing begins, and the call is turned away at once, with nothing but a status. So if
the call fails, its reply has a problem body, with the status of the reply and a positive error
number, exactly if the body is what the call takes. -/
theorem failed_call_reported_iff {files : σ} {before : List ManagerEvent}
    (h : (Manager.empty files).run fs s before = some m) (htarget : pathOf target = c.path)
    (htype : contentType.any MediaType.isJson = true) :
    let a := Action.ofRequest "POST" target contentType body
    (∀ reply, Answers fs s m a reply → ¬reply.IsSuccess → (reply.HasProblem ↔ c.Takes body)) ∧
      (c.Takes body → Requests body c a ∧ ∀ task, m.fresh ≤ task →
        a.reply? m = none ∧ ∃ e m₁, a.event? task = some e ∧ m.step fs s e = some m₁) ∧
      (¬c.Takes body → (∀ task, a.event? task = none) ∧ ∃ status ∈ refusals body, ∀ reply,
        Answers fs s m a reply ↔ reply = ⟨status, none⟩) := by
  intro a
  have hasks : Asks c body a := asks_ofRequest htarget htype
  clear_value a
  cases hasks with
  | taken hfits hrequests =>
    have htakes : c.Takes body := ⟨hfits, a, hrequests⟩
    have hbegins : ∀ task, m.fresh ≤ task →
        a.reply? m = none ∧ ∃ e m₁, a.event? task = some e ∧ m.step fs s e = some m₁ :=
      fun _ => hrequests.begins (Manager.run_sound h)
    have hlater := (hbegins m.fresh (Nat.le_refl _)).1
    exact ⟨fun reply hanswers hfails => iff_of_true (hanswers.hasProblem hlater hfails) htakes,
      fun _ => ⟨hrequests, hbegins⟩, fun hnot => absurd htakes hnot⟩
  | @refused status hnot hstatus =>
    refine ⟨fun reply hanswers _ => iff_of_false ?_ hnot, fun htakes => absurd htakes hnot,
      fun _ => ⟨fun _ => rfl, status, hstatus, fun _ => answers_turnAway_iff⟩⟩
    rw [answers_turnAway_iff.mp hanswers]
    exact Reply.not_hasProblem_of_empty status

/-- A manager whose mounts are not saved. -/
def unsavedSetup : Setup where
  client := ⟨.raw, none⟩
  requestTimeout := none
  drainTimeout := none
  table := none

/-- A descriptor whose target is no URL. -/
def badTarget : Bytes := Text.encode "\x7b\"target\":\"x\",\"mountpoint\":\"/a\"\x7d"

/-- A record without members, which is no descriptor. -/
def noMembers : Bytes := Text.encode "\x7b\x7d"

/-- A body that is too long. -/
def tooLong : Bytes := List.replicate (bodyLimit + 1) 0x20

theorem badTarget_takes : Mutation.mount.Takes badTarget :=
  ⟨by decide, _, requests_mount_iff.mpr ⟨_, rfl, rfl⟩⟩

theorem noMembers_not_takes : ¬Mutation.mount.Takes noMembers := by
  rintro ⟨-, a, hrequests⟩
  obtain ⟨d, hread, -⟩ := requests_mount_iff.mp hrequests
  cases hread

theorem bodyLimit_lt_tooLong : bodyLimit < tooLong.length := by
  rw [tooLong, List.length_replicate]
  exact Nat.lt_succ_self bodyLimit

/-- What a call to mount asks for that is sent with a body. -/
def sampleCall (body : Bytes) : Action :=
  .ofRequest "POST" "/v1/mount?now" (some "Application/JSON; charset=utf-8") body

theorem failed_call_reported_samples :
    (∃ reply, Answers Files.system unsavedSetup (.empty ⟨[]⟩) (sampleCall badTarget) reply ∧
      ¬reply.IsSuccess ∧ reply.HasProblem) ∧
    (∃ status ∈ [400, 422], Answers Files.system unsavedSetup (.empty ⟨[]⟩) (sampleCall noMembers)
      ⟨status, none⟩ ∧ ¬Reply.HasProblem ⟨status, none⟩) ∧
    Answers Files.system unsavedSetup (.empty ⟨[]⟩) (sampleCall tooLong) ⟨413, none⟩ := by
  have hstart : (Manager.empty ⟨[]⟩).run Files.system unsavedSetup [] = some (.empty ⟨[]⟩) := rfl
  have htarget : pathOf "/v1/mount?now" = Mutation.mount.path := by decide
  have htype : (some "Application/JSON; charset=utf-8").any MediaType.isJson = true := rfl
  refine ⟨?problem, ?noMembers, ?tooLong⟩
  case problem =>
    obtain ⟨m, reason, hstep, hresult⟩ : ∃ m reason,
        (Manager.empty ⟨[]⟩).step Files.system unsavedSetup
          (.mount 0 { point := ⟨"/a"⟩, target := "x" }) = some m ∧
        m.results = [(0, .error (.invalidTarget "x" reason))] := ⟨_, _, rfl, rfl⟩
    have hfails : ¬(Reply.ofFault (.invalidTarget "x" reason)).IsSuccess :=
      fun h => absurd h.2 (by decide : ¬400 ≤ 299)
    have hover : m.run Files.system unsavedSetup [] = some m := rfl
    have hanswers : Answers Files.system unsavedSetup (.empty ⟨[]⟩) (sampleCall badTarget)
        (Reply.ofFault (.invalidTarget "x" reason)) :=
      .whenOver rfl hstep hover (hresult ▸ List.mem_cons_self)
    exact ⟨_, hanswers, hfails, ((failed_call_reported_iff hstart htarget htype).1 _ hanswers
      hfails).mpr badTarget_takes⟩
  case noMembers =>
    obtain ⟨-, status, hstatus, hanswer⟩ :=
      (failed_call_reported_iff hstart htarget htype).2.2 noMembers_not_takes
    exact ⟨status, hstatus, (hanswer _).mpr rfl, Reply.not_hasProblem_of_empty status⟩
  case tooLong =>
    have hnot : ¬Mutation.mount.Takes tooLong :=
      fun htakes => Nat.not_lt.mpr htakes.fits bodyLimit_lt_tooLong
    obtain ⟨-, status, hstatus, hanswer⟩ :=
      (failed_call_reported_iff hstart htarget htype).2.2 hnot
    rw [refusals, if_pos bodyLimit_lt_tooLong, List.mem_singleton] at hstatus
    exact (hanswer _).mpr (hstatus ▸ rfl)

/-- Every call with a JSON body that fails is answered with a problem. -/
def FailuresReported : Prop :=
  ∀ (before : List ManagerEvent) (m : Manager Files) (s : Setup) (c : Mutation)
    (contentType : String) (body : Bytes) (reply : Reply),
    (Manager.empty ⟨[]⟩).run Files.system s before = some m → MediaType.isJson contentType = true →
    Answers Files.system s m (.ofRequest "POST" c.path (some contentType) body) reply →
    ¬reply.IsSuccess → reply.HasProblem

/-- A body without members is turned away, and the reply has no body. -/
theorem not_failuresReported : ¬FailuresReported := by
  intro h
  have hanswers : Answers Files.system unsavedSetup (.empty ⟨[]⟩)
      (.ofRequest "POST" "/v1/mount" (some "application/json") noMembers) ⟨422, none⟩ :=
    .atOnce rfl
  exact Reply.not_hasProblem_of_empty 422
    (h [] (.empty ⟨[]⟩) unsavedSetup .mount _ noMembers _ rfl rfl hanswers
      fun hsuccess => absurd hsuccess.2 (by decide : ¬422 ≤ 299))

end Answers

end FsGateway.Gateway.Admin
