import FsGateway.Proofs.Client.Classification

/-!
# Errors that a backend reports

A backend reports an error by a status that is no success and a body with an error number. The call
then fails with that number, if it is positive, and so the kernel sees it. The message of the failure
is the one in the body, if the encoding carries it, or else the phrase of the status.

* `toErrno_backend`: the error number that the kernel sees.
* `errno_reported`: what becomes of a reported error.
-/

namespace FsGateway.Client

open Wire (Operation Encoding)

/-- The phrase of a status, or that for statuses which have none. -/
def phraseOf (status : Nat) : String := (reasons.lookup status).getD "backend error"

/-- An error number that the backend gave, as the kernel sees it. -/
def seenErrno (n : Errno) : Errno := if 0 < n then n else Errno.eio

/-- Only a positive number is kept, and the kernel sees it. -/
theorem toErrno_backend (status : Nat) (n : Errno) (message : String) :
    (Cause.backend status (if n < 0 then 0 else n) message).toErrno = seenErrno n := by
  have hzero : ¬ (0 : Errno) < 0 := by decide
  rw [keep_positive, Cause.toErrno, Cause.errno, Cause.defaultErrno, seenErrno]
  by_cases hpos : 0 < n
  · rw [if_pos hpos, if_pos hpos]
  · rw [if_neg hpos, if_neg hpos, if_neg hzero]

variable {e : Encoding} {r : Reply} {n : Errno} {message : String}

/-- The failure for a reply whose body reports an error. -/
theorem backendFailure_of_encodeError (trace : Trace)
    (hheader : r.headers.lookup errorHeader = none) (hbody : r.body = e.encodeError n message) :
    (backendFailure e trace r).toErrno = seenErrno n ∧
      (backendFailure e trace r).cause.message =
        (e.carried message).getD (phraseOf r.status) := by
  have htext : r.headers.text? errorHeader = none := by
    rw [Headers.text?, hheader, Option.filter_none]
  rw [backendFailure, hbody, Encoding.decodeError_encodeError, htext]
  exact ⟨toErrno_backend r.status n _, rfl⟩

theorem classify_of_status (trace : Trace) (op : Operation)
    (hstatus : ¬ (200 ≤ r.status ∧ r.status ≤ 299)) :
    classify e trace op (.ok r) = .error (backendFailure e trace r) := by
  rw [classify, if_neg fun h => hstatus (isSuccess_iff.mp h)]

/-- A call fails with the error that the backend reports in the body of a reply, whose status is no
success and which has no error header. The error number and the message are read back from the body,
and no message from one that carries none. The kernel sees the error number if it is positive; the
message of the failure is the one in the body, or else the phrase of the status. -/
theorem errno_reported (e : Encoding) (n : Errno) (message : String) :
    e.decodeError (e.encodeError n message) =
      some (n, if e = .generic ∧ message ≠ "" then some message else none) ∧
    ∀ r : Reply, ¬ (200 ≤ r.status ∧ r.status ≤ 299) → r.headers.lookup errorHeader = none →
      r.body = e.encodeError n message →
      (∀ (s : Settings) (ctx : Context) (op : Operation) (payload : op.Request) (t : Timing) url
        delay, s.encoding = e → ctx.target.append op.path = .ok url →
        delivered s ctx t.reply = some (delay, .ok r) → (∀ i, t.cancel = some i → delay < i) →
        (∀ i, t.deadline = some i → delay < i) →
          ∃ f, (runAlone s ctx op payload t).2 = some (.error f) ∧
            f.toErrno = (if 0 < n then n else Errno.eio) ∧
            f.cause.message =
              if e = .generic ∧ message ≠ "" then message
              else (reasons.lookup r.status).getD "backend error") ∧
      ∀ (s : Settings) (w : Gateway.Worker), s.encoding = e →
        w.answer s (.reply (.ok r)) = .error (if 0 < n then n else Errno.eio) := by
  have hcarried : e.carried message = if e = .generic ∧ message ≠ "" then some message else none := by
    cases e with
    | generic => by_cases hempty : message = "" <;> simp [Encoding.carried, hempty]
    | raw => simp [Encoding.carried]
  refine ⟨hcarried ▸ e.decodeError_encodeError n message, fun r hstatus hheader hbody => ⟨?_, ?_⟩⟩
  · rintro s ctx op payload t url delay rfl hurl hdelivered hcancel hdeadline
    have hresult := runAlone_of_delivered payload hurl hdelivered hcancel hdeadline
    obtain ⟨herrno, hmessage⟩ := backendFailure_of_encodeError ctx.identity.trace hheader hbody
    rw [classify_of_status _ _ hstatus] at hresult
    rw [hcarried] at hmessage
    refine ⟨_, hresult, herrno, hmessage.trans ?_⟩
    split <;> rfl
  · rintro s w rfl
    obtain ⟨herrno, -⟩ := backendFailure_of_encodeError w.header.unique hheader hbody
    rw [Gateway.Worker.answer, resultOf, classify_of_status _ _ hstatus]
    exact congrArg Except.error herrno

/-- A reply that reports an error, with a message that has to be escaped. -/
def sampleReport : Reply where
  status := 503
  headers := [(traceHeader, "zz")]
  body := Encoding.encodeError .generic 13 "\"no\"\n"

theorem errno_reported_escaped : ∃ url f,
    let s : Settings := ⟨.generic, some "fuse"⟩
    let ctx : Context := ⟨⟨"http", some ⟨"", "", .name "h", none⟩, .segments [""], none, none⟩,
      ⟨⟨0, 0, 1⟩, 9⟩⟩
    let t : Timing := ⟨some 7, some 6, some (5, .ok sampleReport)⟩
    ¬ (200 ≤ sampleReport.status ∧ sampleReport.status ≤ 299) ∧
      sampleReport.headers.lookup errorHeader = none ∧
      ctx.target.append Operation.statfs.path = .ok url ∧
      delivered s ctx t.reply = some (5, .ok sampleReport) ∧
      (runAlone s ctx .statfs ⟨⟩ t).2 = some (.error f) ∧
      f.toErrno = 13 ∧ f.cause.message = "\"no\"\n" := by
  obtain ⟨f, hfails, herrno, hmessage⟩ :=
    ((errno_reported .generic 13 "\"no\"\n").2 sampleReport (by decide) rfl rfl).1
      ⟨.generic, some "fuse"⟩
      ⟨⟨"http", some ⟨"", "", .name "h", none⟩, .segments [""], none, none⟩, ⟨⟨0, 0, 1⟩, 9⟩⟩ .statfs ⟨⟩
      ⟨some 7, some 6, some (5, .ok sampleReport)⟩ _ 5 rfl rfl (by decide)
      (fun i hi => by cases hi; decide) (fun i hi => by cases hi; decide)
  exact ⟨_, f, by decide, rfl, rfl, by decide, hfails, herrno, hmessage⟩

end FsGateway.Client
