import FsGateway.Proofs.Client.Requests
import FsGateway.Proofs.Connection.Answers
import FsGateway.Proofs.Outcome

/-!
# What a call returns

A call that gets its outcome in time returns a response exactly where the backend replied with a
success whose body is read under the layout of the response. All else is a failure of one kind, with
the error number, the message and the trace token that belong to it. No failure has an error number
that the kernel could take for a success.

* `parseTrace_eq_ok_iff`: what a trace token in a header looks like.
* `Returns`: what a call returns for an outcome. `returns_iff`: it returns this and nothing else.
* `call_classified`: all of it for every call, and for every answer that the kernel gets.
-/

namespace FsGateway.Client

open Wire (Operation Encoding)

/-! ## Trace tokens -/

/-- The number of some digits in base 36, behind the digits of another number. -/
def shiftIn (n : Nat) (ds : List Nat) : Nat := ds.foldl (fun n d => n * 36 + d) n

/-- A text is a number in base 36, perhaps behind a plus sign. -/
def IsTraceText (text : String) (t : Trace) : Prop :=
  ∃ cs ds, (text.toList = cs ∨ text.toList = '+' :: cs) ∧ cs ≠ [] ∧
    cs.map traceDigit? = ds.map some ∧ shiftIn 0 ds = t.toNat

theorem le_shiftIn (n : Nat) (ds : List Nat) : n ≤ shiftIn n ds := by
  induction ds generalizing n with
  | nil => exact Nat.le_refl n
  | cons d ds ih =>
    have hnext := ih (n * 36 + d)
    change n ≤ shiftIn (n * 36 + d) ds
    omega

/-- The digits of a text begin with that of its first character. -/
theorem map_traceDigit_cons_iff {c : Char} {cs : List Char} {d : Nat} {ds : List Nat}
    (hdigit : traceDigit? c = some d) : (c :: cs).map traceDigit? = ds.map some ↔
      ∃ rest, ds = d :: rest ∧ cs.map traceDigit? = rest.map some := by
  rw [List.map_cons, hdigit]
  cases ds with
  | nil => simp
  | cons d' rest =>
    rw [List.map_cons, List.cons.injEq, Option.some.injEq]
    constructor
    · rintro ⟨rfl, hrest⟩
      exact ⟨rest, rfl, hrest⟩
    · rintro ⟨rest', heq, hrest⟩
      cases heq
      exact ⟨rfl, hrest⟩

theorem traceDigits_eq_ok_iff {n v : Nat} {cs : List Char} (hn : n < UInt64.size) :
    traceDigits n cs = .ok v ↔
      ∃ ds, cs.map traceDigit? = ds.map some ∧ shiftIn n ds = v ∧ v < UInt64.size := by
  induction cs generalizing n with
  | nil =>
    rw [traceDigits]
    constructor
    · intro h
      cases h
      exact ⟨[], rfl, rfl, hn⟩
    · rintro ⟨ds, hds, rfl, -⟩
      cases ds with
      | nil => rfl
      | cons d ds => cases hds
  | cons c cs ih =>
    rw [traceDigits]
    cases hdigit : traceDigit? c with
    | none =>
      refine iff_of_false (fun h => by cases h) ?_
      rintro ⟨ds, hds, -⟩
      cases ds with
      | nil => cases hds
      | cons d ds =>
        rw [List.map_cons, hdigit] at hds
        cases hds
    | some d =>
      simp only [map_traceDigit_cons_iff hdigit]
      by_cases hsmall : n * 36 + d < UInt64.size
      · rw [if_pos hsmall, ih hsmall]
        constructor
        · rintro ⟨rest, hrest, hv, hlt⟩
          exact ⟨d :: rest, ⟨rest, rfl, hrest⟩, hv, hlt⟩
        · rintro ⟨ds, ⟨rest, rfl, hrest⟩, hv, hlt⟩
          exact ⟨rest, hrest, hv, hlt⟩
      · rw [if_neg hsmall]
        refine iff_of_false (fun h => by cases h) ?_
        rintro ⟨ds, ⟨rest, rfl, -⟩, hv, hlt⟩
        have hle : n * 36 + d ≤ shiftIn n (d :: rest) := le_shiftIn (n * 36 + d) rest
        omega

theorem map_traceDigits_eq_ok_iff {cs : List Char} {t : Trace} :
    (traceDigits 0 cs).map UInt64.ofNat = .ok t ↔
      ∃ ds, cs.map traceDigit? = ds.map some ∧ shiftIn 0 ds = t.toNat := by
  rw [Outcome.map_eq_ok_iff]
  simp only [traceDigits_eq_ok_iff (n := 0) (by decide)]
  constructor
  · rintro ⟨v, ⟨ds, hds, rfl, hlt⟩, rfl⟩
    exact ⟨ds, hds, (UInt64.toNat_ofNat_of_lt hlt).symm⟩
  · rintro ⟨ds, hds, hv⟩
    exact ⟨t.toNat, ⟨ds, hds, hv, UInt64.toNat_lt t⟩, UInt64.ofNat_toNat⟩

theorem not_digits_of_plus {cs : List Char} {ds : List Nat} :
    ('+' :: cs).map traceDigit? ≠ ds.map some := by
  intro h
  cases ds with
  | nil => cases h
  | cons d ds =>
    have hplus : traceDigit? '+' = none := by decide
    rw [List.map_cons, hplus] at h
    cases h

/-- A trace token is read exactly where a text is a number in base 36 that fits into 64 bits. -/
theorem parseTrace_eq_ok_iff {text : String} {t : Trace} :
    parseTrace text = .ok t ↔ IsTraceText text t := by
  unfold parseTrace
  split
  · rename_i htext
    refine iff_of_false (fun h => by cases h) ?_
    rintro ⟨cs, ds, hcs | hcs, hne, -⟩
    · exact hne (hcs.symm.trans htext)
    · rw [htext] at hcs
      cases hcs
  · rename_i htext
    refine iff_of_false (fun h => by cases h) ?_
    rintro ⟨cs, ds, hcs | hcs, hne, hds, -⟩
    · rw [← hcs, htext] at hds
      exact not_digits_of_plus hds
    · rw [htext] at hcs
      exact hne (List.cons.inj hcs).2.symm
  · rename_i cs hne htext
    rw [map_traceDigits_eq_ok_iff]
    constructor
    · rintro ⟨ds, hds, hv⟩
      exact ⟨cs, ds, Or.inr htext, fun hnil => hne (by rw [hnil]), hds, hv⟩
    · rintro ⟨cs', ds, hcs | hcs, -, hds, hv⟩
      · rw [← hcs, htext] at hds
        exact absurd hds not_digits_of_plus
      · rw [htext] at hcs
        cases hcs
        exact ⟨ds, hds, hv⟩
  · rename_i hempty hplus hsign
    rw [map_traceDigits_eq_ok_iff]
    constructor
    · rintro ⟨ds, hds, hv⟩
      exact ⟨_, ds, Or.inl rfl, hempty, hds, hv⟩
    · rintro ⟨cs, ds, hcs | hcs, -, hds, hv⟩
      · exact ⟨ds, hcs ▸ hds, hv⟩
      · exact absurd hcs (hsign cs)

/-! ## Failures that the backend reports -/

/-- The error number that a body reports: the one in it, if it is positive. -/
inductive ReportsErrno (e : Encoding) (body : Bytes) : Errno → Prop
  | given {n : Errno} {message : Option String} : e.decodeError body = some (n, message) → 0 < n →
      ReportsErrno e body n
  | none : (∀ n message, e.decodeError body = some (n, message) → ¬ 0 < n) → ReportsErrno e body 0

/-- The first value under a name is a text that can be read. -/
def HasText (r : Reply) (name text : String) : Prop :=
  r.headers.lookup name = some text ∧ Headers.isReadable text = true

/-- A body has a message that is not empty. -/
def HasMessage (e : Encoding) (body : Bytes) (message : String) : Prop :=
  (∃ n, e.decodeError body = some (n, some message)) ∧ message ≠ ""

/-- The message that a reply reports: that of its error header, or that of its body, or the phrase of
its status. -/
inductive ReportsMessage (e : Encoding) (r : Reply) : String → Prop
  | header {text : String} : HasText r errorHeader text → ReportsMessage e r text
  | embedded {message : String} : (∀ text, ¬ HasText r errorHeader text) →
      HasMessage e r.body message → ReportsMessage e r message
  | phrase {text : String} : (∀ text, ¬ HasText r errorHeader text) →
      (∀ message, ¬ HasMessage e r.body message) → (r.status, text) ∈ reasons →
      ReportsMessage e r text
  | unknown : (∀ text, ¬ HasText r errorHeader text) →
      (∀ message, ¬ HasMessage e r.body message) → (∀ text, (r.status, text) ∉ reasons) →
      ReportsMessage e r "backend error"

/-- The trace token that goes with a reply: the one that it reports, or that of the call. -/
inductive ReportsTrace (r : Reply) (trace : Trace) : Trace → Prop
  | reported {text : String} {t : Trace} : HasText r traceHeader text → IsTraceText text t →
      ReportsTrace r trace t
  | own : (∀ text t, HasText r traceHeader text → ¬ IsTraceText text t) → ReportsTrace r trace trace

/-- What a call returns for an outcome. -/
inductive Returns (e : Encoding) (trace : Trace) (op : Operation) :
    Outcome → Except Failure op.Response → Prop
  | response {reply : Reply} {v : op.Response} : 200 ≤ reply.status → reply.status ≤ 299 →
      e.decode op.responseLayout reply.body = .ok v → Returns e trace op (.ok reply) (.ok v)
  | transport (fault : TransportFault) :
      Returns e trace op (.error fault) (.error ⟨.transport fault, some trace⟩)
  | codec {reply : Reply} {fault : Wire.CodecFault} : 200 ≤ reply.status → reply.status ≤ 299 →
      e.decode (R := op.Response) op.responseLayout reply.body = .error fault →
      Returns e trace op (.ok reply) (.error ⟨.codec fault, some trace⟩)
  | backend {reply : Reply} {errno : Errno} {message : String} {t : Trace} :
      ¬ (200 ≤ reply.status ∧ reply.status ≤ 299) → ReportsErrno e reply.body errno →
      ReportsMessage e reply message → ReportsTrace reply trace t →
      Returns e trace op (.ok reply) (.error ⟨.backend reply.status errno message, some t⟩)

/-! ## Each part is determined -/

variable {e : Encoding} {trace : Trace} {op : Operation} {r : Reply}

theorem isSuccess_iff {status : Nat} : isSuccess status = true ↔ 200 ≤ status ∧ status ≤ 299 := by
  simp [isSuccess]

theorem text?_eq_some_iff {name text : String} :
    r.headers.text? name = some text ↔ HasText r name text := by
  rw [Headers.text?, Option.filter_eq_some_iff]
  rfl

theorem text?_eq_none_iff {name : String} :
    r.headers.text? name = none ↔ ∀ text, ¬ HasText r name text := by
  rw [Option.eq_none_iff_forall_not_mem]
  exact forall_congr' fun text => not_congr text?_eq_some_iff

/-- A message in a body is not empty. -/
theorem hasMessage_iff {body : Bytes} {message : String} :
    HasMessage e body message ↔ ∃ n, e.decodeError body = some (n, some message) := by
  refine ⟨fun h => h.1, fun h => ⟨h, ?_⟩⟩
  obtain ⟨n, h⟩ := h
  cases e with
  | raw =>
    simp only [Encoding.decodeError] at h
    split at h <;> cases h
  | generic =>
    simp only [Encoding.decodeError] at h
    split at h
    · rename_i b hb
      split at h
      · cases h
      · rename_i hne
        cases h
        exact hne
    · cases h

theorem mem_reasons_iff {status : Nat} {text : String} :
    (status, text) ∈ reasons ↔ reasons.lookup status = some text :=
  (Keyed.lookup_eq_some_iff (by decide)).symm

theorem keep_positive (n : Errno) : (if n < 0 then 0 else n) = if 0 < n then n else 0 := by
  have hzero : (0 : Errno).toInt = 0 := rfl
  by_cases hneg : n < 0
  · have hpos : ¬ 0 < n := by
      rw [Int32.lt_iff_toInt_lt] at hneg ⊢
      omega
    rw [if_pos hneg, if_neg hpos]
  · rw [if_neg hneg]
    by_cases hpos : 0 < n
    · rw [if_pos hpos]
    · rw [if_neg hpos]
      rw [Int32.lt_iff_toInt_lt] at hneg hpos
      apply Int32.toInt_inj.mp
      omega

theorem reportsErrno_iff {body : Bytes} {n : Errno} : ReportsErrno e body n ↔
    n = if ((e.decodeError body).getD (0, none)).1 < 0 then 0
      else ((e.decodeError body).getD (0, none)).1 := by
  rw [keep_positive]
  constructor
  · intro h
    cases h with
    | given hfound hpos => rw [hfound, Option.getD_some, if_pos hpos]
    | none hnone =>
      cases hfound : e.decodeError body with
      | none => rfl
      | some found => rw [Option.getD_some, if_neg (hnone found.1 found.2 hfound)]
  · rintro rfl
    cases hfound : e.decodeError body with
    | none =>
      apply ReportsErrno.none
      intro n message h
      rw [hfound] at h
      cases h
    | some found =>
      rw [Option.getD_some]
      split
      · rename_i hpos
        exact .given hfound hpos
      · rename_i hpos
        apply ReportsErrno.none
        intro n message h
        rw [hfound] at h
        cases h
        exact hpos

theorem embedded_eq_some_iff {body : Bytes} {message : String} :
    ((e.decodeError body).getD (0, none)).2 = some message ↔ HasMessage e body message := by
  rw [hasMessage_iff]
  cases hfound : e.decodeError body with
  | none => simp
  | some found =>
    rw [Option.getD_some]
    constructor
    · intro h
      exact ⟨found.1, by rw [← h]⟩
    · rintro ⟨n, h⟩
      cases h
      rfl

theorem reportsMessage_iff {message : String} : ReportsMessage e r message ↔
    message = ((r.headers.text? errorHeader).or ((e.decodeError r.body).getD (0, none)).2).getD
      ((reasons.lookup r.status).getD "backend error") := by
  have hembedded : ∀ text, ((e.decodeError r.body).getD (0, none)).2 = some text ↔
      HasMessage e r.body text := fun _ => embedded_eq_some_iff
  generalize ((e.decodeError r.body).getD (0, none)).2 = embedded at hembedded ⊢
  constructor
  · intro h
    cases h with
    | header htext => rw [text?_eq_some_iff.mpr htext]; rfl
    | embedded hheader hmessage =>
      rw [text?_eq_none_iff.mpr hheader, (hembedded message).mpr hmessage]
      rfl
    | phrase hheader hnone hphrase =>
      have hempty : embedded = none :=
        Option.eq_none_iff_forall_not_mem.mpr fun m hm => hnone m ((hembedded m).mp hm)
      rw [text?_eq_none_iff.mpr hheader, hempty, mem_reasons_iff.mp hphrase]
      rfl
    | unknown hheader hnone hphrase =>
      have hempty : embedded = none :=
        Option.eq_none_iff_forall_not_mem.mpr fun m hm => hnone m ((hembedded m).mp hm)
      have hlookup : reasons.lookup r.status = none :=
        Option.eq_none_iff_forall_not_mem.mpr fun m hm => hphrase m (mem_reasons_iff.mpr hm)
      rw [text?_eq_none_iff.mpr hheader, hempty, hlookup]
      rfl
  · rintro rfl
    cases hheader : r.headers.text? errorHeader with
    | some text => exact .header (text?_eq_some_iff.mp hheader)
    | none =>
      have hheader := text?_eq_none_iff.mp hheader
      cases embedded with
      | some message => exact .embedded hheader ((hembedded message).mp rfl)
      | none =>
        have hnone : ∀ m, ¬ HasMessage e r.body m := by
          intro m hm
          cases (hembedded m).mpr hm
        cases hlookup : reasons.lookup r.status with
        | some text => exact .phrase hheader hnone (mem_reasons_iff.mpr hlookup)
        | none =>
          refine .unknown hheader hnone fun text hmem => ?_
          rw [mem_reasons_iff, hlookup] at hmem
          cases hmem

theorem reportsTrace_iff {t : Trace} : ReportsTrace r trace t ↔
    t = ((r.headers.text? traceHeader).bind fun s => (parseTrace s).toOption).getD trace := by
  have hfound : ∀ t, ((r.headers.text? traceHeader).bind fun s => (parseTrace s).toOption) = some t ↔
      ∃ text, HasText r traceHeader text ∧ IsTraceText text t := by
    intro t
    rw [Option.bind_eq_some_iff]
    refine exists_congr fun text => and_congr text?_eq_some_iff ?_
    rw [← parseTrace_eq_ok_iff]
    cases parseTrace text <;> simp [Except.toOption]
  generalize ((r.headers.text? traceHeader).bind fun s => (parseTrace s).toOption) = reported
    at hfound ⊢
  constructor
  · intro h
    cases h with
    | reported htext htoken =>
      rw [(hfound t).mpr ⟨_, htext, htoken⟩]
      rfl
    | own hnone =>
      have hempty : reported = none := by
        apply Option.eq_none_iff_forall_not_mem.mpr
        intro t' ht'
        obtain ⟨text, htext, htoken⟩ := (hfound t').mp ht'
        exact hnone text t' htext htoken
      rw [hempty]
      rfl
  · rintro rfl
    cases reported with
    | some t =>
      obtain ⟨text, htext, htoken⟩ := (hfound t).mp rfl
      exact .reported htext htoken
    | none =>
      apply ReportsTrace.own
      intro text t htext htoken
      cases (hfound t).mpr ⟨text, htext, htoken⟩

/-- A call returns what its outcome is classified as. -/
theorem returns_iff {outcome : Outcome} {result : Except Failure op.Response} :
    Returns e trace op outcome result ↔ result = classify e trace op outcome := by
  constructor
  · intro h
    cases h with
    | response hlow hhigh hread =>
      rw [classify, if_pos (isSuccess_iff.mpr ⟨hlow, hhigh⟩), hread]
      rfl
    | transport fault => rfl
    | codec hlow hhigh hread =>
      rw [classify, if_pos (isSuccess_iff.mpr ⟨hlow, hhigh⟩), hread]
      rfl
    | backend hstatus herrno hmessage htrace =>
      rw [classify, if_neg fun h => hstatus (isSuccess_iff.mp h), backendFailure,
        reportsErrno_iff.mp herrno, reportsMessage_iff.mp hmessage, reportsTrace_iff.mp htrace]
  · rintro rfl
    cases outcome with
    | error fault => exact .transport fault
    | ok reply =>
      by_cases hstatus : 200 ≤ reply.status ∧ reply.status ≤ 299
      · rw [classify, if_pos (isSuccess_iff.mpr hstatus)]
        cases hread : e.decode (R := op.Response) op.responseLayout reply.body with
        | ok v => exact .response hstatus.1 hstatus.2 hread
        | error fault => exact .codec hstatus.1 hstatus.2 hread
      · rw [classify, if_neg fun h => hstatus (isSuccess_iff.mp h)]
        exact .backend hstatus (reportsErrno_iff.mpr rfl) (reportsMessage_iff.mpr rfl)
          (reportsTrace_iff.mpr rfl)

/-! ## Calls -/

section Calls

variable {s : Settings} {ctx : Context} {t : Timing}

/-- The outcome that the transport has for a call, and when: a request whose credential cannot be
sent is refused at once. -/
def delivered (s : Settings) (ctx : Context) (reply : Option (Nat × Outcome)) :
    Option (Nat × Outcome) :=
  if canAuthorize s ctx.identity then reply
  else some (0, .error (.invalidHeader authorizationHeader))

theorem firstEnd_of_reply {delay : Nat} {outcome : Outcome} (hreply : t.reply = some (delay, outcome))
    (hcancel : ∀ i, t.cancel = some i → delay < i)
    (hdeadline : ∀ i, t.deadline = some i → delay < i) :
    firstEnd t = some (delay, .reply outcome) := by
  have hfirst : t.first = some delay := by
    apply List.min?_eq_some_iff.mpr
    constructor
    · simp [hreply]
    · intro i hi
      simp only [List.mem_filterMap, List.mem_cons, List.not_mem_nil, or_false, id] at hi
      obtain ⟨x, rfl | rfl | rfl, hx⟩ := hi
      · exact Nat.le_of_lt (hcancel i hx)
      · exact Nat.le_of_lt (hdeadline i hx)
      · rw [hreply] at hx
        cases hx
        exact Nat.le_refl delay
  have hnotCanceled : t.cancel ≠ some delay := fun h => Nat.lt_irrefl _ (hcancel delay h)
  have hnotExpired : t.deadline ≠ some delay := fun h => Nat.lt_irrefl _ (hdeadline delay h)
  rw [firstEnd, hfirst]
  simp [hnotCanceled, hnotExpired, hreply]

/-- A call that gets its outcome before it is canceled and before its deadline returns what the
outcome is classified as. -/
theorem runAlone_of_delivered (payload : op.Request) {url : Url} {delay : Nat} {outcome : Outcome}
    (hurl : ctx.target.append op.path = .ok url)
    (hdelivered : delivered s ctx t.reply = some (delay, outcome))
    (hcancel : ∀ i, t.cancel = some i → delay < i)
    (hdeadline : ∀ i, t.deadline = some i → delay < i) :
    (runAlone s ctx op payload t).2 =
      some (classify s.encoding ctx.identity.trace op outcome) := by
  have hnotCanceled : decide (t.cancel = some 0) = false :=
    decide_eq_false fun h => Nat.not_lt_zero _ (hcancel 0 h)
  have hnotExpired : decide (t.deadline = some 0) = false :=
    decide_eq_false fun h => Nat.not_lt_zero _ (hdeadline 0 h)
  have hstarts := starts s ctx op payload false false
  rw [runAlone, hnotCanceled, hnotExpired]
  generalize start s ctx op payload false false = started at hstarts
  cases hstarts with
  | unreachable hfault =>
    rw [hurl] at hfault
    cases hfault
  | refused _ hcannot =>
    rw [delivered, hcannot] at hdelivered
    cases hdelivered
    rfl
  | posted hcan _ =>
    rw [delivered, hcan] at hdelivered
    change (firstEnd t).map _ = _
    rw [firstEnd_of_reply hdelivered hcancel hdeadline]
    rfl

/-! ## Failures -/

/-- The error number that the kernel sees for the failure of a call. -/
inductive Resolves : Cause → Errno → Prop
  | given {status : Nat} {n : Errno} {message : String} : 0 < n →
      Resolves (.backend status n message) n
  | backend {status : Nat} {n : Errno} {message : String} : ¬ 0 < n →
      Resolves (.backend status n message) Errno.eio
  | transport (fault : TransportFault) : Resolves (.transport fault) Errno.eio
  | codec (fault : Wire.CodecFault) : Resolves (.codec fault) Errno.eio
  | canceled : Resolves .canceled Errno.eintr
  | timedOut : Resolves .timedOut Errno.etimedout

theorem toErrno_pos (cause : Cause) : 0 < cause.toErrno := by
  rw [Cause.toErrno]
  split
  · assumption
  · have hpos : 0 < Errno.eio ∧ 0 < Errno.eintr ∧ 0 < Errno.etimedout ∧ 0 < Errno.enosys ∧
        0 < Errno.erofs := by decide
    obtain ⟨heio, heintr, htimedOut, hnosys, hrofs⟩ := hpos
    cases cause <;> assumption

theorem resolves_backend (status : Nat) (n : Errno) (message : String) :
    Resolves (.backend status n message) (Cause.backend status n message).toErrno := by
  rw [Cause.toErrno]
  split
  · rename_i hpos
    exact .given hpos
  · rename_i hpos
    exact .backend hpos

/-- A failure of a call: the kernel sees its error number, and it has the trace token of the call,
unless it comes from the backend. -/
structure IsFailure (trace : Trace) (f : Failure) : Prop where
  errno : Resolves f.cause f.toErrno
  trace : ∃ t, f.trace = some t ∧
    ((∀ status errno message, f.cause ≠ .backend status errno message) → t = trace)

theorem IsFailure.of_own {cause : Cause} (h : Resolves cause cause.toErrno) :
    IsFailure trace ⟨cause, some trace⟩ :=
  ⟨h, trace, rfl, fun _ => rfl⟩

theorem isFailure_of_returns {outcome : Outcome} {f : Failure}
    (h : Returns e trace op outcome (.error f)) : IsFailure trace f := by
  cases h with
  | transport fault => exact .of_own (.transport fault)
  | codec => exact .of_own (.codec _)
  | backend => exact ⟨resolves_backend _ _ _, _, rfl, fun h => absurd rfl (h _ _ _)⟩

theorem isFailure_of_resultOf {f : Failure} {ended : End}
    (h : resultOf s trace op ended = .error f) : IsFailure trace f := by
  cases ended with
  | canceled =>
    cases h
    exact .of_own .canceled
  | deadline =>
    cases h
    exact .of_own .timedOut
  | reply outcome => exact isFailure_of_returns (returns_iff.mpr h.symm)

theorem isFailure_of_runAlone (payload : op.Request) {f : Failure}
    (h : (runAlone s ctx op payload t).2 = some (.error f)) : IsFailure ctx.identity.trace f := by
  have hstarts := starts s ctx op payload (t.cancel = some 0) (t.deadline = some 0)
  rw [runAlone] at h
  generalize start s ctx op payload (t.cancel = some 0) (t.deadline = some 0) = started
    at h hstarts
  generalize decide (t.cancel = some 0) = canceled at hstarts
  generalize decide (t.deadline = some 0) = expired at hstarts
  cases hstarts with
  | canceled =>
    cases h
    exact .of_own .canceled
  | unreachable hfault =>
    cases h
    exact .of_own (.transport _)
  | expired hurl =>
    cases h
    exact .of_own .timedOut
  | refused hurl hcannot =>
    cases h
    exact .of_own (.transport _)
  | posted hcan hrequest =>
    obtain ⟨ended, -, hresult⟩ := Option.map_eq_some_iff.mp h
    exact isFailure_of_resultOf hresult

/-- The layout of a response without fields accepts every body. -/
theorem decode_of_isEmpty (e : Encoding) (h : op.responseLayout.isEmpty = true) (body : Bytes) :
    ∃ v, e.decode (R := op.Response) op.responseLayout body = .ok v := by
  have hempty : ∀ op : Operation, op.responseLayout.isEmpty = true →
      (Wire.Record.unflatten (R := op.Response) []).isOk = true := by decide
  have hread := hempty op h
  unfold Encoding.decode
  rw [if_pos h]
  generalize Wire.Record.unflatten (R := op.Response) [] = read at hread
  cases read with
  | error fault => cases hread
  | ok v => exact ⟨v.1, rfl⟩

end Calls

/-! ## What the kernel gets -/

section Kernel

variable {c : Gateway.Settings} {now : Nat} {events : List Gateway.Event} {k : Gateway.Connection}

theorem pos_of_ends {w : Gateway.Worker} {ev : Gateway.Event} {answer : Kernel.Answer} {n : Errno}
    (h : w.Ends c now ev answer) (hanswer : answer = .error n) : 0 < n := by
  cases h with
  | failed _ =>
    cases hanswer
    exact toErrno_pos _
  | @finished ended _ =>
    rw [Gateway.Worker.answer] at hanswer
    cases hresult : resultOf c.client w.header.unique w.operation ended with
    | ok v =>
      rw [hresult] at hanswer
      cases hanswer
    | error f =>
      rw [hresult] at hanswer
      cases hanswer
      exact toErrno_pos _

/-- The kernel gets no error number that is not positive. -/
theorem pos_of_answer (h : (Gateway.Connection.ofInstant now).run c events = some k)
    {a : Nat × Kernel.Answered} (ha : a ∈ k.answers) {n : Errno} (hn : a.2.answer = .error n) :
    0 < n := by
  obtain ⟨item, -, -, hfate⟩ := (Gateway.Connection.run_recorded h).answered a ha
  generalize a.2.answer = answer at hfate hn
  cases hfate with
  | unread _ =>
    cases hn
    decide
  | refused _ hrefuses =>
    generalize item.callback.demand = d at hrefuses
    cases hrefuses <;> cases hn <;> decide
  | served _ _ hserved =>
    obtain ⟨_, _, _, _, _, _, w, _, _, hends⟩ := hserved
    exact pos_of_ends hends hn

end Kernel

/-- Calls are classified completely. A call whose outcome comes before it is canceled and before its
deadline returns what `Returns` says and nothing else; a response without fields is read from every
body; every failure of a call, also of one that is canceled or out of time, has a trace token and the
error number that belongs to it; and neither a call nor a connection gives the kernel an error number
that is not positive. -/
theorem call_classified (s : Settings) (ctx : Context) (op : Operation) (payload : op.Request)
    (t : Timing) :
    (∀ url delay outcome, ctx.target.append op.path = .ok url →
      delivered s ctx t.reply = some (delay, outcome) → (∀ i, t.cancel = some i → delay < i) →
      (∀ i, t.deadline = some i → delay < i) →
        ∃ result, (runAlone s ctx op payload t).2 = some result ∧
          ∀ r, Returns s.encoding ctx.identity.trace op outcome r ↔ r = result) ∧
    (op.responseLayout.isEmpty = true → ∀ body, ∃ v,
      s.encoding.decode (R := op.Response) op.responseLayout body = .ok v) ∧
    (∀ f, (runAlone s ctx op payload t).2 = some (.error f) →
      IsFailure ctx.identity.trace f ∧ 0 < f.toErrno) ∧
    ∀ c now events k, (Gateway.Connection.ofInstant now).run c events = some k →
      ∀ a ∈ k.answers, ∀ n, a.2.answer = .error n → 0 < n := by
  refine ⟨fun url delay outcome hurl hdelivered hcancel hdeadline => ?_, decode_of_isEmpty s.encoding,
    fun f hf => ⟨isFailure_of_runAlone payload hf, toErrno_pos f.cause⟩,
    fun c now events k hrun a ha n hn => pos_of_answer hrun ha hn⟩
  have hresult := runAlone_of_delivered payload hurl hdelivered hcancel hdeadline
  exact ⟨_, hresult, fun r => returns_iff⟩

/-- A reply that reports an error in its body, and a message and a trace token in its headers. -/
def notFound : Reply where
  status := 404
  headers := [(errorHeader, "gone"), (traceHeader, "+zz")]
  body := [2, 0, 0, 0]

theorem call_classified_notFound : ∃ url result,
    let ctx : Context := ⟨⟨"http", some ⟨"", "", .name "h", none⟩, .segments [""], none, none⟩,
      ⟨⟨0, 0, 1⟩, 9⟩⟩
    let t : Timing := ⟨some 7, some 6, some (5, .ok notFound)⟩
    ctx.target.append Operation.statfs.path = .ok url ∧
      delivered ⟨.raw, some "fuse"⟩ ctx t.reply = some (5, .ok notFound) ∧
      (runAlone ⟨.raw, some "fuse"⟩ ctx .statfs ⟨⟩ t).2 = some result ∧
      (∀ r, Returns .raw 9 .statfs (.ok notFound) r ↔ r = result) ∧
      Returns .raw 9 .statfs (.ok notFound) (.error ⟨.backend 404 2 "gone", some 1295⟩) := by
  obtain ⟨result, hresult, hreturns⟩ := (call_classified ⟨.raw, some "fuse"⟩
    ⟨⟨"http", some ⟨"", "", .name "h", none⟩, .segments [""], none, none⟩, ⟨⟨0, 0, 1⟩, 9⟩⟩ .statfs ⟨⟩
    ⟨some 7, some 6, some (5, .ok notFound)⟩).1 _ 5 (.ok notFound) rfl (by decide)
    (fun i hi => by cases hi; decide) (fun i hi => by cases hi; decide)
  refine ⟨_, result, rfl, by decide, hresult, hreturns, ?_⟩
  rw [returns_iff]
  rfl

end FsGateway.Client
