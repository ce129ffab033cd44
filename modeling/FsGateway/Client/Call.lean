import FsGateway.Client.Failure

/-!
# Calls

A call encodes the request of an operation, posts it to the path of the operation on the target
and classifies what comes back. It ends early when it is canceled or its deadline passes.

* `request`: what is posted for an operation.
* `classify`: the response or the failure that an outcome stands for.
* `firstEnd`: which of cancellation, deadline and reply ends a call.
-/

namespace FsGateway.Client

open Wire (Operation Encoding CodecFault Record)

/-- How calls are made: the encoding of payloads, and the scheme under which credentials are sent,
if they are. -/
structure Settings where
  encoding : Encoding
  scheme : Option String
  deriving DecidableEq

/-- Where a call goes and who issued it. -/
structure Context where
  target : Url
  identity : Identity
  deriving DecidableEq

/-! ## The request -/

/-- The URL of an operation on the target. -/
def endpoint (target : Url) (op : Operation) : Except Cause Url :=
  match target.append op.path with
  | .ok url => .ok url
  | .error _ => .error (.transport (.invalidUrl (target.appendText op.path)))

/-- The request of an operation, before credentials are added. -/
def request (s : Settings) (ctx : Context) (op : Operation) (payload : op.Request) :
    Except Cause Request := do
  let body ← (s.encoding.encode op.requestLayout payload).mapError Cause.codec
  let url ← endpoint ctx.target op
  pure ⟨url, [(contentTypeHeader, s.encoding.contentType)], body, some ctx.identity⟩

/-- The request as the backend gets it. -/
def post (s : Settings) (r : Request) : Except Cause Request :=
  match s.scheme with
  | none => .ok r
  | some scheme => (authorize scheme r).mapError Cause.transport

/-- What a call does at once: post a request, or fail. A call that is canceled already, or whose
time is up already, posts nothing. -/
def start (s : Settings) (ctx : Context) (op : Operation) (payload : op.Request)
    (canceled expired : Bool) : Except Cause Request :=
  if canceled then .error .canceled
  else do
    let r ← request s ctx op payload
    if expired then .error .timedOut else post s r

/-! ## The reply -/

/-- The phrases that go with the statuses of replies. -/
def reasons : List (Nat × String) :=
  [(100, "Continue"), (101, "Switching Protocols"), (102, "Processing"), (103, "Early Hints"),
   (200, "OK"), (201, "Created"), (202, "Accepted"), (203, "Non Authoritative Information"),
   (204, "No Content"), (205, "Reset Content"), (206, "Partial Content"), (207, "Multi-Status"),
   (208, "Already Reported"), (226, "IM Used"), (300, "Multiple Choices"),
   (301, "Moved Permanently"), (302, "Found"), (303, "See Other"), (304, "Not Modified"),
   (305, "Use Proxy"), (307, "Temporary Redirect"), (308, "Permanent Redirect"),
   (400, "Bad Request"), (401, "Unauthorized"), (402, "Payment Required"), (403, "Forbidden"),
   (404, "Not Found"), (405, "Method Not Allowed"), (406, "Not Acceptable"),
   (407, "Proxy Authentication Required"), (408, "Request Timeout"), (409, "Conflict"),
   (410, "Gone"), (411, "Length Required"), (412, "Precondition Failed"),
   (413, "Payload Too Large"), (414, "URI Too Long"), (415, "Unsupported Media Type"),
   (416, "Range Not Satisfiable"), (417, "Expectation Failed"), (418, "I'm a teapot"),
   (421, "Misdirected Request"), (422, "Unprocessable Entity"), (423, "Locked"),
   (424, "Failed Dependency"), (425, "Too Early"), (426, "Upgrade Required"),
   (428, "Precondition Required"), (429, "Too Many Requests"),
   (431, "Request Header Fields Too Large"), (451, "Unavailable For Legal Reasons"),
   (500, "Internal Server Error"), (501, "Not Implemented"), (502, "Bad Gateway"),
   (503, "Service Unavailable"), (504, "Gateway Timeout"), (505, "HTTP Version Not Supported"),
   (506, "Variant Also Negotiates"), (507, "Insufficient Storage"), (508, "Loop Detected"),
   (510, "Not Extended"), (511, "Network Authentication Required")]

/-- Whether a status is a success. -/
def isSuccess (status : Nat) : Bool := 200 ≤ status && status ≤ 299

/-- The failure that a reply without success reports. The error header comes before the message in
the body, and that before the phrase of the status. -/
def backendFailure (e : Encoding) (trace : Trace) (r : Reply) : Failure :=
  let (errno, embedded) := (e.decodeError r.body).getD (0, none)
  let message := ((r.headers.text? errorHeader).or embedded).getD
    ((reasons.lookup r.status).getD "backend error")
  let reported := (r.headers.text? traceHeader).bind fun s => (parseTrace s).toOption
  ⟨.backend r.status (if errno < 0 then 0 else errno) message, some (reported.getD trace)⟩

/-- The response or the failure that an outcome stands for. -/
def classify (e : Encoding) (trace : Trace) (op : Operation) (outcome : Outcome) :
    Except Failure op.Response :=
  match outcome with
  | .error fault => .error ⟨.transport fault, some trace⟩
  | .ok reply =>
    if isSuccess reply.status then
      (e.decode op.responseLayout reply.body).mapError fun fault => ⟨.codec fault, some trace⟩
    else .error (backendFailure e trace reply)

/-! ## What ends a call -/

/-- What a posted call can end with. -/
inductive End
  | canceled
  | deadline
  | reply (outcome : Outcome)

/-- The instants at which a call would be canceled, run out of time and get its reply, if ever. -/
structure Timing where
  cancel : Option Nat
  deadline : Option Nat
  reply : Option (Nat × Outcome)

/-- The earliest instant of a timing. -/
def Timing.first (t : Timing) : Option Nat :=
  ([t.cancel, t.deadline, t.reply.map (·.1)].filterMap id).min?

/-- What ends a call, and when. At the same instant a cancellation comes before the deadline, and
the deadline before the reply. -/
def firstEnd (t : Timing) : Option (Nat × End) :=
  match t.first with
  | none => none
  | some now =>
    if t.cancel = some now then some (now, .canceled)
    else if t.deadline = some now then some (now, .deadline)
    else t.reply.map fun r => (now, .reply r.2)

/-- The result of a call with its end. -/
def resultOf (s : Settings) (trace : Trace) (op : Operation) : End → Except Failure op.Response
  | .canceled => .error ⟨.canceled, some trace⟩
  | .deadline => .error ⟨.timedOut, some trace⟩
  | .reply outcome => classify s.encoding trace op outcome

/-- What becomes of one call on its own: the request that reaches the backend, if any, and the
result, unless the call never ends. The deadline and the delay of the reply count from the
start. -/
def runAlone (s : Settings) (ctx : Context) (op : Operation) (payload : op.Request)
    (t : Timing) : Option Request × Option (Except Failure op.Response) :=
  let trace := ctx.identity.trace
  match start s ctx op payload (t.cancel = some 0) (t.deadline = some 0) with
  | .error cause => (none, some (.error ⟨cause, some trace⟩))
  | .ok r => (some r, (firstEnd t).map fun e => resultOf s trace op e.2)

end FsGateway.Client
