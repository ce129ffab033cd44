import FsGateway.Client.Call
import FsGateway.Proofs.Wire.RoundTrip

/-!
# What a call posts

A call posts one request, or it fails before anything is posted.

* `IsRequest`: what the request of an operation contains.
* `Starts`: what a call does at once. `starts`: every call starts this way.
-/

namespace FsGateway.Client

open Wire (Operation)

/-- The headers of a request. Who issued it is said only under a scheme. -/
def headersOf (s : Settings) (identity : Identity) : Headers :=
  (contentTypeHeader, s.encoding.contentType) ::
    match s.scheme with
    | none => []
    | some scheme => [(authorizationHeader, identity.credential.authorization scheme),
        (traceHeader, traceText identity.trace)]

/-- The request of an operation: it goes to the path of the operation on the target, its body is the
payload, and it carries the identity of the call. -/
structure IsRequest (s : Settings) (ctx : Context) (op : Operation) (payload : op.Request)
    (r : Request) : Prop where
  url : ctx.target.append op.path = .ok r.url
  headers : r.headers = headersOf s ctx.identity
  body : s.encoding.encode op.requestLayout payload = .ok r.body
  identity : r.identity = some ctx.identity

/-- Whether the transport sends requests of an identity: its credential must be sendable. -/
def canAuthorize (s : Settings) (identity : Identity) : Bool :=
  s.scheme.all fun scheme => Headers.isSendable (identity.credential.authorization scheme)

/-- What a call does at once. -/
inductive Starts (s : Settings) (ctx : Context) (op : Operation) (payload : op.Request) :
    Bool → Bool → Except Cause Request → Prop
  | canceled {expired : Bool} : Starts s ctx op payload true expired (.error .canceled)
  /-- There is no URL for the operation. -/
  | unreachable {expired : Bool} {fault : Url.Fault} : ctx.target.append op.path = .error fault →
      Starts s ctx op payload false expired
        (.error (.transport (.invalidUrl (ctx.target.appendText op.path))))
  | expired {url : Url} : ctx.target.append op.path = .ok url →
      Starts s ctx op payload false true (.error .timedOut)
  /-- The credential cannot be sent. -/
  | refused {url : Url} : ctx.target.append op.path = .ok url →
      canAuthorize s ctx.identity = false →
      Starts s ctx op payload false false (.error (.transport (.invalidHeader authorizationHeader)))
  | posted {r : Request} : canAuthorize s ctx.identity = true → IsRequest s ctx op payload r →
      Starts s ctx op payload false false (.ok r)

variable {s : Settings} {ctx : Context} {op : Operation}

/-- The payload of a request can always be written. -/
theorem exists_body (s : Settings) (op : Operation) (payload : op.Request) :
    ∃ body, s.encoding.encode op.requestLayout payload = .ok body := by
  obtain ⟨body, hbody, -⟩ := Wire.Encoding.decode_encode (op.distinct .request)
    (op.fields_layout .request) s.encoding payload
  exact ⟨body, hbody⟩

theorem request_of_unreachable (payload : op.Request) {fault : Url.Fault}
    (h : ctx.target.append op.path = .error fault) :
    request s ctx op payload =
      .error (.transport (.invalidUrl (ctx.target.appendText op.path))) := by
  obtain ⟨body, hbody⟩ := exists_body s op payload
  rw [request, hbody, endpoint, h]
  rfl

theorem request_of_url (payload : op.Request) {url : Url} {body : Bytes}
    (h : ctx.target.append op.path = .ok url)
    (hbody : s.encoding.encode op.requestLayout payload = .ok body) :
    request s ctx op payload = .ok ⟨url, [(contentTypeHeader, s.encoding.contentType)], body,
      some ctx.identity⟩ := by
  rw [request, hbody, endpoint, h]
  rfl

/-- The transport posts a request with its credential, or refuses it. -/
theorem post_request {url : Url} {body : Bytes} (s : Settings) (identity : Identity) :
    post s ⟨url, [(contentTypeHeader, s.encoding.contentType)], body, some identity⟩ =
      if canAuthorize s identity then .ok ⟨url, headersOf s identity, body, some identity⟩
      else .error (.transport (.invalidHeader authorizationHeader)) := by
  cases hscheme : s.scheme with
  | none => simp [post, canAuthorize, headersOf, hscheme]
  | some scheme =>
    by_cases h : Headers.isSendable (identity.credential.authorization scheme) = true
    · simp [post, authorize, canAuthorize, headersOf, hscheme, h, Headers.set, contentTypeHeader,
        authorizationHeader, traceHeader]
    · simp [post, authorize, canAuthorize, hscheme, h]

/-- Every call starts by posting its request or by one of its failures. -/
theorem starts (s : Settings) (ctx : Context) (op : Operation) (payload : op.Request)
    (canceled expired : Bool) :
    Starts s ctx op payload canceled expired (start s ctx op payload canceled expired) := by
  cases canceled with
  | true => exact .canceled
  | false =>
    cases hurl : ctx.target.append op.path with
    | error fault =>
      have hstart : start s ctx op payload false expired =
          .error (.transport (.invalidUrl (ctx.target.appendText op.path))) := by
        rw [start, request_of_unreachable payload hurl]
        rfl
      rw [hstart]
      exact .unreachable hurl
    | ok url =>
      obtain ⟨body, hbody⟩ := exists_body s op payload
      have hrequest := request_of_url payload hurl hbody
      cases expired with
      | true =>
        have hstart : start s ctx op payload false true = .error .timedOut := by
          rw [start, hrequest]
          rfl
        rw [hstart]
        exact .expired hurl
      | false =>
        have hstart : start s ctx op payload false false =
            post s ⟨url, [(contentTypeHeader, s.encoding.contentType)], body,
              some ctx.identity⟩ := by
          rw [start, hrequest]
          rfl
        rw [hstart, post_request]
        split
        · rename_i hcan
          exact .posted hcan ⟨hurl, rfl, hbody, rfl⟩
        · rename_i hcannot
          exact .refused hurl (by simpa using hcannot)

end FsGateway.Client
