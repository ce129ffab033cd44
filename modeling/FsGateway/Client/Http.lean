import FsGateway.Client.Credential
import FsGateway.Url.Basic

/-!
# Requests and replies

The backend is reached by posting a body and reading a whole reply. Names of headers are in
lowercase.

* `authorize`: a request with the headers that say who issued it, if it has an identity.
* `Transport.authorized`: a transport that adds these headers.
-/

namespace FsGateway.Client

/-- Headers in the order in which they were added. -/
abbrev Headers := List (String × String)

namespace Headers

/-- Headers whose names are brought to lowercase. -/
def ofList (hs : List (String × String)) : Headers := hs.map fun h => (h.1.map Char.toLower, h.2)

/-- The headers with one value under a name, in place of all values that it had. -/
def set (name value : String) (hs : Headers) : Headers := hs.filter (·.1 ≠ name) ++ [(name, value)]

/-- Whether a value can be read as text: visible characters of ASCII, spaces and tabs. -/
def isReadable (value : String) : Bool :=
  value.toList.all fun c => (0x20 ≤ c.toNat && c.toNat ≤ 0x7E) || c = '\t'

/-- The first value under a name, if it can be read as text. -/
def text? (name : String) (hs : Headers) : Option String :=
  (hs.lookup name).filter isReadable

/-- Whether a text can be sent as the value of a header: no control character but the tab. -/
def isSendable (value : String) : Bool :=
  (Text.encode value).all fun b => b = 0x09 || (0x20 ≤ b && b ≠ 0x7F)

end Headers

/-- A request to the backend. -/
structure Request where
  url : Url
  headers : Headers
  body : Bytes
  identity : Option Identity
  deriving DecidableEq

/-- The reply of the backend. -/
structure Reply where
  status : Nat
  headers : Headers
  body : Bytes
  deriving DecidableEq, Repr

/-- Why no reply comes. -/
inductive TransportFault
  /-- The request failed, with what the client says of it. -/
  | request (text : String)
  | timeout
  | invalidHeader (name : String)
  | invalidUrl (url : String)
  deriving DecidableEq, Repr

/-- The wording of a fault. -/
def TransportFault.message : TransportFault → String
  | request text => "HTTP request failed: " ++ text
  | timeout => "HTTP request timed out"
  | invalidHeader name => "invalid value for header " ++ name
  | invalidUrl url => "invalid backend URL " ++ url

/-- What becomes of a request. -/
abbrev Outcome := Except TransportFault Reply

/-- The header that carries the credential. -/
def authorizationHeader : String := "authorization"

/-- The header that carries the trace token, in both directions. -/
def traceHeader : String := "x-reqid"

/-- The header of a reply that carries an error message. -/
def errorHeader : String := "x-err"

/-- The header that names the media type of a body. -/
def contentTypeHeader : String := "content-type"

/-- A request with its credential under a scheme and its trace token. A request without identity
stays as it is. -/
def authorize (scheme : String) (r : Request) : Except TransportFault Request :=
  match r.identity with
  | none => .ok r
  | some identity =>
    let value := identity.credential.authorization scheme
    if Headers.isSendable value then
      .ok { r with
        headers := (r.headers.set authorizationHeader value).set traceHeader
          (traceText identity.trace) }
    else .error (.invalidHeader authorizationHeader)

/-- What posts requests. -/
structure Transport (m : Type → Type) where
  post : Request → m Outcome

/-- The transport that says who issued a request and leaves the rest to another one. -/
def Transport.authorized {m : Type → Type} [Monad m] (scheme : String) (inner : Transport m) :
    Transport m where
  post r :=
    match authorize scheme r with
    | .ok sent => inner.post sent
    | .error fault => pure (.error fault)

end FsGateway.Client
