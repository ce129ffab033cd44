import FsGateway.Proofs.Client.Credentials
import Mathlib

/-!
# Who issued a request

A transport can add the headers that say who issued a request. Whatever headers the request had
under their names is gone then, and nothing else about it has changed.

* `Headers.values`: what is under a name, in any case.
* `values_set_self`, `values_set_of_ne`: what a header that is set replaces.
* `post_authorized`: what the other transport gets to post.
-/

namespace FsGateway.Client

/-! ## Values under a name -/

namespace Headers

variable {name other value : String} {hs : Headers}

/-- A name in lowercase. -/
def lower (name : String) : String := name.map Char.toLower

/-- The values under a name, whatever case it is written in. -/
def values (name : String) (hs : List (String × String)) : List String :=
  (hs.filter fun h => lower h.1 = lower name).map Prod.snd

@[simp] theorem lower_lower (name : String) : lower (lower name) = lower name := by
  simp [lower, ← String.toList_inj, Char.toLower_toLower_eq_toLower]

theorem lower_authorizationHeader : lower authorizationHeader = authorizationHeader := by
  rw [← String.toList_inj, lower, String.toList_map]
  rfl

theorem lower_traceHeader : lower traceHeader = traceHeader := by
  rw [← String.toList_inj, lower, String.toList_map]
  rfl

/-- All names are in lowercase. -/
def IsLower (hs : Headers) : Prop := ∀ h ∈ hs, lower h.1 = h.1

theorem isLower_ofList (hs : List (String × String)) : (ofList hs).IsLower := by
  intro h hmem
  obtain ⟨h', -, rfl⟩ := List.mem_map.mp hmem
  exact lower_lower h'.1

theorem values_ofList (name : String) (hs : List (String × String)) :
    values name (ofList hs) = values name hs := by
  have hname (h : String × String) : lower (h.1.map Char.toLower) = lower h.1 := lower_lower h.1
  simp [values, ofList, List.filter_map, Function.comp_def, hname]

theorem IsLower.set (h : hs.IsLower) (hname : lower name = name) (value : String) :
    (hs.set name value).IsLower := by
  intro x hx
  rcases List.mem_append.mp hx with hx | hx
  · exact h x (List.mem_of_mem_filter hx)
  · rw [List.mem_singleton.mp hx]
    exact hname

/-- A header that is set is alone under its name. -/
theorem values_set_self (h : hs.IsLower) (hname : lower name = name) (value : String) :
    values name (hs.set name value) = [value] := by
  have hothers : (hs.filter (·.1 ≠ name)).filter (fun x => lower x.1 = lower name) = [] := by
    rw [List.filter_eq_nil_iff]
    intro x hx
    obtain ⟨hmem, hne⟩ := List.mem_filter.mp hx
    rw [h x hmem, hname]
    simpa using hne
  rw [values, Headers.set, List.filter_append, hothers]
  simp

/-- The others stay. -/
theorem values_set_of_ne (hne : lower other ≠ lower name) (value : String) :
    values other (hs.set name value) = values other hs := by
  have hkept : (hs.filter (·.1 ≠ name)).filter (fun x => lower x.1 = lower other) =
      hs.filter fun x => lower x.1 = lower other := by
    rw [List.filter_filter]
    refine List.filter_congr fun x _ => ?_
    by_cases hx : lower x.1 = lower other
    · have hkeep : x.1 ≠ name := fun heq => hne (by rw [← hx, heq])
      simp [hx, hkeep]
    · simp [hx]
  rw [values, Headers.set, List.filter_append, hkept]
  simp [values, hne.symm]

end Headers

/-! ## Decoration -/

theorem authorize_of_isSendable {scheme : String} {r : Request} {i : Identity}
    (hi : r.identity = some i) (h : Headers.isSendable scheme = true) :
    authorize scheme r = .ok { r with
      headers := (r.headers.set authorizationHeader (i.credential.authorization scheme)).set
        traceHeader (traceText i.trace) } := by
  simp [authorize, hi, isSendable_authorization, h]

theorem authorize_of_not_isSendable {scheme : String} {r : Request} {i : Identity}
    (hi : r.identity = some i) (h : Headers.isSendable scheme = false) :
    authorize scheme r = .error (.invalidHeader authorizationHeader) := by
  simp [authorize, hi, isSendable_authorization, h]

section Post

variable {m : Type → Type} [Monad m] {inner : Transport m} {scheme : String} {r sent : Request}

theorem Transport.post_of_ok (h : authorize scheme r = .ok sent) :
    (inner.authorized scheme).post r = inner.post sent := by
  simp only [Transport.authorized, h]

theorem Transport.post_of_error {fault : TransportFault} (h : authorize scheme r = .error fault) :
    (inner.authorized scheme).post r = pure (.error fault) := by
  simp only [Transport.authorized, h]

end Post

/-- A request that nobody issued is posted as it is. One that somebody issued is posted with two
headers that say so, the only ones of their names, and is otherwise the same. Both can be sent and
read back: the user, the group and the process in base 64, and the trace token. Under a scheme that
cannot be sent, nothing is posted. -/
theorem post_authorized {m : Type → Type} [Monad m] (inner : Transport m) (scheme : String)
    (url : Url) (hs : List (String × String)) (body : Bytes) :
    (inner.authorized scheme).post ⟨url, .ofList hs, body, none⟩ =
        inner.post ⟨url, .ofList hs, body, none⟩ ∧
      ∀ i : Identity,
        (Headers.isSendable scheme = false →
          (inner.authorized scheme).post ⟨url, .ofList hs, body, some i⟩ =
            pure (.error (.invalidHeader authorizationHeader))) ∧
        (Headers.isSendable scheme = true → ∃ headers cs,
          (inner.authorized scheme).post ⟨url, .ofList hs, body, some i⟩ =
              inner.post ⟨url, headers, body, some i⟩ ∧
            Headers.values authorizationHeader headers = [scheme ++ " " ++ String.ofList cs] ∧
            Base64.Spells cs (wordBytes 4 i.credential.uid.toNat ++
              wordBytes 4 i.credential.gid.toNat ++ wordBytes 4 i.credential.pid.toNat) ∧
            Headers.values traceHeader headers = [traceText i.trace] ∧
            parseTrace (traceText i.trace) = .ok i.trace ∧
            (∀ name ∈ [authorizationHeader, traceHeader], ∀ value ∈ Headers.values name headers,
              Headers.isSendable value = true) ∧
            ∀ name, Headers.lower name ≠ authorizationHeader →
              Headers.lower name ≠ traceHeader →
                Headers.values name headers = Headers.values name hs) := by
  refine ⟨rfl, fun i => ⟨fun h => ?refused, fun h => ?posted⟩⟩
  case refused => exact Transport.post_of_error (authorize_of_not_isSendable rfl h)
  case posted =>
    have hlower := Headers.isLower_ofList hs
    have hauth := Headers.lower_authorizationHeader
    have htrace := Headers.lower_traceHeader
    have hne : Headers.lower authorizationHeader ≠ Headers.lower traceHeader := by
      rw [hauth, htrace]
      decide
    have hauthorization := (Headers.values_set_of_ne hne (traceText i.trace)).trans
      (Headers.values_set_self hlower hauth (i.credential.authorization scheme))
    have htoken := Headers.values_set_self
      (hlower.set hauth (i.credential.authorization scheme)) htrace (traceText i.trace)
    refine ⟨_, Base64.encode i.credential.bytes,
      Transport.post_of_ok (authorize_of_isSendable rfl h), hauthorization,
      Base64.spells_encode _, htoken, parseTrace_traceText _, ?_, ?_⟩
    · simp only [List.forall_mem_cons, hauthorization, htoken]
      simp [isSendable_authorization, isSendable_traceText, h]
    · intro name hname hname'
      rw [← hauth] at hname
      rw [← htrace] at hname'
      rw [Headers.values_set_of_ne hname', Headers.values_set_of_ne hname, Headers.values_ofList]

/-- Headers that say something else about who issued a request. -/
def sampleForged : List (String × String) :=
  [("Authorization", "FuseGate forged"), ("AUTHORIZATION", "again"), ("X-Reqid", "1"), ("A", "b")]

/-- A transport that fails on all requests. -/
def sampleTransport : Transport Id := ⟨fun _ => pure (.error .timeout)⟩

theorem post_authorized_forged : ∃ headers cs,
    (sampleTransport.authorized "FuseGate").post
        ⟨⟨"http", none, .bare "", none, none⟩, .ofList sampleForged, [], some ⟨⟨1, 2, 3⟩, 9⟩⟩ =
      sampleTransport.post ⟨⟨"http", none, .bare "", none, none⟩, headers, [],
        some ⟨⟨1, 2, 3⟩, 9⟩⟩ ∧
    Headers.values authorizationHeader headers = ["FuseGate" ++ " " ++ String.ofList cs] ∧
    Base64.Spells cs [1, 0, 0, 0, 2, 0, 0, 0, 3, 0, 0, 0] := by
  obtain ⟨-, hsome⟩ := post_authorized sampleTransport "FuseGate" ⟨"http", none, .bare "", none, none⟩
    sampleForged []
  have hsendable : Headers.isSendable "FuseGate" = true := rfl
  obtain ⟨headers, cs, hpost, hvalues, hspells, -⟩ := (hsome ⟨⟨1, 2, 3⟩, 9⟩).2 hsendable
  exact ⟨headers, cs, hpost, hvalues, hspells⟩

end FsGateway.Client
