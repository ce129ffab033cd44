import FsGateway.Proofs.Client.Identity
import FsGateway.Settings.Configuration

/-!
# Schemes of accepted configurations

A configuration is accepted only with a scheme that is not empty and has no blank in it. Such a
scheme can be sent in a header unless it has a control character. If it has one, the gateway starts,
but no call of it posts anything.

* `isSendable_iff`: the texts that can be sent in a header.
* `scheme_passes_iff`: the accepted schemes under which requests are passed on.
* `not_acceptedSchemesPass`: an accepted scheme under which none is.
-/

namespace FsGateway.Client

/-! ## Texts that can be sent -/

/-- A control character of ASCII. -/
def IsControl (c : Char) : Prop := c.toNat < 0x20 ∨ c.toNat = 0x7F

instance (c : Char) : Decidable (IsControl c) := inferInstanceAs (Decidable (_ ∨ _))

/-- The bytes of a character can stand in a header unless it is a control character. Of these, only
the tab can. -/
theorem encodeChar_sendable_iff (c : Char) :
    ((String.utf8EncodeChar c).all fun b => b = 0x09 || (0x20 ≤ b && b ≠ 0x7F)) = true ↔
      c = '\t' ∨ ¬IsControl c := by
  by_cases hascii : c.toNat < 0x80
  · have hvalue : (UInt8.ofNat c.toNat).toNat = c.toNat := by
      rw [UInt8.toNat_ofNat', Nat.mod_eq_of_lt (by omega)]
    have htab : UInt8.ofNat c.toNat = 0x09 ↔ c = '\t' := by
      rw [← UInt8.toNat_inj, hvalue]
      exact ⟨fun h => Char.toNat_inj.mp h, fun h => h ▸ rfl⟩
    have hdelete : UInt8.ofNat c.toNat = 0x7F ↔ c.toNat = 0x7F := by
      rw [← UInt8.toNat_inj, hvalue]
      rfl
    have hlow : 0x20 ≤ UInt8.ofNat c.toNat ↔ 0x20 ≤ c.toNat := by
      rw [UInt8.le_iff_toNat_le, hvalue]
      rfl
    simp [Text.encodeChar_ascii hascii, htab, hdelete, hlow, IsControl]
  · have hcontrol : ¬IsControl c := by
      rintro (h | h) <;> omega
    refine iff_of_true (List.all_eq_true.mpr fun b hb => ?_) (.inr hcontrol)
    have hhigh : 0x80 ≤ b.toNat := Text.le_of_mem_encodeChar (Nat.le_of_not_lt hascii) b hb
    have hdelete : b ≠ 0x7F := by
      rintro rfl
      exact absurd hhigh (by decide)
    simpa [UInt8.le_iff_toNat_le, hdelete] using Or.inr (Nat.le_trans (by decide) hhigh)

/-- A text can be sent exactly if it has no control character but the tab. -/
theorem isSendable_iff {s : String} :
    Headers.isSendable s = true ↔ ∀ c ∈ s.toList, c = '\t' ∨ ¬IsControl c := by
  rw [Headers.isSendable, Text.encode_eq_flatMap, List.all_flatMap, List.all_eq_true]
  exact forall₂_congr fun c _ => encodeChar_sendable_iff c

/-! ## Requests under a scheme -/

/-- A request with the headers that say who issued it. -/
def Request.signed (scheme : String) (i : Identity) (r : Request) : Request :=
  { r with
    headers := (r.headers.set authorizationHeader (i.credential.authorization scheme)).set
      traceHeader (traceText i.trace) }

/-- Every request that somebody issued is passed on to the other transport, with the headers that
say who it was. -/
def PassesOn (scheme : String) : Prop :=
  ∀ (m : Type → Type) [Monad m] (inner : Transport m) (r : Request) (i : Identity),
    r.identity = some i → (inner.authorized scheme).post r = inner.post (r.signed scheme i)

/-- No request that somebody issued is passed on. -/
def Refuses (scheme : String) : Prop :=
  ∀ (m : Type → Type) [Monad m] (inner : Transport m) (r : Request) (i : Identity),
    r.identity = some i →
      (inner.authorized scheme).post r = pure (.error (.invalidHeader authorizationHeader))

theorem passesOn_of_isSendable {scheme : String} (h : Headers.isSendable scheme = true) :
    PassesOn scheme :=
  fun _ _ _ _ _ hi => Transport.post_of_ok (authorize_of_isSendable hi h)

theorem refuses_of_not_isSendable {scheme : String} (h : Headers.isSendable scheme = false) :
    Refuses scheme :=
  fun _ _ _ _ _ hi => Transport.post_of_error (authorize_of_not_isSendable hi h)

/-- A request that somebody issued. -/
def sampleIssued : Request :=
  ⟨⟨"http", none, .bare "", none, none⟩, [], [], some ⟨⟨1, 2, 3⟩, 9⟩⟩

/-- No scheme does both. -/
theorem not_passesOn_of_refuses {scheme : String} (h : Refuses scheme) : ¬PassesOn scheme := by
  intro hpasses
  have hposted := hpasses Id sampleTransport sampleIssued _ rfl
  rw [h Id sampleTransport sampleIssued _ rfl] at hposted
  cases hposted

/-- Under a scheme that cannot be sent, calls post nothing. They fail, and unless they were given up
before they began, the kernel sees an error of input or output. -/
theorem runAlone_of_not_isSendable {s : Settings} {scheme : String}
    (hscheme : s.scheme = some scheme) (h : Headers.isSendable scheme = false) (ctx : Context)
    (op : Wire.Operation) (payload : op.Request) (t : Timing) :
    ∃ f, runAlone s ctx op payload t = (none, some (.error f)) ∧
      (t.cancel ≠ some 0 → t.deadline ≠ some 0 → f.toErrno = Errno.eio) := by
  have hcannot : canAuthorize s ctx.identity = false := by
    rw [canAuthorize, hscheme, Option.all_some, isSendable_authorization, h]
  have hstarts := starts s ctx op payload (t.cancel = some 0) (t.deadline = some 0)
  unfold runAlone
  generalize hcanceled : decide (t.cancel = some 0) = canceled at hstarts ⊢
  generalize hexpired : decide (t.deadline = some 0) = expired at hstarts ⊢
  generalize start s ctx op payload canceled expired = result at hstarts ⊢
  cases hstarts with
  | canceled => exact ⟨_, rfl, fun hcancel => absurd (of_decide_eq_true hcanceled) hcancel⟩
  | unreachable => exact ⟨_, rfl, fun _ _ => rfl⟩
  | expired => exact ⟨_, rfl, fun _ hdeadline => absurd (of_decide_eq_true hexpired) hdeadline⟩
  | refused => exact ⟨_, rfl, fun _ _ => rfl⟩
  | posted hcan => cases hcannot.symm.trans hcan

end FsGateway.Client

namespace FsGateway.Settings.Configuration

open FsGateway.Client

variable {c : Configuration}

/-! ## Schemes that are accepted -/

/-- The scheme of an accepted configuration has no blank. -/
theorem scheme_of_accepted (hc : c.defect? = none) :
    ∀ x ∈ c.authScheme.toList, Text.isBlank x = false := by
  intro x hx
  unfold defect? at hc
  split at hc
  · cases hc
  · split at hc
    · cases hc
    · rename_i hscheme
      rw [Bool.or_eq_true, not_or] at hscheme
      exact Bool.eq_false_iff.mpr fun hblank => hscheme.2 (List.any_eq_true.mpr ⟨x, hx, hblank⟩)

theorem isSendable_scheme_iff (hc : c.defect? = none) :
    Headers.isSendable c.authScheme = true ↔ ∀ x ∈ c.authScheme.toList, ¬IsControl x := by
  rw [isSendable_iff]
  refine forall₂_congr fun x hx => or_iff_right_of_imp ?_
  rintro rfl
  cases scheme_of_accepted hc '\t' hx

/-- Under the scheme of an accepted configuration, requests are passed on with the headers that say
who issued them, exactly if the scheme has no control character. If it has one, none is passed on,
and every call of the gateway fails without having posted anything. -/
theorem scheme_passes_iff (hc : c.defect? = none) :
    (PassesOn c.authScheme ↔ ∀ x ∈ c.authScheme.toList, ¬IsControl x) ∧
      ∀ x ∈ c.authScheme.toList, IsControl x →
        Refuses c.authScheme ∧ ∀ ctx op payload t, ∃ f,
          runAlone c.setup.client ctx op payload t = (none, some (.error f)) ∧
            (t.cancel ≠ some 0 → t.deadline ≠ some 0 → f.toErrno = Errno.eio) := by
  have hsendable := isSendable_scheme_iff hc
  refine ⟨⟨fun hpasses => ?_, fun h => passesOn_of_isSendable (hsendable.mpr h)⟩, ?_⟩
  · by_contra hnot
    rw [← hsendable, Bool.not_eq_true] at hnot
    exact not_passesOn_of_refuses (refuses_of_not_isSendable hnot) hpasses
  · intro x hx hcontrol
    have hnot : Headers.isSendable c.authScheme = false := by
      rw [← Bool.not_eq_true, hsendable]
      exact fun h => h x hx hcontrol
    exact ⟨refuses_of_not_isSendable hnot, runAlone_of_not_isSendable rfl hnot⟩

/-- A configuration whose scheme has a control character in it. -/
def sampleDelete : Configuration := { (default : Configuration) with authScheme := "Fuse\x7fGate" }

theorem scheme_passes_delete : sampleDelete.defect? = none ∧
    load none [("FUSEGATE_AUTH_SCHEME", "Fuse\x7fGate")] = .ok sampleDelete ∧
    (sampleTransport.authorized sampleDelete.authScheme).post sampleIssued =
      pure (.error (.invalidHeader authorizationHeader)) ∧
    (default : Configuration).defect? = none ∧ PassesOn (default : Configuration).authScheme := by
  have haccepted : sampleDelete.defect? = none := by decide
  have hdefault : (default : Configuration).defect? = none := by decide
  have hload : load none [("FUSEGATE_AUTH_SCHEME", "Fuse\x7fGate")] = .ok sampleDelete := by
    decide +kernel
  have hvisible := (isSendable_scheme_iff hdefault).mp rfl
  obtain ⟨-, hrefuses⟩ := scheme_passes_iff haccepted
  obtain ⟨hpasses, -⟩ := scheme_passes_iff hdefault
  refine ⟨haccepted, hload, ?_, hdefault, hpasses.mpr hvisible⟩
  exact (hrefuses '\x7f' (by decide) (by decide)).1 Id sampleTransport sampleIssued _ rfl

/-- Under every scheme that is accepted, requests are passed on. -/
def AcceptedSchemesPass : Prop := ∀ c : Configuration, c.defect? = none → PassesOn c.authScheme

/-- The delete character is no blank, but no header can carry it. -/
theorem not_acceptedSchemesPass : ¬AcceptedSchemesPass := by
  intro h
  have hrefuses : Refuses sampleDelete.authScheme := refuses_of_not_isSendable (by decide)
  exact not_passesOn_of_refuses hrefuses (h sampleDelete (by decide))

end FsGateway.Settings.Configuration
