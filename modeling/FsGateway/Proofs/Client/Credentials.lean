import FsGateway.Client.Http
import FsGateway.Proofs.Client.Classification
import FsGateway.Proofs.Text.Characters

/-!
# Credentials and trace tokens in headers

What the headers of a request say is spelled in base 64 and in base 36. All of it can be sent, unless
the scheme cannot.

* `Base64.spells_encode`: what base 64 spells.
* `parseTrace_traceText`: a trace token is read back.
* `isSendable_authorization`: whether a credential can be sent depends on the scheme alone.
-/

namespace FsGateway.Client

/-! ## Base 64 -/

namespace Base64

/-- Characters spell bytes: four characters for three bytes, with equality signs for bytes that are
missing at the end. -/
inductive Spells : List Char → Bytes → Prop
  | nil : Spells [] []
  | one {a b : Char} {i j : Nat} {x : UInt8} : value? a = some i → value? b = some j →
      i * 64 + j = x.toNat * 16 → Spells [a, b, '=', '='] [x]
  | two {a b c : Char} {i j k : Nat} {x y : UInt8} : value? a = some i → value? b = some j →
      value? c = some k → (i * 64 + j) * 64 + k = (x.toNat * 256 + y.toNat) * 4 →
      Spells [a, b, c, '='] [x, y]
  | three {a b c d : Char} {i j k l : Nat} {x y z : UInt8} {cs : List Char} {bs : Bytes} :
      value? a = some i → value? b = some j → value? c = some k → value? d = some l →
      ((i * 64 + j) * 64 + k) * 64 + l = (x.toNat * 256 + y.toNat) * 256 + z.toNat →
      Spells cs bs → Spells (a :: b :: c :: d :: cs) (x :: y :: z :: bs)

theorem value_digit {n : Nat} (h : n < 64) : value? (digit n) = some n := by
  have hall : ∀ n ∈ List.range 64, value? (digit n) = some n := by decide
  exact hall n (List.mem_range.mpr h)

theorem spells_encode (bs : Bytes) : Spells (encode bs) bs := by
  induction bs using encode.induct with
  | case1 x y z rest ih =>
    have hx := x.toNat_lt
    have hy := y.toNat_lt
    have hz := z.toNat_lt
    refine .three (value_digit ?_) (value_digit ?_) (value_digit ?_) (value_digit ?_) ?_ ih <;> omega
  | case2 x y =>
    have hx := x.toNat_lt
    have hy := y.toNat_lt
    refine .two (value_digit ?_) (value_digit ?_) (value_digit ?_) ?_ <;> omega
  | case3 x =>
    have hx := x.toNat_lt
    refine .one (value_digit ?_) (value_digit ?_) ?_ <;> omega
  | case4 => exact .nil

end Base64

/-! ## Trace tokens -/

theorem traceDigit_digit {n : Nat} (h : n < 36) : traceDigit? (traceText.digit n) = some n := by
  have hall : ∀ n ∈ List.range 36, traceDigit? (traceText.digit n) = some n := by decide
  exact hall n (List.mem_range.mpr h)

/-- The digits of a number have its value. -/
theorem exists_digits (n : Nat) :
    ∃ ds, (traceText.digits n).map traceDigit? = ds.map some ∧ shiftIn 0 ds = n := by
  induction n using traceText.digits.induct with
  | case1 n hlt =>
    refine ⟨[n], ?_, by simp [shiftIn]⟩
    rw [traceText.digits, if_pos hlt, List.map_singleton, traceDigit_digit hlt]
    rfl
  | case2 n hge ih =>
    obtain ⟨ds, hds, hvalue⟩ := ih
    refine ⟨ds ++ [n % 36], ?_, ?_⟩
    · rw [traceText.digits, if_neg hge, List.map_append, hds, List.map_append,
        List.map_singleton, traceDigit_digit (Nat.mod_lt n (by omega))]
      rfl
    · rw [shiftIn] at hvalue ⊢
      rw [List.foldl_append, hvalue, List.foldl_cons, List.foldl_nil]
      exact Nat.div_add_mod' n 36

theorem parseTrace_traceText (t : Trace) : parseTrace (traceText t) = .ok t := by
  obtain ⟨ds, hds, hvalue⟩ := exists_digits t.toNat
  have hne : traceText.digits t.toNat ≠ [] := by
    rw [traceText.digits]
    split <;> simp
  exact parseTrace_eq_ok_iff.mpr
    ⟨traceText.digits t.toNat, ds, Or.inl String.toList_ofList, hne, hds, hvalue⟩

/-! ## What can be sent -/

theorem isSendable_append (s t : String) :
    Headers.isSendable (s ++ t) = (Headers.isSendable s && Headers.isSendable t) := by
  simp [Headers.isSendable, Text.encode_eq_flatMap]

/-- A character of ASCII that is no control character. -/
def IsVisible (c : Char) : Prop := 0x20 ≤ c.toNat ∧ c.toNat < 0x7F

instance (c : Char) : Decidable (IsVisible c) := inferInstanceAs (Decidable (_ ∧ _))

theorem isSendable_ofList {cs : List Char} (h : ∀ c ∈ cs, IsVisible c) :
    Headers.isSendable (String.ofList cs) = true := by
  rw [Headers.isSendable, Text.encode_ofList, List.all_eq_true]
  intro b hb
  obtain ⟨c, hc, hbc⟩ := List.mem_flatMap.mp hb
  obtain ⟨hlow, hhigh⟩ := h c hc
  rw [Text.encodeChar_ascii (by omega), List.mem_singleton] at hbc
  subst hbc
  have hvalue : (UInt8.ofNat c.toNat).toNat = c.toNat := by
    rw [UInt8.toNat_ofNat', Nat.mod_eq_of_lt (by omega)]
  have hdelete : UInt8.ofNat c.toNat ≠ 0x7F := by
    intro heq
    rw [heq] at hvalue
    have h7F : (0x7F : UInt8).toNat = 0x7F := rfl
    omega
  simpa [UInt8.le_iff_toNat_le, hvalue, hdelete] using Or.inr hlow

theorem Base64.isVisible_digit {n : Nat} (h : n < 64) : IsVisible (digit n) := by
  have hall : ∀ n ∈ List.range 64, IsVisible (digit n) := by decide
  exact hall n (List.mem_range.mpr h)

theorem Base64.isVisible_encode (bs : Bytes) : ∀ c ∈ encode bs, IsVisible c := by
  have hpadding : IsVisible '=' := by decide
  induction bs using encode.induct with
  | case1 x y z rest ih =>
    have hx := x.toNat_lt
    have hy := y.toNat_lt
    have hz := z.toNat_lt
    simp only [encode, List.forall_mem_cons]
    refine ⟨isVisible_digit ?_, isVisible_digit ?_, isVisible_digit ?_, isVisible_digit ?_, ih⟩ <;>
      omega
  | case2 x y =>
    have hx := x.toNat_lt
    have hy := y.toNat_lt
    simp only [encode, List.forall_mem_cons]
    refine ⟨isVisible_digit ?_, isVisible_digit ?_, isVisible_digit ?_, hpadding, by simp⟩ <;> omega
  | case3 x =>
    have hx := x.toNat_lt
    simp only [encode, List.forall_mem_cons]
    refine ⟨isVisible_digit ?_, isVisible_digit ?_, hpadding, hpadding, by simp⟩ <;> omega
  | case4 => simp [encode]

/-- A credential can be sent under the schemes that can be sent themselves. -/
theorem isSendable_authorization (scheme : String) (c : Credential) :
    Headers.isSendable (c.authorization scheme) = Headers.isSendable scheme := by
  have hspace : Headers.isSendable " " = true := by
    have hvisible : IsVisible ' ' := by decide
    exact isSendable_ofList (List.forall_mem_singleton.mpr hvisible)
  rw [Credential.authorization, isSendable_append, isSendable_append, hspace,
    isSendable_ofList (Base64.isVisible_encode c.bytes), Bool.and_true, Bool.and_true]

theorem isVisible_traceDigits (n : Nat) : ∀ c ∈ traceText.digits n, IsVisible c := by
  have hall : ∀ n ∈ List.range 36, IsVisible (traceText.digit n) := by decide
  induction n using traceText.digits.induct with
  | case1 n hlt =>
    rw [traceText.digits, if_pos hlt]
    simpa using hall n (List.mem_range.mpr hlt)
  | case2 n hge ih =>
    rw [traceText.digits, if_neg hge]
    intro c hc
    rcases List.mem_append.mp hc with hc | hc
    · exact ih c hc
    · rw [List.mem_singleton.mp hc]
      exact hall _ (List.mem_range.mpr (Nat.mod_lt n (by omega)))

theorem isSendable_traceText (t : Trace) : Headers.isSendable (traceText t) = true :=
  isSendable_ofList (isVisible_traceDigits t.toNat)

end FsGateway.Client
