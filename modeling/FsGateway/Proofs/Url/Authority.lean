import FsGateway.Proofs.Outcome
import FsGateway.Proofs.Url.Host
import FsGateway.Url.Basic

/-!
# Authorities

What follows an authority plays no part in how the authority is read.

* `isRead_of_takeAuthority`: what an authority that was read consists of.
* `takeAuthority_text`: the text of an authority is read the same whatever follows it.
-/

namespace FsGateway.Url

variable {scheme : String} {kind : Kind} {cs login rest : List Char} {a : Authority}

/-! ## The steps of reading an authority -/

/-- The port behind a colon, if there is one, and the characters after it. -/
def takePort (scheme : String) : List Char → Except Fault (Option Nat × List Char)
  | ':' :: rest => splitPort scheme rest
  | rest => .ok (none, rest)

/-- The authority of a login, a host and a port. -/
def authorityOf (login : List Char) (host : Host) (port : Option Nat) : Authority :=
  ⟨String.ofList (percentEncode .userinfo (login.takeWhile (· ≠ ':'))),
    String.ofList (percentEncode .userinfo ((login.dropWhile (· ≠ ':')).drop 1)), host, port⟩

/-- Whether a login has a user or a password. -/
def hasLogin (login : List Char) : Bool :=
  !(login.takeWhile (· ≠ ':')).isEmpty || !((login.dropWhile (· ≠ ':')).drop 1).isEmpty

/-- The authority of a login, from the characters behind the login. -/
def afterLogin (scheme : String) (kind : Kind) (login cs : List Char) :
    Except Fault (Authority × List Char) := do
  let (host, rest) ← takeHost kind cs
  if hasLogin login ∧ host = .name "" then .error .emptyHost
  let (port, rest) ← match rest with
    | ':' :: rest => splitPort scheme rest
    | rest => pure (none, rest)
  pure (authorityOf login host port, rest)

theorem afterLogin_eq (scheme : String) (kind : Kind) (login cs : List Char) :
    afterLogin scheme kind login cs = (takeHost kind cs).bind fun r =>
      if hasLogin login ∧ r.1 = .name "" then .error .emptyHost
      else (takePort scheme r.2).map fun p => (authorityOf login r.1 p.1, p.2) := by
  unfold afterLogin
  cases takeHost kind cs with
  | error fault => rfl
  | ok r =>
    dsimp only [bind, Except.bind]
    split
    · rfl
    · unfold takePort
      split
      · rename_i rest _
        cases splitPort scheme rest <;> rfl
      · rfl

/-- An authority is its login, its host and its port. A sign at with nothing before it must not be
followed by the end. -/
theorem takeAuthority_eq (scheme : String) (kind : Kind) (cs : List Char) :
    takeAuthority scheme kind cs =
      match splitLogin kind cs with
      | none => afterLogin scheme kind [] cs
      | some ([], c :: rest) =>
        if endsAuthority kind c then .error .emptyHost else afterLogin scheme kind [] (c :: rest)
      | some r => afterLogin scheme kind r.1 r.2 := by
  unfold takeAuthority
  cases splitLogin kind cs with
  | none => rfl
  | some r =>
    match r with
    | (c :: login, rest) => rfl
    | ([], []) => rfl
    | ([], c :: rest) =>
      dsimp only [bind, Except.bind]
      split <;> rfl

theorem mem_of_splitLogin {back : List Char} (h : splitLogin kind cs = some (login, back)) :
    ∀ c ∈ back, c ∈ cs := by
  unfold splitLogin at h
  dsimp only at h
  split at h
  · cases h
    exact fun c hc => List.mem_of_mem_drop hc
  · cases h

/-- What an authority that was read consists of. -/
theorem takeAuthority_eq_ok (h : takeAuthority scheme kind cs = .ok (a, rest)) :
    ∃ login back host behind port, (∀ c ∈ back, c ∈ cs) ∧
      takeHost kind back = .ok (host, behind) ∧ ¬(hasLogin login ∧ host = .name "") ∧
      takePort scheme behind = .ok (port, rest) ∧ a = authorityOf login host port := by
  have hafter : ∀ {login back : List Char}, (∀ c ∈ back, c ∈ cs) →
      afterLogin scheme kind login back = .ok (a, rest) →
      ∃ login back host behind port, (∀ c ∈ back, c ∈ cs) ∧
        takeHost kind back = .ok (host, behind) ∧ ¬(hasLogin login ∧ host = .name "") ∧
        takePort scheme behind = .ok (port, rest) ∧ a = authorityOf login host port := by
    intro login back hback h
    rw [afterLogin_eq] at h
    cases hhost : takeHost kind back with
    | error fault =>
      rw [hhost] at h
      cases h
    | ok r =>
      rw [hhost] at h
      dsimp only [Except.bind] at h
      split at h
      · cases h
      · rename_i hlogin
        cases hport : takePort scheme r.2 with
        | error fault =>
          rw [hport] at h
          cases h
        | ok p =>
          rw [hport] at h
          cases h
          exact ⟨login, back, r.1, r.2, p.1, hback, hhost, hlogin, hport, rfl⟩
  rw [takeAuthority_eq] at h
  split at h
  · exact hafter (fun c hc => hc) h
  · rename_i hlogin
    split at h
    · cases h
    · exact hafter (mem_of_splitLogin hlogin) h
  · rename_i hlogin
    exact hafter (mem_of_splitLogin hlogin) h

/-! ## What follows an authority -/

/-- Whether an authority ends before some characters. -/
def Ends (kind : Kind) (rest : List Char) : Prop := ∀ c ∈ rest.head?, endsAuthority kind c = true

/-- Whether no character ends an authority. -/
def Continues (kind : Kind) (cs : List Char) : Prop := ∀ c ∈ cs, endsAuthority kind c = false

theorem Continues.takeWhile (hcs : Continues kind cs) :
    cs.takeWhile (fun c => !endsAuthority kind c) = cs :=
  List.takeWhile_eq_self_iff.mpr fun c hc => by simp [hcs c hc]

theorem takeWhile_append {p : Char → Bool} (h : ∀ c ∈ rest.head?, p c = false) :
    (cs ++ rest).takeWhile p = cs.takeWhile p := by
  induction cs with
  | nil =>
    cases rest with
    | nil => rfl
    | cons c rest => simp [h c rfl]
  | cons c cs ih =>
    rw [List.cons_append, List.takeWhile_cons, List.takeWhile_cons, ih]

theorem splitLogin_append (hcs : Continues kind cs) (hrest : Ends kind rest) :
    splitLogin kind (cs ++ rest) = (splitLogin kind cs).map fun r => (r.1, r.2 ++ rest) := by
  have hfront : (cs ++ rest).takeWhile (fun c => !endsAuthority kind c) = cs :=
    (takeWhile_append fun c hc => by simp [hrest c hc]).trans hcs.takeWhile
  have hback : (cs.reverse.takeWhile (· ≠ '@')).length ≤ cs.length := by
    simpa using (List.takeWhile_prefix (l := cs.reverse) (· ≠ '@')).length_le
  unfold splitLogin
  rw [hfront, hcs.takeWhile]
  dsimp only
  split
  · rw [List.drop_append_of_le_length (by omega)]
    rfl
  · rfl

theorem splitHost_append (inBrackets : Bool) (hcs : Continues kind cs) (hrest : Ends kind rest) :
    splitHost kind inBrackets (cs ++ rest) =
      ((splitHost kind inBrackets cs).1, (splitHost kind inBrackets cs).2 ++ rest) := by
  induction cs generalizing inBrackets with
  | nil =>
    cases rest with
    | nil => rfl
    | cons c rest =>
      rw [List.nil_append, splitHost.eq_2, if_pos (.inr (hrest c rfl))]
      rfl
  | cons c cs ih =>
    rw [List.cons_append, splitHost, splitHost]
    split
    · rfl
    · rw [ih _ fun x hx => hcs x (List.mem_cons_of_mem c hx)]

theorem Ends.cases (h : Ends kind rest) :
    rest = [] ∨ ∃ c more, rest = c :: more ∧ c ∈ ['/', '\\', '?', '#'] := by
  cases rest with
  | nil => exact .inl rfl
  | cons c more =>
    have hends := h c rfl
    simp only [endsAuthority, isSlash, Bool.or_eq_true, Bool.and_eq_true, decide_eq_true_eq]
      at hends
    refine .inr ⟨c, more, rfl, ?_⟩
    rcases hends with ((rfl | ⟨rfl, -⟩) | rfl) | rfl <;> decide

theorem Ends.head?_ne_colon (h : Ends kind rest) : rest.head? ≠ some ':' := by
  rcases h.cases with rfl | ⟨c, more, rfl, hc⟩
  · simp
  · rintro ⟨⟩
    revert hc
    decide

theorem takeHost_append (hcs : Continues kind cs) (hrest : Ends kind rest) :
    takeHost kind (cs ++ rest) = (takeHost kind cs).map fun r => (r.1, r.2 ++ rest) := by
  unfold takeHost
  rw [splitHost_append false hcs hrest]
  generalize splitHost kind false cs = r
  have hcolon : (r.2 ++ rest).head? = some ':' ↔ r.2.head? = some ':' := by
    cases r.2 with
    | nil => simpa using hrest.head?_ne_colon
    | cons c back => rfl
  simp only [hcolon]
  split
  · split <;> rfl
  · split
    · cases Host.parseName r.1 <;> rfl
    · cases Host.parse r.1 <;> rfl

/-- Whether a port ends before some characters. -/
def endsPort : List Char → Bool
  | [] => true
  | c :: _ => c = '/' || c = '\\' || c = '?' || c = '#'

theorem splitPort_eq (scheme : String) (cs : List Char) :
    splitPort scheme cs =
      if 65535 < Host.digitsValue 10 (cs.takeWhile isDigit) ∨
          !endsPort (cs.drop (cs.takeWhile isDigit).length) then .error .invalidPort
      else .ok (if (cs.takeWhile isDigit).isEmpty ∨
            defaultPort? scheme = some (Host.digitsValue 10 (cs.takeWhile isDigit)) then none
          else some (Host.digitsValue 10 (cs.takeWhile isDigit)),
        cs.drop (cs.takeWhile isDigit).length) := rfl

theorem splitPort_append (scheme : String) (hrest : Ends kind rest) :
    splitPort scheme (cs ++ rest) = (splitPort scheme cs).map fun r => (r.1, r.2 ++ rest) := by
  have hdigits : (cs ++ rest).takeWhile isDigit = cs.takeWhile isDigit := by
    refine takeWhile_append fun c hc => ?_
    rcases hrest.cases with rfl | ⟨x, more, rfl, hx⟩
    · cases hc
    · have hall : ∀ x ∈ ['/', '\\', '?', '#'], isDigit x = false :=
        List.all_iff_forall_prop.mp (by decide)
      cases hc
      exact hall c hx
  have hended : ∀ back, endsPort (back ++ rest) = endsPort back := by
    intro back
    cases back with
    | cons c back => rfl
    | nil =>
      rcases hrest.cases with rfl | ⟨x, more, rfl, hx⟩
      · rfl
      · have hall : ∀ x ∈ ['/', '\\', '?', '#'], endsPort [x] = true :=
          List.all_iff_forall_prop.mp (by decide)
        exact hall x hx
  rw [splitPort_eq, splitPort_eq, hdigits,
    List.drop_append_of_le_length (List.takeWhile_prefix isDigit).length_le, hended]
  split <;> rfl

theorem takePort_of_ne {c : Char} (scheme : String) (h : c ≠ ':') (cs : List Char) :
    takePort scheme (c :: cs) = .ok (none, c :: cs) := by
  unfold takePort
  split
  · rename_i hcons
    cases hcons
    exact absurd rfl h
  · rfl

theorem takePort_append (scheme : String) (hrest : Ends kind rest) :
    takePort scheme (cs ++ rest) = (takePort scheme cs).map fun r => (r.1, r.2 ++ rest) := by
  cases cs with
  | nil =>
    have hcolon := hrest.head?_ne_colon
    cases rest with
    | nil => rfl
    | cons c rest => exact takePort_of_ne scheme (by simpa using hcolon) rest
  | cons c cs =>
    by_cases hc : c = ':'
    · subst hc
      exact splitPort_append scheme hrest
    · rw [List.cons_append, takePort_of_ne scheme hc, takePort_of_ne scheme hc]
      rfl

theorem afterLogin_append (hcs : Continues kind cs) (hrest : Ends kind rest) :
    afterLogin scheme kind login (cs ++ rest) =
      (afterLogin scheme kind login cs).map fun r => (r.1, r.2 ++ rest) := by
  rw [afterLogin_eq, afterLogin_eq, takeHost_append hcs hrest]
  cases takeHost kind cs with
  | error fault => rfl
  | ok r =>
    dsimp only [Except.map, Except.bind]
    split
    · rfl
    · rw [takePort_append scheme hrest]
      cases takePort scheme r.2 <;> rfl

/-- A login and what follows it have a sign at between them. -/
theorem eq_of_splitLogin {back : List Char} (h : splitLogin kind cs = some (login, back))
    (hcs : Continues kind cs) : cs = login ++ '@' :: back := by
  unfold splitLogin at h
  rw [hcs.takeWhile] at h
  dsimp only at h
  split at h
  · rename_i hat
    have hsplit := List.takeWhile_append_dropWhile (p := fun c => decide (c ≠ '@')) (l := cs.reverse)
    cases hdrop : cs.reverse.dropWhile (fun c => decide (c ≠ '@')) with
    | nil =>
      have hnone := List.dropWhile_eq_nil_iff.mp hdrop '@' (by simpa using hat)
      cases hnone
    | cons c more =>
      have hc := List.head?_dropWhile_not (fun c => decide (c ≠ '@')) cs.reverse
      rw [hdrop] at hc hsplit
      obtain rfl : c = '@' := by simpa using hc
      generalize cs.reverse.takeWhile (fun c => decide (c ≠ '@')) = tail at h hsplit
      have hcs' : cs = more.reverse ++ '@' :: tail.reverse := by
        rw [← List.reverse_reverse cs, ← hsplit]
        simp
      subst hcs'
      have hlength : (more.reverse ++ '@' :: tail.reverse).length - tail.length =
          more.reverse.length + 1 := by
        simp only [List.length_append, List.length_cons, List.length_reverse]
        omega
      rw [hlength] at h
      simp only [Nat.add_sub_cancel, List.take_left, Option.some.injEq, Prod.mk.injEq] at h
      obtain ⟨rfl, rfl⟩ := h
      simp [List.drop_append]
  · cases h

/-- An authority is read the same whatever follows it. -/
theorem takeAuthority_append (hcs : Continues kind cs) (hat : cs ≠ ['@']) (hrest : Ends kind rest) :
    takeAuthority scheme kind (cs ++ rest) =
      (takeAuthority scheme kind cs).map fun r => (r.1, r.2 ++ rest) := by
  rw [takeAuthority_eq, takeAuthority_eq, splitLogin_append hcs hrest]
  cases hlogin : splitLogin kind cs with
  | none => exact afterLogin_append hcs hrest
  | some r =>
    obtain ⟨login, back⟩ := r
    have hsplit := eq_of_splitLogin hlogin hcs
    have hback : Continues kind back := fun c hc => hcs c (by simp [hsplit, hc])
    match login, back with
    | c :: login, back => exact afterLogin_append hback hrest
    | [], [] => exact absurd hsplit hat
    | [], c :: back =>
      have hc := hback c List.mem_cons_self
      dsimp only [Option.map, List.cons_append]
      rw [hc]
      exact afterLogin_append hback hrest

/-! ## The text of an authority -/

/-- A character that may stand in the text of an authority. -/
def IsAuthorityChar (c : Char) : Prop := 0x20 < c.toNat ∧ c ∉ ['#', '/', '?', '\\']

instance (c : Char) : Decidable (IsAuthorityChar c) := inferInstanceAs (Decidable (_ ∧ _))

theorem IsHostChar.isAuthorityChar {c : Char} (h : IsHostChar c) : IsAuthorityChar c := by
  refine ⟨h.1, fun hmem => h.2 ?_⟩
  have hall : ∀ x ∈ ['#', '/', '?', '\\'], x ∈ ['#', '/', '?', '@', '\\'] :=
    List.all_iff_forall_prop.mp (by decide)
  exact hall c hmem

theorem isAuthorityChar_userinfo {c : Char} (h : EncodeSet.userinfo.contains c = false) :
    IsAuthorityChar c := by
  obtain ⟨hlow, -, hprintable⟩ := printable_of_not_contains h
  have hspace : c ≠ ' ' := fun hc => hprintable (hc ▸ by decide)
  have hvalue : c.toNat ≠ 0x20 := fun hc => hspace (Char.toNat_inj.mp hc)
  refine ⟨by omega, fun hmem => hprintable ?_⟩
  have hall : ∀ x ∈ ['#', '/', '?', '\\'], x ∈ EncodeSet.userinfo.printable :=
    List.all_iff_forall_prop.mp (by decide)
  exact hall c hmem

theorem continues_of_isAuthorityChar (kind : Kind) (h : ∀ c ∈ cs, IsAuthorityChar c) :
    Continues kind cs := by
  intro c hc
  have hmem := (h c hc).2
  simp only [List.mem_cons, List.not_mem_nil, or_false, not_or] at hmem
  simp [endsAuthority, isSlash, hmem]

/-- A host that was read has a text, or is empty and has no port behind it. -/
theorem takeHost_eq_ok {host : Host} (h : takeHost kind cs = .ok (host, rest)) :
    rest = (splitHost kind false cs).2 ∧
      ((∃ front ≠ [], Host.parseFor kind front = .ok host) ∨
        host = .name "" ∧ kind = .other ∧ rest.head? ≠ some ':') := by
  unfold takeHost at h
  generalize splitHost kind false cs = r at h
  dsimp only at h
  split at h
  · split at h
    · cases h
    · rename_i hother
      cases h
      obtain ⟨hkind, hcolon⟩ := not_or.mp hother
      exact ⟨rfl, .inr ⟨rfl, not_not.mp hkind, hcolon⟩⟩
  · rename_i hne
    have hread : ∃ host', Host.parseFor kind r.1 = .ok host' ∧ (host', r.2) = (host, rest) := by
      by_cases hkind : kind = .other
      · rw [if_pos hkind] at h
        obtain ⟨host', hhost, hpair⟩ := Outcome.bind_eq_ok_iff.mp h
        exact ⟨host', by rwa [Host.parseFor, if_pos hkind], Except.ok.inj hpair⟩
      · rw [if_neg hkind] at h
        obtain ⟨host', hhost, hpair⟩ := Outcome.bind_eq_ok_iff.mp h
        exact ⟨host', by rwa [Host.parseFor, if_neg hkind], Except.ok.inj hpair⟩
    obtain ⟨host', hhost, hpair⟩ := hread
    cases hpair
    exact ⟨rfl, .inl ⟨r.1, by simpa using hne, hhost⟩⟩

theorem text_of_takeHost {host : Host} (h : takeHost kind cs = .ok (host, rest)) :
    (host.text = "" → host = .name "" ∧ kind = .other) ∧ ∀ c ∈ host.text.toList, IsHostChar c := by
  obtain ⟨-, ⟨front, hne, hread⟩ | ⟨rfl, hkind, -⟩⟩ := takeHost_eq_ok h
  · obtain ⟨htext, hchars⟩ := Host.text_of_parseFor hread hne
    exact ⟨fun hempty => absurd hempty htext, hchars⟩
  · exact ⟨fun _ => ⟨rfl, hkind⟩, by simp [Host.text]⟩

/-- The text of an authority. -/
structure Authority.IsSettled (kind : Kind) (a : Authority) : Prop where
  chars : ∀ c ∈ a.text.toList, IsAuthorityChar c
  ne_at : a.text.toList ≠ ['@']
  ne_empty : kind ≠ .other → a.text ≠ ""

/-- The login as it stands before a host. -/
def Authority.loginText (a : Authority) : String :=
  if a.user = "" ∧ a.password = "" then ""
  else if a.password = "" then a.user ++ "@"
  else a.user ++ ":" ++ a.password ++ "@"

/-- The port as it stands behind a host. -/
def Authority.portText (a : Authority) : String := a.port.elim "" fun p => ":" ++ toString p

theorem Authority.text_eq (a : Authority) : a.text = a.loginText ++ a.host.text ++ a.portText := rfl

theorem Authority.isHostChar_portText (a : Authority) :
    ∀ c ∈ a.portText.toList, IsHostChar c := by
  unfold portText
  cases a.port with
  | none => simp
  | some p =>
    have hcolon : ∀ c ∈ ":".toList, IsHostChar c := List.all_iff_forall_prop.mp (by decide)
    rw [Option.elim_some, String.toList_append]
    exact List.forall_mem_append.mpr ⟨hcolon, isHostChar_toString p⟩

theorem Authority.isAuthorityChar_loginText
    (huser : ∀ c ∈ a.user.toList, IsAuthorityChar c)
    (hpassword : ∀ c ∈ a.password.toList, IsAuthorityChar c) :
    ∀ c ∈ a.loginText.toList, IsAuthorityChar c := by
  have hat : ∀ c ∈ "@".toList, IsAuthorityChar c := List.all_iff_forall_prop.mp (by decide)
  have hcolon : ∀ c ∈ ":".toList, IsAuthorityChar c := List.all_iff_forall_prop.mp (by decide)
  unfold loginText
  split
  · simp
  · split
    · simp only [String.toList_append, List.forall_mem_append]
      exact ⟨huser, hat⟩
    · simp only [String.toList_append, List.forall_mem_append]
      exact ⟨⟨⟨huser, hcolon⟩, hpassword⟩, hat⟩

theorem Authority.loginText_eq_empty_iff :
    a.loginText = "" ↔ a.user = "" ∧ a.password = "" := by
  unfold loginText
  split
  · rename_i hnone
    simpa using hnone
  · rename_i hsome
    split <;> simpa [String.append_eq_empty_iff] using hsome

theorem hasLogin_authorityOf (login : List Char) (host : Host) (port : Option Nat) :
    hasLogin login = true ↔ (authorityOf login host port).loginText ≠ "" := by
  have hiff : ∀ cs : List Char, String.ofList (percentEncode .userinfo cs) = "" ↔ cs = [] := by
    intro cs
    rw [← String.toList_inj, String.toList_ofList, String.toList_empty]
    refine ⟨fun hnil => eq_of_percentEncode_eq hnil (by simp), ?_⟩
    rintro rfl
    rfl
  rw [Ne, Authority.loginText_eq_empty_iff, authorityOf, hiff, hiff]
  simp only [hasLogin, Bool.or_eq_true, Bool.not_eq_true', List.isEmpty_eq_false_iff, Ne]
  tauto

theorem isSettled_authorityOf {host : Host} {port : Option Nat}
    (hempty : host.text = "" → host = .name "" ∧ kind = .other)
    (hhost : ∀ c ∈ host.text.toList, IsHostChar c)
    (hlogin : ¬(hasLogin login ∧ host = .name "")) :
    (authorityOf login host port).IsSettled kind := by
  have hencoded : ∀ cs : List Char,
      ∀ c ∈ (String.ofList (percentEncode .userinfo cs)).toList, IsAuthorityChar c := by
    intro cs c hc
    rw [String.toList_ofList] at hc
    exact isAuthorityChar_userinfo (contains_of_mem_percentEncode hc)
  have hport := (authorityOf login host port).isHostChar_portText
  refine ⟨?_, ?_, ?_⟩
  · rw [Authority.text_eq, String.toList_append, String.toList_append]
    refine List.forall_mem_append.mpr ⟨List.forall_mem_append.mpr ⟨?_, ?_⟩, ?_⟩
    · exact Authority.isAuthorityChar_loginText (hencoded _) (hencoded _)
    · exact fun c hc => (hhost c hc).isAuthorityChar
    · exact fun c hc => (hport c hc).isAuthorityChar
  · intro hat
    rw [Authority.text_eq, String.toList_append, String.toList_append] at hat
    have honly : ∀ c, IsHostChar c → c ∈ ['@'] → False := by
      intro c hc hmem
      rw [List.mem_singleton.mp hmem] at hc
      exact absurd hc (by decide)
    by_cases htext : host.text = ""
    · have hlogin' : (authorityOf login host port).loginText = "" := by
        by_contra hne
        exact hlogin ⟨(hasLogin_authorityOf login host port).mpr hne, (hempty htext).1⟩
      have hnil : (authorityOf login host port).host.text = "" := htext
      rw [hlogin', hnil] at hat
      exact honly '@' (hport '@' (by simp at hat; simp [hat])) (by simp)
    · obtain ⟨c, hc⟩ := List.exists_mem_of_ne_nil _ (mt String.toList_eq_nil_iff.mp htext)
      refine honly c (hhost c hc) ?_
      rw [← hat]
      exact List.mem_append_left _ (List.mem_append_right _ hc)
  · intro hkind htext
    rw [Authority.text_eq, String.append_eq_empty_iff, String.append_eq_empty_iff] at htext
    exact hkind (hempty htext.1.2).2

/-- An authority that was read: its login is encoded, its port is not the default one, and without a
host it has neither. -/
structure Authority.IsRead (scheme : String) (kind : Kind) (a : Authority) : Prop
    extends a.IsSettled kind where
  user : ∀ c ∈ a.user.toList, EncodeSet.userinfo.contains c = false
  password : ∀ c ∈ a.password.toList, EncodeSet.userinfo.contains c = false
  port : ∀ p ∈ a.port, p ≤ 65535 ∧ defaultPort? scheme ≠ some p
  host : (∃ front ≠ [], Host.parseFor kind front = .ok a.host) ∨
    a.host = .name "" ∧ kind = .other ∧ a.loginText = "" ∧ a.port = none

theorem takePort_eq_ok {port : Option Nat} (h : takePort scheme cs = .ok (port, rest)) :
    (∀ p ∈ port, p ≤ 65535 ∧ defaultPort? scheme ≠ some p) ∧
      (cs.head? ≠ some ':' → port = none) := by
  unfold takePort at h
  split at h
  · refine ⟨?_, fun hhead => absurd rfl hhead⟩
    rw [splitPort_eq] at h
    split at h
    · cases h
    · rename_i hsmall
      cases h
      intro p hp
      split at hp
      · cases hp
      · rename_i hdefault
        cases hp
        exact ⟨Nat.not_lt.mp (not_or.mp hsmall).1, (not_or.mp hdefault).2⟩
  · cases h
    exact ⟨by simp, fun _ => rfl⟩

theorem isRead_of_takeAuthority (h : takeAuthority scheme kind cs = .ok (a, rest)) :
    a.IsRead scheme kind := by
  obtain ⟨login, back, host, behind, port, -, hhost, hlogin, hport, rfl⟩ := takeAuthority_eq_ok h
  obtain ⟨hempty, hchars⟩ := text_of_takeHost hhost
  obtain ⟨hports, hnone⟩ := takePort_eq_ok hport
  have hencoded : ∀ cs : List Char, ∀ c ∈ (String.ofList (percentEncode .userinfo cs)).toList,
      EncodeSet.userinfo.contains c = false := by
    intro cs c hc
    rw [String.toList_ofList] at hc
    exact contains_of_mem_percentEncode hc
  refine ⟨isSettled_authorityOf hempty hchars hlogin, hencoded _, hencoded _, hports, ?_⟩
  obtain ⟨-, hread | ⟨hname, hkind, hcolon⟩⟩ := takeHost_eq_ok hhost
  · exact .inl hread
  · refine .inr ⟨hname, hkind, ?_, hnone hcolon⟩
    by_contra hne
    exact hlogin ⟨(hasLogin_authorityOf login host port).mpr hne, hname⟩

/-! ## What is left behind an authority -/

theorem splitHost_snd (kind : Kind) (inBrackets : Bool) (cs : List Char) :
    (∀ c ∈ (splitHost kind inBrackets cs).2, c ∈ cs) ∧
      ∀ c ∈ (splitHost kind inBrackets cs).2.head?, c = ':' ∨ endsAuthority kind c = true := by
  induction cs generalizing inBrackets with
  | nil => simp [splitHost]
  | cons c cs ih =>
    rw [splitHost]
    split
    · rename_i hends
      refine ⟨fun x hx => hx, fun x hx => ?_⟩
      cases hx
      exact hends.imp_left fun h => h.1
    · obtain ⟨hmem, hhead⟩ := ih (c = '[' || (inBrackets && c ≠ ']'))
      exact ⟨fun x hx => List.mem_cons_of_mem c (hmem x hx), hhead⟩

theorem takeHost_snd {host : Host} (h : takeHost kind cs = .ok (host, rest)) :
    (∀ c ∈ rest, c ∈ cs) ∧ ∀ c ∈ rest.head?, c = ':' ∨ endsAuthority kind c = true := by
  obtain ⟨rfl, -⟩ := takeHost_eq_ok h
  exact splitHost_snd kind false cs

theorem takePort_snd {port : Option Nat} (h : takePort scheme cs = .ok (port, rest))
    (hcs : ∀ c ∈ cs, IsAuthorityChar c)
    (hhead : ∀ c ∈ cs.head?, c = ':' ∨ endsAuthority kind c = true) : rest = [] := by
  cases cs with
  | nil =>
    cases h
    rfl
  | cons c cs =>
    rcases hhead c rfl with rfl | hends
    · rw [takePort, splitPort_eq] at h
      split at h
      · cases h
      · rename_i hended
        cases h
        have hends := (not_or.mp hended).2
        cases hback : cs.drop (cs.takeWhile isDigit).length with
        | nil => rfl
        | cons x back =>
          have hx := (hcs x (List.mem_cons_of_mem _ (List.mem_of_mem_drop
            (hback ▸ List.mem_cons_self)))).2
          simp only [List.mem_cons, List.not_mem_nil, or_false, not_or] at hx
          rw [hback] at hends
          simp [endsPort, hx] at hends
    · have hcontinues := continues_of_isAuthorityChar kind hcs c List.mem_cons_self
      rw [hcontinues] at hends
      cases hends

/-- Nothing is left of the text of an authority that was read. -/
theorem rest_of_takeAuthority (h : takeAuthority scheme kind cs = .ok (a, rest))
    (hcs : ∀ c ∈ cs, IsAuthorityChar c) : rest = [] := by
  obtain ⟨login, back, host, behind, port, hback, hhost, -, hport, -⟩ := takeAuthority_eq_ok h
  obtain ⟨hmem, hhead⟩ := takeHost_snd hhost
  exact takePort_snd hport (fun c hc => hcs c (hback c (hmem c hc))) hhead

/-- The text of an authority is read the same whatever follows it. -/
theorem takeAuthority_text (scheme : String) (ha : a.IsSettled kind) (hrest : Ends kind rest) :
    takeAuthority scheme kind (a.text.toList ++ rest) =
      (takeAuthority scheme kind a.text.toList).map fun r => (r.1, rest) := by
  rw [takeAuthority_append (continues_of_isAuthorityChar kind ha.chars) ha.ne_at hrest]
  cases hread : takeAuthority scheme kind a.text.toList with
  | error fault => rfl
  | ok r =>
    have hnil : r.2 = [] := rest_of_takeAuthority hread ha.chars
    rw [Except.map, Except.map, hnil, List.nil_append]

end FsGateway.Url
