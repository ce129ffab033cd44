import FsGateway.Proofs.Url.Appending
import FsGateway.Proofs.Url.Name

/-!
# URLs that are read back

The text of an authority is read as the authority, if its host is read as the host. So is the text
of a URL without a query and a fragment, and of one without an authority in any case.

* `takeAuthority_self`: the text of an authority is read as the authority.
* `readsBack_of_isPlain`: a plain URL is read from its own text.
-/

namespace FsGateway.Url

variable {scheme : String} {kind : Kind} {cs front rest text : List Char} {a : Authority}
  {parts : List (List Char)}

/-! ## Hosts -/

theorem splitHost_of_forall (h : ∀ c ∈ text, c ≠ ':' ∧ c ≠ '[') (hcs : Continues kind text)
    (hrest : ∀ c ∈ rest.head?, c = ':' ∨ endsAuthority kind c = true) :
    splitHost kind false (text ++ rest) = (text, rest) := by
  induction text with
  | nil =>
    cases rest with
    | nil => rfl
    | cons c rest =>
      rw [List.nil_append, splitHost, if_pos]
      simpa using hrest c rfl
  | cons c text ih =>
    obtain ⟨hcolon, hopen⟩ := h c List.mem_cons_self
    have hends := hcs c List.mem_cons_self
    rw [List.cons_append, splitHost, if_neg (by simp [hcolon, hends])]
    simp [hopen, ih (fun x hx => h x (List.mem_cons_of_mem c hx))
      fun x hx => hcs x (List.mem_cons_of_mem c hx)]

theorem splitHost_inner {inner : List Char} (h : ∀ c ∈ inner, c ≠ '[' ∧ c ≠ ']')
    (hcs : Continues kind inner) (cs : List Char) :
    splitHost kind true (inner ++ ']' :: cs) =
      (inner ++ ']' :: (splitHost kind false cs).1, (splitHost kind false cs).2) := by
  induction inner with
  | nil =>
    have hends : endsAuthority kind ']' = false := by cases kind <;> decide
    rw [List.nil_append, splitHost, if_neg (by simp [hends])]
    simp
  | cons c inner ih =>
    obtain ⟨hopen, hclose⟩ := h c List.mem_cons_self
    have hends := hcs c List.mem_cons_self
    rw [List.cons_append, splitHost, if_neg (by simp [hends])]
    simp [hopen, hclose, ih (fun x hx => h x (List.mem_cons_of_mem c hx))
      fun x hx => hcs x (List.mem_cons_of_mem c hx)]

/-- A whole text is split off from a port behind it. -/
theorem splitHost_whole (h : IsWhole text) (hcs : Continues kind text)
    (hrest : ∀ c ∈ rest.head?, c = ':' ∨ endsAuthority kind c = true) :
    splitHost kind false (text ++ rest) = (text, rest) := by
  obtain h | ⟨inner, rfl, h⟩ := h
  · exact splitHost_of_forall h hcs hrest
  · have hends : endsAuthority kind '[' = false := hcs '[' List.mem_cons_self
    have hinner : Continues kind inner := fun c hc => hcs c (by simp [hc])
    have hbehind := splitHost_of_forall (show ∀ c ∈ [], c ≠ ':' ∧ c ≠ '[' by simp)
      (by simp [Continues]) hrest
    rw [List.nil_append] at hbehind
    rw [List.cons_append, List.append_assoc, List.singleton_append, splitHost,
      if_neg (by simp [hends])]
    simp [splitHost_inner h hinner, hbehind]

theorem takeHost_text {host : Host} (h : host.ReadsBack kind) (hne : host.text ≠ "")
    (hcs : Continues kind host.text.toList)
    (hrest : ∀ c ∈ rest.head?, c = ':' ∨ endsAuthority kind c = true) :
    takeHost kind (host.text.toList ++ rest) = .ok (host, rest) := by
  have hread := h.read
  have hempty : host.text.toList.isEmpty ≠ true := by simpa using hne
  unfold takeHost
  rw [splitHost_whole h.whole hcs hrest]
  dsimp only
  rw [if_neg hempty]
  unfold Host.parseFor at hread
  split at hread <;> simp_all

/-! ## Ports -/

theorem isDigit_digitChar : ∀ d < 10, isDigit (Nat.digitChar d) = true := by decide

theorem takePort_text (hport : ∀ p ∈ a.port, p ≤ 65535 ∧ defaultPort? scheme ≠ some p) :
    takePort scheme a.portText.toList = .ok (a.port, []) := by
  unfold Authority.portText
  cases hp : a.port with
  | none => rfl
  | some p =>
    obtain ⟨hsmall, hdefault⟩ := hport p hp
    have hdigits : (Nat.toDigits 10 p).takeWhile isDigit = Nat.toDigits 10 p := by
      rw [List.takeWhile_eq_self_iff]
      intro c hc
      obtain ⟨d, hd, rfl⟩ := mem_toDigits (by decide) p c hc
      exact isDigit_digitChar d hd
    have hvalue := digitsValue_toDigits (show 1 < 10 by decide) (by decide) p
    have hchars : (":" ++ toString p).toList = ':' :: Nat.toDigits 10 p := by
      rw [String.toList_append, Host.toString_chars]
      rfl
    rw [Option.elim_some, hchars, takePort, splitPort_eq, hdigits, hvalue, List.drop_length]
    simp [hdefault, Nat.not_lt.mpr hsmall, Nat.toDigits_ne_nil, endsPort]

/-! ## Logins -/

theorem splitLogin_of_notMem (hcs : Continues kind cs) (hat : '@' ∉ cs) :
    splitLogin kind cs = none := by
  unfold splitLogin
  rw [hcs.takeWhile]
  exact if_neg (by simpa using hat)

theorem splitLogin_at (hcs : Continues kind (front ++ '@' :: rest)) (hrest : '@' ∉ rest) :
    splitLogin kind (front ++ '@' :: rest) = some (front, rest) := by
  have hback : (front ++ '@' :: rest).reverse.takeWhile (fun c => decide (c ≠ '@')) =
      rest.reverse := by
    have hall : ∀ c ∈ rest.reverse, decide (c ≠ '@') = true := by
      intro c hc
      rw [decide_eq_true_eq]
      rintro rfl
      exact hrest (List.mem_reverse.mp hc)
    rw [List.reverse_append, List.reverse_cons, List.append_assoc, List.singleton_append,
      List.takeWhile_append_of_pos hall]
    simp
  have hlength : (front ++ '@' :: rest).length - rest.length = front.length + 1 := by
    simp only [List.length_append, List.length_cons]
    omega
  unfold splitLogin
  rw [hcs.takeWhile]
  dsimp only
  rw [if_pos (by simp), hback, List.length_reverse, hlength, Nat.add_sub_cancel]
  simp

/-- The login of an authority, before the sign at. -/
def Authority.login (a : Authority) : List Char :=
  if a.password = "" then a.user.toList else a.user.toList ++ ':' :: a.password.toList

theorem Authority.toList_loginText :
    a.loginText.toList = if a.loginText = "" then [] else a.login ++ ['@'] := by
  by_cases hnone : a.user = "" ∧ a.password = ""
  · have hempty : a.loginText = "" := loginText_eq_empty_iff.mpr hnone
    rw [if_pos hempty, hempty]
    rfl
  · rw [if_neg (mt loginText_eq_empty_iff.mp hnone), loginText, if_neg hnone, login]
    split <;> simp

/-- An authority is made up of its login, its host and its port. -/
theorem authorityOf_login (huser : ∀ c ∈ a.user.toList, EncodeSet.userinfo.contains c = false)
    (hpassword : ∀ c ∈ a.password.toList, EncodeSet.userinfo.contains c = false) :
    authorityOf a.login a.host a.port = a := by
  have hcolon : ∀ c ∈ a.user.toList, decide (c ≠ ':') = true := by
    intro c hc
    rw [decide_eq_true_eq]
    rintro rfl
    exact absurd (huser _ hc) (by decide)
  have huser' := percentEncode_of_forall huser
  have hpassword' := percentEncode_of_forall hpassword
  unfold authorityOf Authority.login
  split
  · rename_i hnone
    rw [List.takeWhile_eq_self_iff.mpr hcolon, List.dropWhile_eq_nil_iff.mpr hcolon, huser',
      String.ofList_toList]
    rcases a with ⟨user, password, host, port⟩
    cases hnone
    rfl
  · rw [List.takeWhile_append_of_pos hcolon, List.dropWhile_append_of_pos hcolon]
    simp [huser', hpassword']

/-! ## Authorities -/

theorem Authority.IsRead.host_eq (ha : a.IsRead scheme kind) (htext : a.host.text = "") :
    a.host = .name "" ∧ kind = .other ∧ a.loginText = "" ∧ a.port = none := by
  obtain ⟨front, hne, hread⟩ | hnone := ha.host
  · exact absurd htext (Host.text_of_parseFor hread hne).1
  · exact hnone

theorem Authority.IsRead.isHostChar (ha : a.IsRead scheme kind) :
    ∀ c ∈ a.host.text.toList ++ a.portText.toList, IsHostChar c := by
  refine List.forall_mem_append.mpr ⟨?_, a.isHostChar_portText⟩
  obtain ⟨front, hne, hread⟩ | ⟨hname, -⟩ := ha.host
  · exact (Host.text_of_parseFor hread hne).2
  · simp [hname, Host.text]

theorem Authority.head?_portText (a : Authority) : ∀ c ∈ a.portText.toList.head?, c = ':' := by
  unfold portText
  cases a.port with
  | none => simp
  | some p => simp

theorem afterLogin_text (ha : a.IsRead scheme kind) (hhost : a.host.ReadsBack kind)
    (hfront : authorityOf front a.host a.port = a) :
    afterLogin scheme kind front (a.host.text.toList ++ a.portText.toList) = .ok (a, []) := by
  have htake : takeHost kind (a.host.text.toList ++ a.portText.toList) =
      .ok (a.host, a.portText.toList) := by
    by_cases htext : a.host.text = ""
    · obtain ⟨hname, rfl, -, hport⟩ := ha.host_eq htext
      rw [hname, Authority.portText, hport]
      rfl
    · have hchars : ∀ c ∈ a.host.text.toList, IsAuthorityChar c := fun c hc =>
        (ha.isHostChar c (List.mem_append_left _ hc)).isAuthorityChar
      exact takeHost_text hhost htext (continues_of_isAuthorityChar kind hchars) fun c hc =>
        .inl (a.head?_portText c hc)
  have hlogin : ¬(hasLogin front ∧ a.host = .name "") := by
    rintro ⟨hsome, hname⟩
    have hne := (hasLogin_authorityOf front a.host a.port).mp hsome
    rw [hfront] at hne
    exact hne (ha.host_eq (by rw [hname]; rfl)).2.2.1
  rw [afterLogin_eq, htake]
  dsimp only [Except.bind]
  rw [if_neg hlogin, takePort_text ha.port, Except.map, hfront]

/-- The text of an authority is read as the authority, if that of its host is read as the host. -/
theorem takeAuthority_self (ha : a.IsRead scheme kind) (hhost : a.host.ReadsBack kind) :
    takeAuthority scheme kind a.text.toList = .ok (a, []) := by
  have hcontinues := continues_of_isAuthorityChar kind ha.chars
  have hafter := afterLogin_text ha hhost (authorityOf_login ha.user ha.password)
  have hat : '@' ∉ a.host.text.toList ++ a.portText.toList := fun hmem =>
    absurd (ha.isHostChar '@' hmem) (by decide)
  have htext : a.text.toList = a.loginText.toList ++ (a.host.text.toList ++ a.portText.toList) := by
    rw [Authority.text_eq, String.toList_append, String.toList_append, List.append_assoc]
  rw [Authority.toList_loginText] at htext
  generalize a.host.text.toList ++ a.portText.toList = back at hafter hat htext
  rw [htext] at hcontinues ⊢
  rw [takeAuthority_eq]
  by_cases hnone : a.loginText = ""
  · obtain ⟨huser, hpassword⟩ := Authority.loginText_eq_empty_iff.mp hnone
    have hnil : a.login = [] := by simp [Authority.login, huser, hpassword]
    rw [if_pos hnone, List.nil_append] at hcontinues ⊢
    rw [splitLogin_of_notMem hcontinues hat]
    rwa [hnil] at hafter
  · have hne : a.login ≠ [] := by
      intro hnil
      refine hnone (Authority.loginText_eq_empty_iff.mpr ?_)
      unfold Authority.login at hnil
      split at hnil <;> simp_all
    rw [if_neg hnone, List.append_assoc, List.singleton_append] at hcontinues ⊢
    rw [splitLogin_at hcontinues hat]
    obtain ⟨c, more, hlogin⟩ := List.exists_cons_of_ne_nil hne
    rw [hlogin] at hafter ⊢
    exact hafter

/-! ## URLs -/

theorem pathOf_settled (hfile : kind ≠ .file) (hne : kind = .special → parts ≠ [])
    (hparts : ∀ part ∈ parts, IsSegment kind part ∧ NoDots part) :
    pathOf kind (slashed parts) = .segments (parts.map String.ofList) := by
  by_cases hnil : parts = []
  · have hother : kind = .other := by cases kind <;> simp_all
    subst hnil hother
    rfl
  · exact pathOf_slashed hfile hnil hparts

/-- A URL with an authority is read from its own text if its authority is. -/
theorem readsBack_named_iff
    (h : Settled ⟨scheme, some a, .segments (parts.map String.ofList), none, none⟩)
    (hkind : kindOf scheme = kind) (hfile : kind ≠ .file) (ha : a.IsSettled kind)
    (hparts : ∀ part ∈ parts, IsSegment kind part ∧ NoDots part)
    (hne : kind = .special → parts ≠ []) :
    ReadsBack ⟨scheme, some a, .segments (parts.map String.ofList), none, none⟩ ↔
      ∃ rest, takeAuthority scheme kind a.text.toList = .ok (a, rest) := by
  have hread := readBody_named hkind hfile ha (fun part hpart => (hparts part hpart).1) isTail_nil
  rw [pathOf_settled hfile hne hparts] at hread
  rw [readsBack_iff h rfl rfl, bodyText_of_none rfl rfl, front_named, text_segments,
    ← List.append_nil (slashed parts)]
  show readBody scheme _ = _ ↔ _
  rw [hread]
  cases takeAuthority scheme kind a.text.toList with
  | error fault => exact iff_of_false (by rintro ⟨⟩) (by rintro ⟨rest, ⟨⟩⟩)
  | ok r =>
    obtain ⟨a', rest⟩ := r
    refine ⟨fun hself => ⟨rest, ?_⟩, ?_⟩
    · cases hself
      rfl
    · rintro ⟨rest, ⟨⟩⟩
      rfl

theorem readsBack_rooted
    (h : Settled ⟨scheme, none, .segments (parts.map String.ofList), none, none⟩)
    (hkind : kindOf scheme = .other) (hne : parts ≠ [])
    (hparts : ∀ part ∈ parts, IsSegment .other part ∧ NoDots part) :
    ReadsBack ⟨scheme, none, .segments (parts.map String.ofList), none, none⟩ := by
  have hfront := front_rooted scheme (.segments (parts.map String.ofList)) none none
  have hread := readBody_segments hkind hne hparts isTail_nil hfront
  rw [readsBack_iff h rfl rfl, bodyText_of_none rfl rfl, text_segments,
    ← List.append_nil (slashed parts), hread]
  rfl

theorem readsBack_bare {bare : List Char}
    (h : Settled ⟨scheme, none, .bare (String.ofList bare), none, none⟩)
    (hkind : kindOf scheme = .other) (hhead : bare.head? ≠ some '/') (hbare : IsPath bare)
    (hkept : ∀ c ∈ bare, EncodeSet.controls.contains c = false) :
    ReadsBack ⟨scheme, none, .bare (String.ofList bare), none, none⟩ := by
  have hbody : bodyText ⟨scheme, none, .bare (String.ofList bare), none, none⟩ = bare := by
    simp [bodyText_of_none, front_bare, Path.text]
  have hread := readBody_bare hkind (by rwa [List.append_nil]) hbare isTail_nil
  rw [List.append_nil, percentEncode_of_forall hkept] at hread
  rw [readsBack_iff h rfl rfl, hbody]
  exact hread

/-- Whether a URL is not the URL of a file, and its host is an address or a plain name. Outside the
special schemes any name will do. -/
def IsPlain (u : Url) : Prop :=
  u.scheme ≠ "file" ∧ ∀ a ∈ u.authority, kindOf u.scheme ≠ .other → a.host.IsPlain

theorem readsBack_of_isPlain {u : Url} (h : Settled u) (hquery : u.query = none)
    (hfragment : u.fragment = none) (hplain : u.IsPlain) : u.ReadsBack := by
  obtain ⟨hfile, hhost⟩ := hplain
  cases h.parts with
  | named hkind hkindfile ha hparts hne =>
    subst hquery hfragment
    refine (readsBack_named_iff h hkind hkindfile ha.toIsSettled hparts hne).mpr ⟨[], ?_⟩
    refine takeAuthority_self ha ?_
    obtain ⟨front, -, hread⟩ | ⟨hname, hother, -⟩ := ha.host
    · exact Host.readsBack_of_parseFor hread fun hother => hhost _ rfl (hkind ▸ hother)
    · subst hother
      rw [hname]
      exact Host.readsBack_of_parseName (show Host.parseName [] = .ok (.name "") from rfl)
  | rooted hkind hparts hne =>
    subst hquery hfragment
    exact readsBack_rooted h hkind hne hparts
  | bare hkind hhead hpath hkept =>
    subst hquery hfragment
    exact readsBack_bare h hkind hhead hpath hkept
  | file => exact absurd rfl hfile

end FsGateway.Url
