import FsGateway.Proofs.Url.Authority

/-!
# Schemes

The scheme of a URL that was read is in lowercase and is read as it is. The rest of the URL is read
on its own then.

* `parse_eq_readBody`: a URL is its scheme, a colon and a body.
* `exists_readBody`: what a URL that was read was read from.
-/

namespace FsGateway.Url

variable {scheme body cs : List Char}

/-! ## Characters of schemes -/

/-- Whether a character may stand in a scheme. -/
def isSchemeChar (c : Char) : Bool := isAlpha c || isDigit c || c = '+' || c = '-' || c = '.'

theorem toNat_of_isSchemeChar {c : Char} (h : isSchemeChar c = true) : c.toNat < 128 := by
  simp only [isSchemeChar, isAlpha, isDigit, Bool.or_eq_true, Bool.and_eq_true,
    decide_eq_true_eq] at h
  rcases h with ((((⟨-, h⟩ | ⟨-, h⟩) | ⟨-, h⟩) | rfl) | rfl) | rfl
  · exact Nat.lt_of_le_of_lt h (by decide)
  · exact Nat.lt_of_le_of_lt h (by decide)
  · exact Nat.lt_of_le_of_lt h (by decide)
  all_goals decide

theorem isSchemeChar_toLower {c : Char} (h : isSchemeChar c = true) :
    isSchemeChar c.toLower = true ∧ c.toLower.toLower = c.toLower ∧
      (isAlpha c = true → isAlpha c.toLower = true) := by
  have hall : ∀ n < 128, isSchemeChar (Char.ofNat n) = true →
      isSchemeChar (Char.ofNat n).toLower = true ∧
        (Char.ofNat n).toLower.toLower = (Char.ofNat n).toLower ∧
        (isAlpha (Char.ofNat n) = true → isAlpha (Char.ofNat n).toLower = true) := by decide
  simpa using hall c.toNat (toNat_of_isSchemeChar h) (by simpa using h)

theorem isTrimmed_of_isSchemeChar {c : Char} (h : isSchemeChar c = true) :
    isTrimmed c = false ∧ isBreak c = false ∧ c ≠ ':' := by
  have hall : ∀ n < 128, isSchemeChar (Char.ofNat n) = true →
      isTrimmed (Char.ofNat n) = false ∧ isBreak (Char.ofNat n) = false ∧
        Char.ofNat n ≠ ':' := by decide
  simpa using hall c.toNat (toNat_of_isSchemeChar h) (by simpa using h)

/-- The characters of a scheme in lowercase. -/
structure IsScheme (scheme : List Char) : Prop where
  head : ∃ c ∈ scheme.head?, isAlpha c = true
  chars : ∀ c ∈ scheme, isSchemeChar c = true ∧ c.toLower = c

theorem isAlpha_isSchemeChar {c : Char} (h : isAlpha c = true) : isSchemeChar c = true := by
  simp [isSchemeChar, h]

/-! ## Splitting off a scheme -/

theorem splitScheme_eq (cs : List Char) :
    splitScheme cs = match cs.takeWhile isSchemeChar, cs.drop (cs.takeWhile isSchemeChar).length with
      | c :: _, ':' :: rest =>
        if isAlpha c then
          some (String.ofList ((cs.takeWhile isSchemeChar).map Char.toLower), rest)
        else none
      | _, _ => none := rfl

theorem splitScheme_append (h : IsScheme scheme) (body : List Char) :
    splitScheme (scheme ++ ':' :: body) = some (String.ofList scheme, body) := by
  have hfront : (scheme ++ ':' :: body).takeWhile isSchemeChar = scheme := by
    rw [takeWhile_append (by simp; decide)]
    exact List.takeWhile_eq_self_iff.mpr fun x hx => (h.chars x hx).1
  have hlower : scheme.map Char.toLower = scheme := by
    conv_rhs => rw [← List.map_id scheme]
    exact List.map_congr_left fun x hx => (h.chars x hx).2
  obtain ⟨c, hc, halpha⟩ := h.head
  rw [splitScheme_eq, hfront, List.drop_left, hlower]
  cases scheme with
  | nil => cases hc
  | cons x scheme =>
    cases hc
    exact if_pos halpha

theorem splitScheme_eq_some {name : String} (h : splitScheme cs = some (name, body)) :
    IsScheme name.toList ∧ ∃ front, cs = front ++ body := by
  rw [splitScheme_eq] at h
  have hchars : ∀ c ∈ cs.takeWhile isSchemeChar, isSchemeChar c = true :=
    fun c hc => List.mem_takeWhile_imp hc
  have hback : ∃ front, cs = front ++ cs.drop (cs.takeWhile isSchemeChar).length :=
    ⟨_, (List.take_append_drop _ cs).symm⟩
  generalize cs.takeWhile isSchemeChar = front at h hchars hback
  split at h
  · rename_i c rest rest' hdrop
    split at h
    · rename_i halpha
      cases h
      refine ⟨⟨⟨c.toLower, by simp, ?_⟩, ?_⟩, ?_⟩
      · exact (isSchemeChar_toLower (hchars c List.mem_cons_self)).2.2 halpha
      · rw [String.toList_ofList, List.forall_mem_map]
        intro x hx
        obtain ⟨hscheme, hlower, -⟩ := isSchemeChar_toLower (hchars x hx)
        exact ⟨hscheme, hlower⟩
      · obtain ⟨front, hfront⟩ := hback
        exact ⟨front ++ [':'], by rw [List.append_assoc, List.singleton_append, ← hdrop, ← hfront]⟩
    · cases h
  · cases h

/-! ## The ends of a URL -/

theorem trim_of_forall (hhead : ∀ c ∈ cs.head?, isTrimmed c = false)
    (hlast : ∀ c ∈ cs.getLast?, isTrimmed c = false) : trim cs = cs := by
  have hfront : ∀ {cs : List Char}, (∀ c ∈ cs.head?, isTrimmed c = false) →
      cs.dropWhile isTrimmed = cs := by
    intro cs h
    cases cs with
    | nil => rfl
    | cons c cs => rw [List.dropWhile_cons_of_neg (by simp [h c rfl])]
  unfold trim
  rw [hfront hhead, hfront (by simpa using hlast), List.reverse_reverse]

/-! ## The body of a URL -/

/-- The URL of a scheme, from the characters behind the colon. -/
def readBody (scheme : String) (body : List Char) : Except Fault Url :=
  match kindOf scheme with
  | .file => parseFile body
  | .special => do
    let (authority, rest) ← takeAuthority scheme .special (body.dropWhile (isSlash .special))
    pure (finish scheme .special (some authority) rest)
  | .other =>
    match body with
    | '/' :: '/' :: cs => do
      let (authority, rest) ← takeAuthority scheme .other cs
      pure (finish scheme .other (some authority) rest)
    | '/' :: _ => .ok (finish scheme .other none body)
    | _ =>
      let path := beforeQuery body
      let (query, fragment) := queryAndFragment .other (body.drop path.length)
      .ok ⟨scheme, none, .bare (String.ofList (percentEncode .controls path)), query, fragment⟩

/-- The body of a URL of a file is read with its line breaks. -/
theorem parse_eq (s : String) :
    parse s = match splitScheme (unbroken (trim s.toList)) with
      | none => .error .relativeWithoutBase
      | some (scheme, cs) => readBody scheme
          (if kindOf scheme = .file then ((trim s.toList).dropWhile (· ≠ ':')).drop 1 else cs) := by
  unfold parse
  dsimp only
  cases splitScheme (unbroken (trim s.toList)) with
  | none => rfl
  | some r =>
    unfold readBody
    dsimp only
    cases kindOf r.1 <;> rfl

/-- A URL is its scheme, a colon and a body. -/
theorem parse_eq_readBody (h : IsScheme scheme) (hbreak : ∀ c ∈ body, isBreak c = false)
    (hlast : ∀ c ∈ body.getLast?, isTrimmed c = false) :
    parse (String.ofList (scheme ++ ':' :: body)) = readBody (String.ofList scheme) body := by
  have htrim : trim (scheme ++ ':' :: body) = scheme ++ ':' :: body := by
    obtain ⟨x, hx, halpha⟩ := h.head
    refine trim_of_forall ?_ ?_
    · rw [List.head?_append_of_ne_nil scheme (by rintro rfl; cases hx), hx]
      rintro c ⟨⟩
      exact (isTrimmed_of_isSchemeChar (isAlpha_isSchemeChar halpha)).1
    · cases body with
      | nil => simp; decide
      | cons y body => simpa [List.getLast?_append, List.getLast?_cons_cons] using hlast
  have hunbroken : unbroken (scheme ++ ':' :: body) = scheme ++ ':' :: body := by
    refine unbroken_of_forall (List.forall_mem_append.mpr ⟨fun c hc => ?_, ?_⟩)
    · exact (isTrimmed_of_isSchemeChar (h.chars c hc).1).2.1
    · exact List.forall_mem_cons.mpr ⟨by decide, hbreak⟩
  have hcolon : ((scheme ++ ':' :: body).dropWhile (· ≠ ':')).drop 1 = body := by
    rw [List.dropWhile_append_of_pos]
    · simp
    · intro c hc
      simpa using (isTrimmed_of_isSchemeChar (h.chars c hc).1).2.2
  rw [parse_eq, String.toList_ofList, htrim, hunbroken, splitScheme_append h]
  dsimp only
  rw [hcolon, ite_self]

theorem getLast?_trim (cs : List Char) : ∀ c ∈ (trim cs).getLast?, isTrimmed c = false := by
  intro c hc
  unfold trim at hc
  rw [List.getLast?_reverse] at hc
  have hnot := List.head?_dropWhile_not isTrimmed (cs.dropWhile isTrimmed).reverse
  rw [hc] at hnot
  simpa using hnot

theorem isTrimmed_of_isBreak {c : Char} (h : isBreak c = true) : isTrimmed c = true := by
  simp only [isBreak, Bool.or_eq_true, decide_eq_true_eq] at h
  rcases h with (rfl | rfl) | rfl <;> decide

theorem getLast?_unbroken (h : ∀ c ∈ cs.getLast?, isTrimmed c = false) :
    ∀ c ∈ (unbroken cs).getLast?, isTrimmed c = false := by
  cases hlast : cs.getLast? with
  | none =>
    rw [List.getLast?_eq_none_iff.mp hlast]
    simp [unbroken]
  | some x =>
    obtain ⟨front, rfl⟩ := List.getLast?_eq_some_iff.mp hlast
    have hx := h x hlast
    have hkept : isBreak x = false := by
      rw [← Bool.not_eq_true]
      intro hbreak
      rw [isTrimmed_of_isBreak hbreak] at hx
      cases hx
    have hsplit : unbroken (front ++ [x]) = unbroken front ++ [x] := by
      simp [unbroken, hkept]
    rw [hsplit, List.getLast?_concat]
    rintro c ⟨⟩
    exact hx

/-- What a URL that was read was read from. -/
theorem exists_readBody {s : String} {u : Url} (h : parse s = .ok u) :
    ∃ scheme body, IsScheme scheme ∧ readBody (String.ofList scheme) body = .ok u ∧
      (kindOf (String.ofList scheme) ≠ .file → ∀ c ∈ body.getLast?, isTrimmed c = false) := by
  rw [parse_eq] at h
  cases hsplit : splitScheme (unbroken (trim s.toList)) with
  | none =>
    rw [hsplit] at h
    cases h
  | some r =>
    obtain ⟨name, cs⟩ := r
    rw [hsplit] at h
    obtain ⟨hscheme, front, hfront⟩ := splitScheme_eq_some hsplit
    refine ⟨name.toList, _, hscheme, by rw [String.ofList_toList]; exact h, fun hkind => ?_⟩
    rw [String.ofList_toList] at hkind
    rw [if_neg hkind]
    cases cs with
    | nil => simp
    | cons x cs =>
      have hlast := getLast?_unbroken (getLast?_trim s.toList)
      rwa [hfront, List.getLast?_append_of_ne_nil _ (List.cons_ne_nil x cs)] at hlast

end FsGateway.Url
