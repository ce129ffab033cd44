import FsGateway.Numeral.Decimal
import Mathlib.Data.List.Basic

/-!
# The texts of numbers

A number is written with an optional sign, followed by digits with at most one point before, among or
after them and by an optional exponent, or followed by a word for what is not finite. Every whole
number is read as it is written.

* `IsNumber`: the texts of numbers.
* `isSome_ofText?_iff`: no other text is read as a floating-point number.
* `integer?_toString`: the text of a whole number is read as that number.
* `IsNumber.chars`: the characters that occur in numbers.
-/

namespace FsGateway.Numeral

variable {c : Char} {cs ds rest sign : List Char} {n : Nat}

/-! ## The grammar -/

/-- Decimal digits, perhaps none. -/
def AreDigits (cs : List Char) : Prop := ∀ c ∈ cs, c.isDigit = true

/-- The signs of numbers. -/
inductive IsSign : List Char → Prop
  | none : IsSign []
  | plus : IsSign ['+']
  | minus : IsSign ['-']

/-- The exponents of numbers. -/
inductive IsExponent : List Char → Prop
  | none : IsExponent []
  | some {e : Char} {sign ds : List Char} : e = 'e' ∨ e = 'E' → IsSign sign → AreDigits ds →
      ds ≠ [] → IsExponent (e :: (sign ++ ds))

/-- The texts of finite numbers without a sign. -/
inductive IsDecimal : List Char → Prop
  | whole {ds e : List Char} : AreDigits ds → ds ≠ [] → IsExponent e → IsDecimal (ds ++ e)
  | point {ds fs e : List Char} : AreDigits ds → AreDigits fs → ds ++ fs ≠ [] → IsExponent e →
      IsDecimal (ds ++ '.' :: (fs ++ e))

/-- The words for what is not finite, in small letters. -/
def infiniteWords : List String := ["inf", "infinity", "nan"]

/-- The texts of numbers. -/
inductive IsNumber : List Char → Prop
  | decimal {sign cs : List Char} : IsSign sign → IsDecimal cs → IsNumber (sign ++ cs)
  | word {sign cs : List Char} : IsSign sign →
      String.ofList (cs.map Char.toLower) ∈ infiniteWords → IsNumber (sign ++ cs)

/-! ## Digits -/

theorem isDigit_iff : c.isDigit = true ↔ '0' ≤ c ∧ c ≤ '9' := by
  rw [Char.isDigit, Bool.and_eq_true, decide_eq_true_iff, decide_eq_true_iff]
  rfl

theorem digit?_of_isDigit (h : c.isDigit = true) : digit? 10 c = some (c.toNat - '0'.toNat) := by
  have hbounds := isDigit_iff.mp h
  have hsmall : c.toNat - 0x30 < 10 :=
    Nat.sub_lt_right_of_lt_add hbounds.1 (Nat.lt_succ_of_le hbounds.2)
  simp only [digit?, if_pos hbounds, if_pos hsmall]
  rfl

theorem isDigit_ten (c : Char) : isDigit 10 c = c.isDigit := by
  cases h : c.isDigit with
  | true => rw [isDigit, digit?_of_isDigit h, Option.isSome_some]
  | false =>
    have hbounds : ¬('0' ≤ c ∧ c ≤ '9') := fun hc => by simp [isDigit_iff.mpr hc] at h
    simp only [isDigit, digit?, if_neg hbounds]
    grind

theorem all_isDigit_iff : cs.all (isDigit 10) = true ↔ AreDigits cs := by
  simp only [List.all_eq_true, isDigit_ten, AreDigits]

theorem areDigits_append : AreDigits (cs ++ ds) ↔ AreDigits cs ∧ AreDigits ds :=
  List.forall_mem_append

theorem natural?_eq_some_iff :
    natural? 10 cs = some n ↔ (cs ≠ [] ∧ AreDigits cs) ∧ digitsValue 10 cs = n := by
  rw [natural?, Option.ite_none_right_eq_some, all_isDigit_iff, Option.some.injEq]

theorem isSome_natural?_iff : (natural? 10 cs).isSome = true ↔ cs ≠ [] ∧ AreDigits cs := by
  simp only [Option.isSome_iff_exists, natural?_eq_some_iff, exists_and_left, exists_eq', and_true]

/-- The value of digits, one digit after another. -/
theorem digitsValue_eq (h : AreDigits cs) : digitsValue 10 cs = Nat.ofDigitChars 10 cs 0 := by
  rw [digitsValue, Nat.ofDigitChars_eq_foldl]
  refine List.foldl_ext _ _ 0 fun n c hc => ?_
  rw [digit?_of_isDigit (h c hc), Option.getD_some]

theorem areDigits_toDigits (n : Nat) : AreDigits (Nat.toDigits 10 n) :=
  fun _ hc => Nat.isDigit_of_mem_toDigits (by decide) (by decide) hc

theorem natural?_toDigits (n : Nat) : natural? 10 (Nat.toDigits 10 n) = some n := by
  have hdigits := areDigits_toDigits n
  rw [natural?_eq_some_iff, digitsValue_eq hdigits]
  exact ⟨⟨Nat.toDigits_ne_nil, hdigits⟩, Nat.ofDigitChars_ten_toDigits⟩

/-! ## Signs -/

/-- What has no sign in front. -/
def IsUnsigned (cs : List Char) : Prop := ∀ c ∈ cs.head?, c ≠ '-' ∧ c ≠ '+'

/-- The sign in front of a text, and the rest. -/
theorem exists_sign (cs : List Char) : ∃ sign, IsSign sign ∧ cs = sign ++ (splitSign cs).2 := by
  unfold splitSign
  split
  · exact ⟨_, .minus, rfl⟩
  · exact ⟨_, .plus, rfl⟩
  · exact ⟨_, .none, rfl⟩

theorem splitSign_of_isUnsigned (h : IsUnsigned cs) : splitSign cs = (false, cs) := by
  unfold splitSign
  split
  · exact absurd rfl (h '-' (List.head?_cons ..)).1
  · exact absurd rfl (h '+' (List.head?_cons ..)).2
  · rfl

theorem splitSign_append (hsign : IsSign sign) (h : IsUnsigned cs) :
    (splitSign (sign ++ cs)).2 = cs := by
  cases hsign with
  | none => rw [List.nil_append, splitSign_of_isUnsigned h]
  | plus => rfl
  | minus => rfl

theorem isUnsigned_of_areDigits (hne : cs ≠ []) (h : AreDigits cs) (rest : List Char) :
    IsUnsigned (cs ++ rest) := by
  obtain ⟨c, cs, rfl⟩ := List.exists_cons_of_ne_nil hne
  intro x hx
  cases Option.some.inj hx
  have hc := h c List.mem_cons_self
  constructor <;> rintro rfl <;> cases hc

theorem integer?_eq (cs : List Char) : integer? cs =
    (natural? 10 (splitSign cs).2).map fun n : Nat =>
      if (splitSign cs).1 then -(n : Int) else n := by
  rw [integer?]
  obtain ⟨negative, ds⟩ := splitSign cs
  cases h : natural? 10 ds <;> simp [h]

theorem integer?_toString (i : Int) : integer? (toString i).toList = some i := by
  rw [Int.toString_eq_repr, Int.repr_eq_if]
  split
  · have hunsigned := isUnsigned_of_areDigits Nat.toDigits_ne_nil (areDigits_toDigits i.toNat) []
    rw [List.append_nil] at hunsigned
    rw [Nat.toList_repr, integer?_eq, splitSign_of_isUnsigned hunsigned, natural?_toDigits]
    exact congrArg some (Int.toNat_of_nonneg (by assumption))
  · have hchars : ("-" ++ (-i).toNat.repr).toList = '-' :: Nat.toDigits 10 (-i).toNat := by
      rw [String.toList_append, Nat.toList_repr]
      rfl
    rw [hchars, integer?_eq, splitSign, natural?_toDigits, Option.map_some, if_pos rfl,
      Int.toNat_of_nonneg (by omega), Int.neg_neg]

/-! ## Points and exponents -/

namespace Decimal

theorem exponentValue?_of_exponent {d : Decimal} {cs : List Char}
    (h : exponent? cs = some d.exponent) : d.exponentValue?.isSome = true ↔ IsExponent cs := by
  cases cs with
  | nil =>
    rw [exponent?, Option.some.injEq] at h
    simp only [exponentValue?, ← h, Option.isSome_some, true_iff]
    exact .none
  | cons e cs =>
    rw [exponent?, Option.ite_none_right_eq_some, Option.some.injEq] at h
    obtain ⟨he, h⟩ := h
    have hvalue : d.exponentValue?.isSome = (natural? 10 (splitSign cs).2).isSome := by
      rw [exponentValue?, ← h]
      obtain ⟨negative, ds⟩ := splitSign cs
      cases h : natural? 10 ds <;> simp [h]
    rw [hvalue, isSome_natural?_iff]
    constructor
    · rintro ⟨hne, hdigits⟩
      obtain ⟨sign, hsign, hcs⟩ := exists_sign cs
      rw [hcs]
      exact .some he hsign hdigits hne
    · rintro (_ | @⟨_, sign, ds, -, hsign, hdigits, hne⟩)
      have hunsigned := isUnsigned_of_areDigits hne hdigits []
      rw [List.append_nil] at hunsigned
      rw [splitSign_append hsign hunsigned]
      exact ⟨hne, hdigits⟩

theorem exponent?_of_isExponent (h : IsExponent cs) : ∃ x, exponent? cs = some x := by
  cases h with
  | none => exact ⟨_, rfl⟩
  | some he => exact ⟨_, if_pos he⟩

end Decimal

namespace Binary64

theorem isSome_ofDecimal?_iff {negative : Bool} {d : Decimal} :
    (ofDecimal? negative d).isSome = true ↔
      (d.whole ++ d.fraction.getD [] ≠ [] ∧ AreDigits (d.whole ++ d.fraction.getD [])) ∧
        d.exponentValue?.isSome = true := by
  rw [← isSome_natural?_iff, ofDecimal?]
  cases natural? 10 (d.whole ++ d.fraction.getD []) <;> cases d.exponentValue? <;> simp

end Binary64

/-- The characters in front of a point or an exponent. -/
theorem takeWhile_digits (hdigits : AreDigits ds) (hrest : ∀ c ∈ rest.head?, c.isDigit = false) :
    (ds ++ rest).takeWhile (isDigit 10) = ds ∧ (ds ++ rest).dropWhile (isDigit 10) = rest := by
  have hall : ∀ c ∈ ds, isDigit 10 c = true := fun c hc => (isDigit_ten c).trans (hdigits c hc)
  rw [List.takeWhile_append_of_pos hall, List.dropWhile_append_of_pos hall]
  cases rest with
  | nil => exact ⟨List.append_nil ds, rfl⟩
  | cons c rest =>
    have hc : ¬isDigit 10 c = true := by simp [isDigit_ten, hrest c rfl]
    rw [List.takeWhile_cons_of_neg hc, List.dropWhile_cons_of_neg hc]
    exact ⟨List.append_nil ds, rfl⟩

theorem areDigits_takeWhile (cs : List Char) : AreDigits (cs.takeWhile (isDigit 10)) :=
  all_isDigit_iff.mp List.all_takeWhile

/-- An exponent starts with a letter. -/
theorem IsExponent.head (h : IsExponent cs) : ∀ c ∈ cs.head?, c.isDigit = false ∧ c ≠ '.' := by
  cases h with
  | none => simp
  | some he =>
    intro c hc
    cases Option.some.inj hc
    rcases he with rfl | rfl <;> decide

namespace Decimal

variable {e fs : List Char} {x : Option (Bool × List Char)}

theorem ofChars?_whole (hds : AreDigits ds) (he : IsExponent e) (hx : exponent? e = some x) :
    ofChars? (isDigit 10) (ds ++ e) = some ⟨ds, none, x⟩ := by
  have hcut := takeWhile_digits hds fun c hc => (he.head c hc).1
  unfold ofChars?
  rw [hcut.1, hcut.2]
  split
  · exact absurd rfl (he.head '.' rfl).2
  · rw [hx, Option.map_some]

theorem ofChars?_point (hds : AreDigits ds) (hfs : AreDigits fs) (he : IsExponent e)
    (hx : exponent? e = some x) :
    ofChars? (isDigit 10) (ds ++ '.' :: (fs ++ e)) = some ⟨ds, some fs, x⟩ := by
  have hpoint : ∀ c ∈ ('.' :: (fs ++ e)).head?, c.isDigit = false := by
    intro c hc
    cases Option.some.inj hc
    rfl
  have hcut := takeWhile_digits hds hpoint
  have hfraction := takeWhile_digits hfs fun c hc => (he.head c hc).1
  simp only [ofChars?, hcut.1, hcut.2, hfraction.1, hfraction.2, hx, Option.map_some]

end Decimal

/-- What is cut into parts is what is written with a point or without one. -/
theorem isSome_ofChars?_iff (negative : Bool) :
    ((Decimal.ofChars? (isDigit 10) cs).bind (Binary64.ofDecimal? negative)).isSome = true ↔
      IsDecimal cs := by
  constructor
  · intro h
    obtain ⟨f, h⟩ := Option.isSome_iff_exists.mp h
    obtain ⟨d, hd, hf⟩ := Option.bind_eq_some_iff.mp h
    obtain ⟨⟨hne, hdigits⟩, hexponent⟩ :=
      Binary64.isSome_ofDecimal?_iff.mp (Option.isSome_of_eq_some hf)
    rw [← List.takeWhile_append_dropWhile (p := isDigit 10) (l := cs)]
    unfold Decimal.ofChars? at hd
    split at hd
    · rename_i rest hrest
      obtain ⟨e, he, rfl⟩ := Option.map_eq_some_iff.mp hd
      rw [hrest, ← List.takeWhile_append_dropWhile (p := isDigit 10) (l := rest)]
      exact .point (areDigits_takeWhile cs) (areDigits_takeWhile rest) hne
        ((Decimal.exponentValue?_of_exponent he).mp hexponent)
    · obtain ⟨e, he, rfl⟩ := Option.map_eq_some_iff.mp hd
      rw [Option.getD_none, List.append_nil] at hne
      exact .whole (areDigits_takeWhile cs) hne
        ((Decimal.exponentValue?_of_exponent he).mp hexponent)
  · intro h
    cases h with
    | whole hds hne he =>
      obtain ⟨x, hx⟩ := Decimal.exponent?_of_isExponent he
      rw [Decimal.ofChars?_whole hds he hx, Option.bind_some, Binary64.isSome_ofDecimal?_iff,
        Decimal.exponentValue?_of_exponent hx, Option.getD_none, List.append_nil]
      exact ⟨⟨hne, hds⟩, he⟩
    | point hds hfs hne he =>
      obtain ⟨x, hx⟩ := Decimal.exponent?_of_isExponent he
      rw [Decimal.ofChars?_point hds hfs he hx, Option.bind_some, Binary64.isSome_ofDecimal?_iff,
        Decimal.exponentValue?_of_exponent hx, Option.getD_some]
      exact ⟨⟨hne, areDigits_append.mpr ⟨hds, hfs⟩⟩, he⟩

theorem IsDecimal.isUnsigned (h : IsDecimal cs) : IsUnsigned cs := by
  cases h with
  | whole hds hne _ => exact isUnsigned_of_areDigits hne hds _
  | @point ds _ _ hds _ _ _ =>
    by_cases hne : ds = []
    · subst hne
      intro c hc
      cases Option.some.inj hc
      decide
    · exact isUnsigned_of_areDigits hne hds _

theorem isUnsigned_of_word (h : String.ofList (cs.map Char.toLower) ∈ infiniteWords) :
    IsUnsigned cs := by
  cases cs with
  | nil => simp [IsUnsigned]
  | cons c cs =>
    intro x hx
    cases Option.some.inj hx
    have hhead : c.toLower = 'i' ∨ c.toLower = 'n' := by
      simp only [infiniteWords, List.mem_cons, List.not_mem_nil, or_false,
        ← String.toList_inj, String.toList_ofList, List.map_cons] at h
      rcases h with h | h | h
      · exact .inl (List.head_eq_of_cons_eq h)
      · exact .inl (List.head_eq_of_cons_eq h)
      · exact .inr (List.head_eq_of_cons_eq h)
    constructor <;> rintro rfl <;> rcases hhead with h | h <;> cases h

theorem isSome_ofText?_iff_unsigned {s : String} : (Binary64.ofText? s).isSome = true ↔
    String.ofList ((splitSign s.toList).2.map Char.toLower) ∈ infiniteWords ∨
      IsDecimal (splitSign s.toList).2 := by
  rw [Binary64.ofText?, ← isSome_ofChars?_iff (splitSign s.toList).1]
  obtain ⟨negative, cs⟩ := splitSign s.toList
  simp only [infiniteWords, List.mem_cons, List.not_mem_nil, or_false]
  split
  · rename_i hinf
    rcases hinf with h | h <;> simp [h]
  · split <;> rename_i hinf hnan
    · simp [hnan]
    · rw [not_or] at hinf
      simp only [hinf.1, hinf.2, hnan, false_or]

/-- A text is read as a floating-point number exactly if it is the text of a number. -/
theorem isSome_ofText?_iff {s : String} :
    (Binary64.ofText? s).isSome = true ↔ IsNumber s.toList := by
  rw [isSome_ofText?_iff_unsigned]
  generalize s.toList = cs
  constructor
  · obtain ⟨sign, hsign, hcs⟩ := exists_sign cs
    rintro (h | h) <;> rw [hcs]
    · exact .word hsign h
    · exact .decimal hsign h
  · rintro (⟨hsign, h⟩ | ⟨hsign, h⟩)
    · rw [splitSign_append hsign h.isUnsigned]
      exact .inr h
    · rw [splitSign_append hsign (isUnsigned_of_word h)]
      exact .inl h

theorem isNumber_of_integer? {i : Int} (h : integer? cs = some i) : IsNumber cs := by
  rw [integer?_eq] at h
  obtain ⟨n, hn, -⟩ := Option.map_eq_some_iff.mp h
  obtain ⟨⟨hne, hdigits⟩, -⟩ := natural?_eq_some_iff.mp hn
  obtain ⟨sign, hsign, hcs⟩ := exists_sign cs
  rw [hcs, ← List.append_nil (splitSign cs).2]
  exact .decimal hsign (.whole hdigits hne .none)

/-! ## The characters of numbers -/

/-- The characters that occur in numbers, letters in their small form. -/
def numberChars : List Char := "+-.0123456789aefinty".toList

/-- A character that can occur in a number. -/
def IsNumberChar (c : Char) : Prop := c.toLower ∈ numberChars

instance : Decidable (IsNumberChar c) := inferInstanceAs (Decidable (_ ∈ _))

theorem IsSign.chars (h : IsSign cs) : ∀ c ∈ cs, IsNumberChar c := by
  cases h with
  | none => exact List.forall_mem_nil _
  | plus | minus => exact List.forall_mem_singleton.mpr (by decide)

theorem AreDigits.chars (h : AreDigits cs) : ∀ c ∈ cs, IsNumberChar c := by
  intro c hc
  have hall : ∀ n < 58, 48 ≤ n → IsNumberChar (Char.ofNat n) := by decide
  obtain ⟨hlow, hhigh⟩ := isDigit_iff.mp (h c hc)
  have hchar := hall c.toNat (Nat.lt_succ_of_le hhigh) hlow
  rwa [Char.ofNat_toNat] at hchar

theorem IsExponent.chars (h : IsExponent cs) : ∀ c ∈ cs, IsNumberChar c := by
  cases h with
  | none => exact List.forall_mem_nil _
  | some he hsign hds _ =>
    refine List.forall_mem_cons.mpr ⟨?_, List.forall_mem_append.mpr ⟨hsign.chars, hds.chars⟩⟩
    rcases he with rfl | rfl <;> decide

theorem IsDecimal.chars (h : IsDecimal cs) : ∀ c ∈ cs, IsNumberChar c := by
  cases h with
  | whole hds _ he => exact List.forall_mem_append.mpr ⟨hds.chars, he.chars⟩
  | point hds hfs _ he =>
    refine List.forall_mem_append.mpr ⟨hds.chars, List.forall_mem_cons.mpr ⟨by decide, ?_⟩⟩
    exact List.forall_mem_append.mpr ⟨hfs.chars, he.chars⟩

theorem chars_of_word (h : String.ofList (cs.map Char.toLower) ∈ infiniteWords) :
    ∀ c ∈ cs, IsNumberChar c := by
  have hwords : ∀ w ∈ infiniteWords, w.toList ⊆ numberChars := by decide
  intro c hc
  refine hwords _ h ?_
  rw [String.toList_ofList]
  exact List.mem_map_of_mem hc

theorem IsNumber.chars (h : IsNumber cs) : ∀ c ∈ cs, IsNumberChar c := by
  rcases h with ⟨hsign, h⟩ | ⟨hsign, h⟩
  · exact List.forall_mem_append.mpr ⟨hsign.chars, h.chars⟩
  · exact List.forall_mem_append.mpr ⟨hsign.chars, chars_of_word h⟩

end FsGateway.Numeral
