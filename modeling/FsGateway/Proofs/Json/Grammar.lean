import FsGateway.Json.Schema
import FsGateway.Proofs.Json.Spelling

/-!
# The grammar of documents

A document is a value with space around it. Space may also stand around every item, every name and
every value of a member. Numbers are spelled without zeros in front, and strings are what can stand
between two quotes.

* `Node.Numeral`: how numbers are spelled.
* `Node.WrittenAs`, `Node.DocumentOf`: the texts of a value, and of a document.
* `Node.parse_eq_iff`: parsing finds the node that a text is a document of, if there is one.
-/

namespace FsGateway.Json.Node

variable {n : Node} {items : List Node} {members : List (Bytes × Node)} {fuel : Nat} {x : UInt8}
  {b sp t rest name : Bytes}

/-! ## Numbers -/

/-- Decimal digits, of which there is at least one. -/
structure Digits (ds : Bytes) : Prop where
  ne_nil : ds ≠ []
  isDigit : ∀ x ∈ ds, isDigit x = true

/-- The digits of a whole number. A zero stands in front of no other digit. -/
structure WholeDigits (ds : Bytes) : Prop extends Digits ds where
  noZero : ∀ tail, ds = 0x30 :: tail → tail = []

/-- A minus sign, or nothing. -/
inductive Sign : Bytes → Prop
  | none : Sign []
  | minus : Sign [0x2D]

/-- A point with digits after it, or nothing. -/
inductive Fraction : Bytes → Prop
  | none : Fraction []
  | digits {ds : Bytes} : Digits ds → Fraction (0x2E :: ds)

/-- The letter E with digits after it, which may have a sign, or nothing. -/
inductive Exponent : Bytes → Prop
  | none : Exponent []
  | digits {e : UInt8} {ds : Bytes} : e = 0x65 ∨ e = 0x45 → Digits ds → Exponent (e :: ds)
  | signed {e s : UInt8} {ds : Bytes} : e = 0x65 ∨ e = 0x45 → s = 0x2B ∨ s = 0x2D → Digits ds →
      Exponent (e :: s :: ds)

/-- How a number is spelled. -/
inductive Numeral : Bytes → Prop
  | mk {sign whole fraction exponent : Bytes} : Sign sign → WholeDigits whole →
      Fraction fraction → Exponent exponent → Numeral (sign ++ whole ++ fraction ++ exponent)

/-! ## Documents -/

/-- A run of space. -/
def Blank (sp : Bytes) : Prop := ∀ x ∈ sp, isSpace x = true

/-- The name of a member, with the colon behind it. -/
inductive NameOf (name : Bytes) : Bytes → Prop
  | mk {before after : Bytes} : Blank before → Text.RawForm name → Blank after →
      NameOf name (before ++ Text.quote :: name ++ Text.quote :: after ++ [0x3A])

mutual

/-- The texts of a value. -/
inductive WrittenAs : Node → Bytes → Prop
  | null : WrittenAs .null (literal "null")
  | bool (value : Bool) :
      WrittenAs (.bool value) (literal (if value then "true" else "false"))
  | number {lexeme : Bytes} : Numeral lexeme → WrittenAs (.number lexeme) lexeme
  | string {raw : Bytes} : Text.RawForm raw →
      WrittenAs (.string raw) (Text.quote :: raw ++ [Text.quote])
  | emptyArray {sp : Bytes} : Blank sp → WrittenAs (.array [] true) (0x5B :: sp ++ [0x5D])
  | array {items : List Node} {b : Bytes} : ItemsWrittenAs items b →
      WrittenAs (.array items true) (0x5B :: b)
  | emptyObject {sp : Bytes} : Blank sp → WrittenAs (.object [] true) (0x7B :: sp ++ [0x7D])
  | object {members : List (Bytes × Node)} {b : Bytes} : MembersWrittenAs members b →
      WrittenAs (.object members true) (0x7B :: b)

/-- The texts of a value with space around it. -/
inductive DocumentOf : Node → Bytes → Prop
  | mk {n : Node} {before t after : Bytes} : Blank before → WrittenAs n t → Blank after →
      DocumentOf n (before ++ t ++ after)

/-- The texts of the items of an array, with the closing bracket. There is at least one. -/
inductive ItemsWrittenAs : List Node → Bytes → Prop
  | last {n : Node} {b : Bytes} : DocumentOf n b → ItemsWrittenAs [n] (b ++ [0x5D])
  | more {n : Node} {ns : List Node} {b rest : Bytes} : DocumentOf n b →
      ItemsWrittenAs ns rest → ItemsWrittenAs (n :: ns) (b ++ 0x2C :: rest)

/-- The texts of the members of an object, with the closing brace. There is at least one. -/
inductive MembersWrittenAs : List (Bytes × Node) → Bytes → Prop
  | last {name : Bytes} {n : Node} {a b : Bytes} : NameOf name a → DocumentOf n b →
      MembersWrittenAs [(name, n)] (a ++ b ++ [0x7D])
  | more {name : Bytes} {n : Node} {ms : List (Bytes × Node)} {a b rest : Bytes} :
      NameOf name a → DocumentOf n b → MembersWrittenAs ms rest →
      MembersWrittenAs ((name, n) :: ms) (a ++ b ++ 0x2C :: rest)

end

/-! ## Space -/

theorem blank_nil : Blank [] := List.forall_mem_nil _

theorem skipSpace_blank (h : Blank sp) (b : Bytes) : skipSpace (sp ++ b) = skipSpace b := by
  rw [skipSpace, List.dropWhile_append_of_pos h, skipSpace]

theorem skipSpace_cons (h : isSpace x = false) (b : Bytes) : skipSpace (x :: b) = x :: b := by
  rw [skipSpace, List.dropWhile_cons_of_neg (by simp [h])]

/-- The space at the start of an input, and the rest. -/
theorem exists_blank (b : Bytes) : ∃ sp, Blank sp ∧ b = sp ++ skipSpace b :=
  ⟨b.takeWhile isSpace, List.all_eq_true.mp List.all_takeWhile,
    (List.takeWhile_append_dropWhile).symm⟩

/-! ## Finding the end of a number -/

/-- What a number ends in front of: nothing that could belong to it. -/
def EndsNumber : Bytes → Prop
  | [] => True
  | x :: _ => isDigit x = false ∧ x ≠ 0x2E ∧ x ≠ 0x65 ∧ x ≠ 0x45

theorem scanDigits_eq_some (h : scanDigits b = some (t, rest)) : Digits t ∧ b = t ++ rest := by
  unfold scanDigits at h
  simp only at h
  split at h
  · cases h
  · rename_i hne
    cases h
    refine ⟨⟨by simpa using hne, List.all_eq_true.mp List.all_takeWhile⟩, ?_⟩
    exact (List.takeWhile_append_dropWhile).symm

/-- Digits are found in front of anything that is no digit. -/
theorem scanDigits_append {ds : Bytes} (hds : Digits ds)
    (hrest : ∀ x tail, rest = x :: tail → isDigit x = false) :
    scanDigits (ds ++ rest) = some (ds, rest) := by
  have hstop : rest.takeWhile isDigit = [] ∧ rest.dropWhile isDigit = rest := by
    cases rest with
    | nil => exact ⟨rfl, rfl⟩
    | cons x tail =>
      have hx := hrest x tail rfl
      exact ⟨List.takeWhile_cons_of_neg (by simp [hx]), List.dropWhile_cons_of_neg (by simp [hx])⟩
  rw [scanDigits, List.takeWhile_append_of_pos hds.isDigit, hstop.1, List.append_nil,
    List.dropWhile_append_of_pos hds.isDigit, hstop.2]
  simp [hds.ne_nil]

theorem scanWhole_eq_some (h : scanWhole b = some (t, rest)) : WholeDigits t ∧ b = t ++ rest := by
  unfold scanWhole at h
  split at h
  · cases h
  · rename_i hzero
    obtain ⟨hdigits, hb⟩ := scanDigits_eq_some h
    refine ⟨⟨hdigits, fun tail ht => ?_⟩, hb⟩
    cases tail with
    | nil => rfl
    | cons x tail => exact absurd (ht ▸ h) (hzero x tail rest)

theorem scanWhole_append {ds : Bytes} (hds : WholeDigits ds)
    (hrest : ∀ x tail, rest = x :: tail → isDigit x = false) :
    scanWhole (ds ++ rest) = some (ds, rest) := by
  rw [scanWhole, scanDigits_append hds.toDigits hrest]
  split
  · rename_i x tail rest' heq
    cases heq
    cases hds.noZero _ rfl
  · rfl

theorem scanFraction_eq_some (h : scanFraction b = some (t, rest)) :
    Fraction t ∧ b = t ++ rest := by
  unfold scanFraction at h
  split at h
  · obtain ⟨⟨ds, after⟩, hscan, heq⟩ := Option.map_eq_some_iff.mp h
    cases heq
    obtain ⟨hdigits, rfl⟩ := scanDigits_eq_some hscan
    exact ⟨.digits hdigits, rfl⟩
  · cases h
    exact ⟨.none, rfl⟩

theorem scanFraction_append (ht : Fraction t)
    (hrest : ∀ x tail, rest = x :: tail → isDigit x = false ∧ x ≠ 0x2E) :
    scanFraction (t ++ rest) = some (t, rest) := by
  cases ht with
  | none =>
    cases rest with
    | nil => rfl
    | cons x tail =>
      have hx := (hrest x tail rfl).2
      simp [scanFraction, hx]
  | digits hds =>
    rw [List.cons_append, scanFraction, scanDigits_append hds fun x tail h => (hrest x tail h).1]
    rfl

theorem scanExponent_eq_some (h : scanExponent b = some (t, rest)) :
    Exponent t ∧ b = t ++ rest := by
  unfold scanExponent at h
  split at h
  · split at h
    · rename_i e _ he
      split at h
      · split at h
        · rename_i s _ hs
          obtain ⟨⟨ds, after⟩, hscan, heq⟩ := Option.map_eq_some_iff.mp h
          cases heq
          obtain ⟨hdigits, rfl⟩ := scanDigits_eq_some hscan
          exact ⟨.signed he hs hdigits, rfl⟩
        · obtain ⟨⟨ds, after⟩, hscan, heq⟩ := Option.map_eq_some_iff.mp h
          cases heq
          obtain ⟨hdigits, hb⟩ := scanDigits_eq_some hscan
          exact ⟨.digits he hdigits, congrArg (e :: ·) hb⟩
      · cases h
    · cases h
      exact ⟨.none, rfl⟩
  · cases h
    exact ⟨.none, rfl⟩

theorem scanExponent_append (ht : Exponent t) (hrest : EndsNumber rest) :
    scanExponent (t ++ rest) = some (t, rest) := by
  have hdigit : ∀ x tail, rest = x :: tail → isDigit x = false := by
    rintro x tail rfl
    exact hrest.1
  cases ht with
  | none =>
    cases rest with
    | nil => rfl
    | cons x tail =>
      have hx : ¬ (x = 0x65 ∨ x = 0x45) := not_or.mpr ⟨hrest.2.2.1, hrest.2.2.2⟩
      simp [scanExponent, hx]
  | digits he hds =>
    have hscan := scanDigits_append hds hdigit
    obtain ⟨d, ds, rfl⟩ := List.exists_cons_of_ne_nil hds.ne_nil
    have hd := hds.isDigit d List.mem_cons_self
    have hs : ¬ (d = 0x2B ∨ d = 0x2D) := by
      rintro (rfl | rfl) <;> cases hd
    simp only [List.cons_append] at hscan ⊢
    simp [scanExponent, he, hs, hscan]
  | signed he hs hds => simp [scanExponent, he, hs, scanDigits_append hds hdigit]

theorem Exponent.ends {e : Bytes} (he : Exponent e) (hrest : EndsNumber rest) :
    ∀ x tail, e ++ rest = x :: tail → isDigit x = false ∧ x ≠ 0x2E := by
  intro x tail h
  cases he with
  | none =>
    subst h
    exact ⟨hrest.1, hrest.2.1⟩
  | digits he _ | signed he _ _ =>
    cases h
    rcases he with rfl | rfl <;> exact ⟨rfl, by decide⟩

theorem Fraction.ends {f : Bytes} (hf : Fraction f)
    (hrest : ∀ x tail, rest = x :: tail → isDigit x = false ∧ x ≠ 0x2E) :
    ∀ x tail, f ++ rest = x :: tail → isDigit x = false := by
  intro x tail h
  cases hf with
  | none => exact (hrest x tail h).1
  | digits _ =>
    cases h
    rfl

/-- The parts of a number after its sign are found one after another. -/
theorem scanUnsigned_eq_some {sign : Bytes} (hsign : Sign sign) (h : (do
      let (whole, b) ← scanWhole b
      let (fraction, b) ← scanFraction b
      let (exponent, b) ← scanExponent b
      pure (sign ++ whole ++ fraction ++ exponent, b)) = some (t, rest)) :
    Numeral t ∧ sign ++ b = t ++ rest := by
  obtain ⟨⟨whole, b₁⟩, hscan₁, h⟩ := Option.bind_eq_some_iff.mp h
  obtain ⟨⟨fraction, b₂⟩, hscan₂, h⟩ := Option.bind_eq_some_iff.mp h
  obtain ⟨⟨exponent, b₃⟩, hscan₃, h⟩ := Option.bind_eq_some_iff.mp h
  cases h
  obtain ⟨hwhole, rfl⟩ := scanWhole_eq_some hscan₁
  obtain ⟨hfraction, rfl⟩ := scanFraction_eq_some hscan₂
  obtain ⟨hexponent, rfl⟩ := scanExponent_eq_some hscan₃
  exact ⟨.mk hsign hwhole hfraction hexponent, by simp⟩

theorem scanNumber_eq_some (h : scanNumber b = some (t, rest)) : Numeral t ∧ b = t ++ rest := by
  unfold scanNumber at h
  split at h
  rename_i sign tail hsign
  split at hsign
  · cases hsign
    exact scanUnsigned_eq_some .minus h
  · cases hsign
    exact scanUnsigned_eq_some .none h

/-- A number is found in front of anything that cannot belong to it. -/
theorem scanNumber_append (ht : Numeral t) (hrest : EndsNumber rest) :
    scanNumber (t ++ rest) = some (t, rest) := by
  obtain ⟨hsign, hwhole, hfraction, hexponent⟩ := ht
  rename_i sign whole fraction exponent
  have hafter := hexponent.ends hrest
  have hscan := scanWhole_append hwhole (hfraction.ends hafter)
  have hmore := scanFraction_append hfraction hafter
  have hlast := scanExponent_append hexponent hrest
  cases hsign with
  | minus => simp [scanNumber, hscan, hmore, hlast]
  | none =>
    obtain ⟨d, ds, rfl⟩ := List.exists_cons_of_ne_nil hwhole.ne_nil
    have hd : d ≠ 0x2D := by
      rintro rfl
      cases hwhole.isDigit _ List.mem_cons_self
    simp only [List.cons_append] at hscan
    simp [scanNumber, hd, hscan, hmore, hlast]

/-- A number starts with a minus sign or a digit. -/
theorem Numeral.head (h : Numeral t) :
    ∃ x tail, t = x :: tail ∧ (x = 0x2D ∨ isDigit x = true) := by
  obtain ⟨hsign, hwhole, -, -⟩ := h
  obtain ⟨d, ds, rfl⟩ := List.exists_cons_of_ne_nil hwhole.ne_nil
  cases hsign with
  | none => exact ⟨d, _, rfl, .inr (hwhole.isDigit d List.mem_cons_self)⟩
  | minus => exact ⟨_, _, rfl, .inl rfl⟩

theorem Numeral.head_ne (h : Numeral (x :: t)) {y : UInt8} (hminus : y ≠ 0x2D)
    (hdigit : isDigit y = false) : x ≠ y := by
  obtain ⟨x', tail, heq, hstart⟩ := h.head
  cases heq
  rintro rfl
  rcases hstart with hx | hx
  · exact hminus hx
  · cases hdigit.symm.trans hx

/-! ## First bytes -/

/-- The first byte of a value is neither space nor a bracket that closes an array. -/
theorem WrittenAs.head (h : WrittenAs n t) :
    ∃ x tail, t = x :: tail ∧ isSpace x = false ∧ x ≠ 0x5D := by
  cases h with
  | null => exact ⟨_, _, rfl, rfl, by decide⟩
  | bool value => cases value <;> exact ⟨_, _, rfl, rfl, by decide⟩
  | number hnumeral =>
    obtain ⟨x, tail, rfl, -⟩ := hnumeral.head
    refine ⟨x, tail, rfl, ?_, hnumeral.head_ne (by decide) rfl⟩
    have h20 := hnumeral.head_ne (y := 0x20) (by decide) rfl
    have h09 := hnumeral.head_ne (y := 0x09) (by decide) rfl
    have h0A := hnumeral.head_ne (y := 0x0A) (by decide) rfl
    have h0D := hnumeral.head_ne (y := 0x0D) (by decide) rfl
    simp [isSpace, h20, h09, h0A, h0D]
  | string | emptyArray | array | emptyObject | object => exact ⟨_, _, rfl, rfl, by decide⟩

theorem skipSpace_written (h : WrittenAs n t) (hsp : Blank sp) (rest : Bytes) :
    skipSpace (sp ++ t ++ rest) = t ++ rest := by
  obtain ⟨x, tail, rfl, hx, -⟩ := h.head
  rw [List.append_assoc, skipSpace_blank hsp, List.cons_append, skipSpace_cons hx]

theorem skipSpace_blank_cons (hsp : Blank sp) (hx : isSpace x = false) (b : Bytes) :
    skipSpace (sp ++ x :: b) = x :: b := by
  rw [skipSpace_blank hsp, skipSpace_cons hx]

/-- Space, a comma or a closing bracket ends a number. -/
theorem endsNumber_blank (hsp : Blank sp) (hrest : EndsNumber rest) : EndsNumber (sp ++ rest) := by
  cases sp with
  | nil => exact hrest
  | cons x sp =>
    have hx := hsp x List.mem_cons_self
    have hspaces : ∀ y, isSpace y = true → EndsNumber (y :: (sp ++ rest)) := by
      intro y hy
      simp only [isSpace, Bool.or_eq_true, decide_eq_true_eq] at hy
      rcases hy with ((rfl | rfl) | rfl) | rfl <;> exact ⟨rfl, by decide, by decide, by decide⟩
    exact hspaces x hx

/-! ## What is found is in the grammar -/

/-- A value that is found is in the grammar. -/
def FindsValue (fuel : Nat) : Prop :=
  ∀ b n rest, parseValue fuel b = (n, some rest) →
    ∃ sp t, b = sp ++ t ++ rest ∧ Blank sp ∧ WrittenAs n t

/-- Items that are found are in the grammar. -/
def FindsItems (fuel : Nat) : Prop :=
  ∀ b items rest, parseItems fuel b = (items, some rest) →
    ∃ t, b = t ++ rest ∧ ItemsWrittenAs items t

/-- Members that are found are in the grammar. -/
def FindsMembers (fuel : Nat) : Prop :=
  ∀ b members rest, parseMembers fuel b = (members, some rest) →
    ∃ t, b = t ++ rest ∧ MembersWrittenAs members t

theorem dropLiteral_eq_some {s : String} (h : dropLiteral s b = some rest) :
    b = literal s ++ rest := by
  unfold dropLiteral at h
  simp only at h
  split at h
  · rename_i hprefix
    cases h
    obtain ⟨tail, rfl⟩ := List.isPrefixOf_iff_prefix.mp hprefix
    rw [List.drop_left]
  · cases h

/-! Space in front belongs to the first item, or to the name of the first member. -/

theorem Blank.append {sp' : Bytes} (h : Blank sp) (h' : Blank sp') : Blank (sp ++ sp') := by
  intro x hx
  rcases List.mem_append.mp hx with hx | hx
  · exact h x hx
  · exact h' x hx

theorem DocumentOf.blank (h : DocumentOf n t) (hsp : Blank sp) : DocumentOf n (sp ++ t) := by
  obtain ⟨hbefore, hwritten, hafter⟩ := h
  have hdocument := DocumentOf.mk (hsp.append hbefore) hwritten hafter
  simpa only [List.append_assoc] using hdocument

theorem ItemsWrittenAs.blank (h : ItemsWrittenAs items t) (hsp : Blank sp) :
    ItemsWrittenAs items (sp ++ t) := by
  cases h with
  | last hn => simpa only [List.append_assoc] using ItemsWrittenAs.last (hn.blank hsp)
  | more hn hns => simpa only [List.append_assoc] using ItemsWrittenAs.more (hn.blank hsp) hns

theorem NameOf.blank (h : NameOf name t) (hsp : Blank sp) : NameOf name (sp ++ t) := by
  obtain ⟨hbefore, hraw, hafter⟩ := h
  have hname := NameOf.mk (hsp.append hbefore) hraw hafter
  simpa only [List.append_assoc] using hname

theorem MembersWrittenAs.blank (h : MembersWrittenAs members t) (hsp : Blank sp) :
    MembersWrittenAs members (sp ++ t) := by
  cases h with
  | last hname hn =>
    simpa only [List.append_assoc] using MembersWrittenAs.last (hname.blank hsp) hn
  | more hname hn hms =>
    simpa only [List.append_assoc] using MembersWrittenAs.more (hname.blank hsp) hn hms

theorem findsValue_succ (hitems : FindsItems fuel) (hmembers : FindsMembers fuel) :
    FindsValue (fuel + 1) := by
  intro b n rest h
  obtain ⟨sp, hsp, hb⟩ := exists_blank b
  rw [parseValue] at h
  -- the value starts behind the space
  suffices hvalue : ∃ t, skipSpace b = t ++ rest ∧ WrittenAs n t by
    obtain ⟨t, ht, hwritten⟩ := hvalue
    exact ⟨sp, t, by rw [List.append_assoc, ← ht, ← hb], hsp, hwritten⟩
  split at h
  · cases h
  rename_i c tail hstart
  rw [hstart]
  split at h
  · rename_i hc
    split at h
    · rename_i raw after hscan
      cases h
      obtain ⟨hraw, rfl⟩ := Text.scan_eq_some_iff.mp hscan
      exact ⟨_, by rw [hc]; simp, .string hraw⟩
    · cases h
  split at h
  · rename_i hc
    subst hc
    obtain ⟨sp', hsp', htail⟩ := exists_blank tail
    split at h
    · rename_i after hclose
      cases h
      exact ⟨_, by rw [htail, hclose]; simp, .emptyArray hsp'⟩
    · obtain ⟨hn, hafter⟩ := Prod.mk.inj h
      obtain ⟨t, ht, hwritten⟩ := hitems _ _ _ (Prod.ext rfl hafter)
      refine ⟨0x5B :: (sp' ++ t), by rw [htail, ht]; simp, ?_⟩
      rw [← hn, hafter]
      exact .array (hwritten.blank hsp')
  split at h
  · rename_i hc
    subst hc
    obtain ⟨sp', hsp', htail⟩ := exists_blank tail
    split at h
    · rename_i after hclose
      cases h
      exact ⟨_, by rw [htail, hclose]; simp, .emptyObject hsp'⟩
    · obtain ⟨hn, hafter⟩ := Prod.mk.inj h
      obtain ⟨t, ht, hwritten⟩ := hmembers _ _ _ (Prod.ext rfl hafter)
      refine ⟨0x7B :: (sp' ++ t), by rw [htail, ht]; simp, ?_⟩
      rw [← hn, hafter]
      exact .object (hwritten.blank hsp')
  split at h
  · split at h
    · rename_i after hliteral
      cases h
      exact ⟨_, dropLiteral_eq_some hliteral, .null⟩
    · cases h
  split at h
  · split at h
    · rename_i after hliteral
      cases h
      exact ⟨_, dropLiteral_eq_some hliteral, .bool true⟩
    · cases h
  split at h
  · split at h
    · rename_i after hliteral
      cases h
      exact ⟨_, dropLiteral_eq_some hliteral, .bool false⟩
    · cases h
  split at h
  · rename_i lexeme after hscan
    cases h
    obtain ⟨hnumeral, hb⟩ := scanNumber_eq_some hscan
    exact ⟨_, hb, .number hnumeral⟩
  · cases h

theorem findsItems_succ (hvalue : FindsValue fuel) (hitems : FindsItems fuel) :
    FindsItems (fuel + 1) := by
  intro b items rest h
  rw [parseItems] at h
  split at h
  · cases h
  rename_i n after hn
  obtain ⟨sp, t, rfl, hsp, hwritten⟩ := hvalue _ _ _ hn
  obtain ⟨sp', hsp', hafter⟩ := exists_blank after
  have hdocument := DocumentOf.mk hsp hwritten hsp'
  split at h
  · rename_i hclose
    cases h
    exact ⟨_, by rw [hafter, hclose]; simp, .last hdocument⟩
  · rename_i more hcomma
    obtain ⟨rfl, hrest⟩ := Prod.mk.inj h
    obtain ⟨t', ht', hwritten'⟩ := hitems _ _ _ (Prod.ext rfl hrest)
    exact ⟨_, by rw [hafter, hcomma, ht']; simp, .more hdocument hwritten'⟩
  · cases h

theorem findsMembers_succ (hvalue : FindsValue fuel) (hmembers : FindsMembers fuel) :
    FindsMembers (fuel + 1) := by
  intro b members rest h
  obtain ⟨sp, hsp, hb⟩ := exists_blank b
  rw [parseMembers] at h
  split at h
  · rename_i tail hquote
    rw [hb, hquote]
    split at h
    · cases h
    rename_i name colon hscan
    obtain ⟨hraw, rfl⟩ := Text.scan_eq_some_iff.mp hscan
    obtain ⟨sp', hsp', hcolon⟩ := exists_blank colon
    have hname := NameOf.mk hsp hraw hsp'
    split at h
    · rename_i value hvalueAt
      split at h
      · cases h
      rename_i n after hn
      obtain ⟨sp₁, t, rfl, hsp₁, hwritten⟩ := hvalue _ _ _ hn
      obtain ⟨sp₂, hsp₂, hafter⟩ := exists_blank after
      have hdocument := DocumentOf.mk hsp₁ hwritten hsp₂
      split at h
      · rename_i hclose
        cases h
        exact ⟨_, by rw [hcolon, hvalueAt, hafter, hclose]; simp [Text.quote], .last hname hdocument⟩
      · rename_i more hcomma
        obtain ⟨rfl, hrest⟩ := Prod.mk.inj h
        obtain ⟨t', ht', hwritten'⟩ := hmembers _ _ _ (Prod.ext rfl hrest)
        exact ⟨_, by rw [hcolon, hvalueAt, hafter, hcomma, ht']; simp [Text.quote],
          .more hname hdocument hwritten'⟩
      · cases h
    · cases h
  · cases h

/-- What is found is in the grammar, with any amount of fuel. -/
theorem finds (fuel : Nat) : FindsValue fuel ∧ FindsItems fuel ∧ FindsMembers fuel := by
  induction fuel with
  | zero =>
    refine ⟨fun b n rest h => ?_, fun b items rest h => ?_, fun b members rest h => ?_⟩ <;> cases h
  | succ fuel ih =>
    obtain ⟨hvalue, hitems, hmembers⟩ := ih
    exact ⟨findsValue_succ hitems hmembers, findsItems_succ hvalue hitems,
      findsMembers_succ hvalue hmembers⟩

/-! ## What is in the grammar is found -/

/-- A value in the grammar is found with so much fuel, whatever ends it. -/
def ParsesValue (fuel : Nat) : Prop :=
  ∀ n sp t rest, Blank sp → WrittenAs n t → EndsNumber rest → 2 * t.length ≤ fuel →
    parseValue fuel (sp ++ t ++ rest) = (n, some rest)

/-- Items in the grammar are found with so much fuel, whatever follows them. -/
def ParsesItems (fuel : Nat) : Prop :=
  ∀ items t rest, ItemsWrittenAs items t → 2 * t.length ≤ fuel →
    parseItems fuel (t ++ rest) = (items, some rest)

/-- Members in the grammar are found with so much fuel, whatever follows them. -/
def ParsesMembers (fuel : Nat) : Prop :=
  ∀ members t rest, MembersWrittenAs members t → 2 * t.length ≤ fuel →
    parseMembers fuel (t ++ rest) = (members, some rest)

theorem dropLiteral_append (s : String) (rest : Bytes) :
    dropLiteral s (literal s ++ rest) = some rest := by
  simp [dropLiteral]

/-- Items without the space in front of them. -/
theorem ItemsWrittenAs.start (h : ItemsWrittenAs items t) (rest : Bytes) :
    ∃ x tail, skipSpace (t ++ rest) = x :: tail ++ rest ∧ x ≠ 0x5D ∧
      ItemsWrittenAs items (x :: tail) ∧ tail.length < t.length := by
  have hstart : ∀ {n : Node} {before v : Bytes} (after close : Bytes), Blank before →
      WrittenAs n v → ∃ x tail, v ++ after = x :: tail ∧ x ≠ 0x5D ∧
        skipSpace (before ++ v ++ after ++ close) = v ++ after ++ close := by
    intro n before v after close hbefore hv
    obtain ⟨x, tail, rfl, -, hx⟩ := hv.head
    refine ⟨x, tail ++ after, rfl, hx, ?_⟩
    rw [List.append_assoc, skipSpace_written hv hbefore, List.append_assoc]
  cases h with
  | last hn =>
    obtain ⟨hbefore, hv, hafter⟩ := hn
    rename_i before v after
    obtain ⟨x, tail, heq, hx, hskip⟩ := hstart after ([0x5D] ++ rest) hbefore hv
    refine ⟨x, tail ++ [0x5D], ?_, hx, ?_, ?_⟩
    · rw [List.append_assoc, hskip, heq]
      simp
    · rw [← List.cons_append, ← heq]
      exact .last (.mk blank_nil hv hafter)
    · have hlength := congrArg List.length heq
      simp only [List.length_append, List.length_cons, List.length_nil] at hlength ⊢
      omega
  | more hn hns =>
    obtain ⟨hbefore, hv, hafter⟩ := hn
    rename_i n ns others before v after
    obtain ⟨x, tail, heq, hx, hskip⟩ := hstart after (0x2C :: others ++ rest) hbefore hv
    refine ⟨x, tail ++ 0x2C :: others, ?_, hx, ?_, ?_⟩
    · rw [List.append_assoc, ← List.cons_append, hskip, heq]
      simp
    · rw [← List.cons_append, ← heq]
      exact .more (.mk blank_nil hv hafter) hns
    · have hlength := congrArg List.length heq
      simp only [List.length_append, List.length_cons] at hlength ⊢
      omega

/-- Members without the space in front of them. -/
theorem MembersWrittenAs.start (h : MembersWrittenAs members t) (rest : Bytes) :
    ∃ tail, skipSpace (t ++ rest) = 0x22 :: tail ++ rest ∧
      MembersWrittenAs members (0x22 :: tail) ∧ tail.length < t.length := by
  cases h with
  | last hname hn =>
    obtain ⟨hbefore, hraw, hafter⟩ := hname
    rename_i name n b before after
    have hwritten := MembersWrittenAs.last (.mk blank_nil hraw hafter) hn
    simp only [List.nil_append, List.cons_append] at hwritten
    refine ⟨name ++ Text.quote :: after ++ [0x3A] ++ b ++ [0x7D], ?_, hwritten, ?_⟩
    · simp only [List.append_assoc, List.cons_append, List.nil_append]
      exact skipSpace_blank_cons hbefore (by decide : isSpace Text.quote = false) _
    · simp only [List.length_append, List.length_cons]
      omega
  | more hname hn hms =>
    obtain ⟨hbefore, hraw, hafter⟩ := hname
    rename_i name n ms b others before after
    have hwritten := MembersWrittenAs.more (.mk blank_nil hraw hafter) hn hms
    simp only [List.nil_append, List.cons_append] at hwritten
    refine ⟨name ++ Text.quote :: after ++ [0x3A] ++ b ++ 0x2C :: others, ?_, hwritten, ?_⟩
    · simp only [List.append_assoc, List.cons_append, List.nil_append]
      exact skipSpace_blank_cons hbefore (by decide : isSpace Text.quote = false) _
    · simp only [List.length_append, List.length_cons]
      omega

theorem parsesValue_succ (hitems : ParsesItems fuel) (hmembers : ParsesMembers fuel) :
    ParsesValue (fuel + 1) := by
  intro n sp t rest hsp hwritten hrest hfuel
  rw [parseValue, skipSpace_written hwritten hsp]
  cases hwritten with
  | null =>
    have hdrop := dropLiteral_append "null" rest
    have hliteral : literal "null" = [0x6E, 0x75, 0x6C, 0x6C] := rfl
    rw [hliteral] at hdrop ⊢
    simp only [List.cons_append, List.nil_append] at hdrop ⊢
    simp [Text.quote, hdrop]
  | bool value =>
    cases value with
    | true =>
      have hdrop := dropLiteral_append "true" rest
      have hliteral : literal "true" = [0x74, 0x72, 0x75, 0x65] := rfl
      simp only [if_true, hliteral, List.cons_append, List.nil_append] at hdrop ⊢
      simp [Text.quote, hdrop]
    | false =>
      have hdrop := dropLiteral_append "false" rest
      have hliteral : literal "false" = [0x66, 0x61, 0x6C, 0x73, 0x65] := rfl
      simp only [Bool.false_eq_true, if_false, hliteral, List.cons_append, List.nil_append]
        at hdrop ⊢
      simp [Text.quote, hdrop]
  | number hnumeral =>
    have hscan := scanNumber_append hnumeral hrest
    obtain ⟨x, tail, rfl, -⟩ := hnumeral.head
    have hquote : x ≠ Text.quote := hnumeral.head_ne (by decide) rfl
    have harray : x ≠ 0x5B := hnumeral.head_ne (by decide) rfl
    have hobject : x ≠ 0x7B := hnumeral.head_ne (by decide) rfl
    have hnull : x ≠ 0x6E := hnumeral.head_ne (by decide) rfl
    have htrue : x ≠ 0x74 := hnumeral.head_ne (by decide) rfl
    have hfalse : x ≠ 0x66 := hnumeral.head_ne (by decide) rfl
    rw [List.cons_append] at hscan ⊢
    simp only [hquote, harray, hobject, hnull, htrue, hfalse, if_false, hscan]
  | string hraw =>
    rename_i raw
    have hscan := Text.scan_append hraw rest
    simp only [List.cons_append, List.append_assoc, List.nil_append]
    simp [hscan]
  | emptyArray hsp' =>
    rename_i sp'
    have hskip := skipSpace_blank_cons hsp' (by decide : isSpace 0x5D = false) rest
    simp only [List.cons_append, List.append_assoc, List.nil_append]
    simp [Text.quote, hskip]
  | array hwritten =>
    obtain ⟨x, tail, hskip, hx, hwritten', hlength⟩ := hwritten.start rest
    rw [List.length_cons] at hfuel
    have hread := hitems _ _ rest hwritten' (by rw [List.length_cons]; omega)
    rw [List.cons_append] at hskip hread
    rw [List.cons_append]
    simp [Text.quote, hskip, hx, hread]
  | emptyObject hsp' =>
    rename_i sp'
    have hskip := skipSpace_blank_cons hsp' (by decide : isSpace 0x7D = false) rest
    simp only [List.cons_append, List.append_assoc, List.nil_append]
    simp [Text.quote, hskip]
  | object hwritten =>
    obtain ⟨tail, hskip, hwritten', hlength⟩ := hwritten.start rest
    rw [List.length_cons] at hfuel
    have hread := hmembers _ _ rest hwritten' (by rw [List.length_cons]; omega)
    rw [List.cons_append] at hskip hread
    rw [List.cons_append]
    simp [Text.quote, hskip, hread]

/-- A value in the grammar is found up to the delimiter behind the space after it. -/
theorem ParsesValue.document (hvalue : ParsesValue fuel) (h : DocumentOf n b)
    (hfuel : 2 * b.length ≤ fuel) (hx : isSpace x = false) (hrest : EndsNumber (x :: rest)) :
    ∃ after, parseValue fuel (b ++ x :: rest) = (n, some after) ∧
      skipSpace after = x :: rest := by
  obtain ⟨hbefore, hwritten, hafter⟩ := h
  rename_i before t after
  simp only [List.length_append] at hfuel
  have hread := hvalue n before t (after ++ x :: rest) hbefore hwritten
    (endsNumber_blank hafter hrest) (by omega)
  refine ⟨after ++ x :: rest, ?_, skipSpace_blank_cons hafter hx rest⟩
  rw [List.append_assoc (before ++ t)]
  exact hread

theorem endsNumber_comma (rest : Bytes) : EndsNumber (0x2C :: rest) :=
  ⟨rfl, by decide, by decide, by decide⟩

theorem endsNumber_bracket (rest : Bytes) : EndsNumber (0x5D :: rest) :=
  ⟨rfl, by decide, by decide, by decide⟩

theorem endsNumber_brace (rest : Bytes) : EndsNumber (0x7D :: rest) :=
  ⟨rfl, by decide, by decide, by decide⟩

theorem DocumentOf.length_pos (h : DocumentOf n b) : 0 < b.length := by
  obtain ⟨-, hwritten, -⟩ := h
  obtain ⟨x, tail, rfl, -⟩ := hwritten.head
  simp only [List.length_append, List.length_cons]
  omega

theorem parsesItems_succ (hvalue : ParsesValue fuel) (hitems : ParsesItems fuel) :
    ParsesItems (fuel + 1) := by
  intro items t rest h hfuel
  cases h with
  | last hn =>
    simp only [List.length_append, List.length_singleton] at hfuel
    obtain ⟨after, hread, hskip⟩ :=
      hvalue.document hn (by omega) (by decide) (endsNumber_bracket rest)
    rw [List.append_assoc, List.singleton_append, parseItems, hread]
    simp [hskip]
  | more hn hns =>
    have hpos := hn.length_pos
    simp only [List.length_append, List.length_cons] at hfuel
    rename_i n ns b others
    obtain ⟨after, hread, hskip⟩ :=
      hvalue.document hn (by omega) (by decide) (endsNumber_comma (others ++ rest))
    have hmore := hitems _ _ rest hns (by omega)
    rw [List.append_assoc, List.cons_append, parseItems, hread]
    simp [hskip, hmore]

/-- The name of a member is found up to its colon. -/
theorem NameOf.found (h : NameOf name t) (rest : Bytes) :
    ∃ tail colon, skipSpace (t ++ rest) = 0x22 :: tail ∧ Text.scan tail = some (name, colon) ∧
      skipSpace colon = 0x3A :: rest := by
  obtain ⟨hbefore, hraw, hafter⟩ := h
  rename_i before after
  refine ⟨name ++ Text.quote :: (after ++ 0x3A :: rest), after ++ 0x3A :: rest, ?_,
    Text.scan_append hraw _, skipSpace_blank_cons hafter (by decide) rest⟩
  simp only [List.append_assoc, List.cons_append, List.nil_append]
  exact skipSpace_blank_cons hbefore (by decide : isSpace Text.quote = false) _

theorem parsesMembers_succ (hvalue : ParsesValue fuel) (hmembers : ParsesMembers fuel) :
    ParsesMembers (fuel + 1) := by
  intro members t rest h hfuel
  cases h with
  | last hname hn =>
    rename_i name n a b
    simp only [List.length_append, List.length_singleton] at hfuel
    obtain ⟨after, hread, hskip⟩ :=
      hvalue.document hn (by omega) (by decide) (endsNumber_brace rest)
    obtain ⟨tail, colon, hquote, hscan, hcolon⟩ := hname.found (b ++ 0x7D :: rest)
    rw [List.append_assoc, List.append_assoc, List.singleton_append, parseMembers, hquote]
    simp [hscan, hcolon, hread, hskip]
  | more hname hn hms =>
    rename_i name n ms a b others
    have hpos := hn.length_pos
    simp only [List.length_append, List.length_cons] at hfuel
    obtain ⟨after, hread, hskip⟩ :=
      hvalue.document hn (by omega) (by decide) (endsNumber_comma (others ++ rest))
    obtain ⟨tail, colon, hquote, hscan, hcolon⟩ := hname.found (b ++ 0x2C :: (others ++ rest))
    have hmore := hmembers _ _ rest hms (by omega)
    rw [List.append_assoc, List.append_assoc, List.cons_append, parseMembers, hquote]
    simp [hscan, hcolon, hread, hskip, hmore]

/-- What is in the grammar is found, with twice as much fuel as there are bytes. -/
theorem parses (fuel : Nat) : ParsesValue fuel ∧ ParsesItems fuel ∧ ParsesMembers fuel := by
  induction fuel with
  | zero =>
    refine ⟨fun n sp t rest _ h _ hfuel => ?_, fun items t rest h hfuel => ?_,
      fun members t rest h hfuel => ?_⟩
    · obtain ⟨x, tail, rfl, -⟩ := h.head
      simp at hfuel
    · cases h <;> simp at hfuel
    · cases h <;> simp at hfuel
  | succ fuel ih =>
    obtain ⟨hvalue, hitems, hmembers⟩ := ih
    exact ⟨parsesValue_succ hitems hmembers, parsesItems_succ hvalue hitems,
      parsesMembers_succ hvalue hmembers⟩

/-! ## Parsing -/

/-- Parsing finds the node that a text is a document of, if there is one. -/
theorem parse_eq_iff : parse b = (n, true) ↔ DocumentOf n b := by
  constructor
  · intro h
    unfold parse at h
    split at h
    · cases h
    · rename_i n' rest hvalue
      obtain ⟨rfl, hend⟩ := Prod.mk.inj h
      obtain ⟨sp, t, rfl, hsp, hwritten⟩ := (finds _).1 _ _ _ hvalue
      obtain ⟨sp', hsp', hrest⟩ := exists_blank rest
      rw [List.isEmpty_iff.mp hend, List.append_nil] at hrest
      exact hrest ▸ .mk hsp hwritten hsp'
  · rintro ⟨hbefore, hwritten, hafter⟩
    rename_i before t after
    have hends : EndsNumber after := by
      have h := endsNumber_blank hafter (show EndsNumber [] from trivial)
      rwa [List.append_nil] at h
    have hskip : skipSpace after = [] := by
      have h := skipSpace_blank hafter []
      rwa [List.append_nil] at h
    have hread := (parses (2 * (before ++ t ++ after).length + 2)).1 n before t after hbefore
      hwritten hends (by simp only [List.length_append]; omega)
    simp only [parse, hread, hskip, List.isEmpty_nil]

end FsGateway.Json.Node
