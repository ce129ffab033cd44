import FsGateway.Proofs.Json.Numerals
import FsGateway.Proofs.Numeral.Grammar
import FsGateway.Toml.Document

/-!
# Documents of keys with their values

A document without headers, with a key and its value on each line, is read as the table of these
keys and values. The values are texts of characters that stand for themselves, and whole numbers.

* `Spells`: what is read as a value at the end of a line.
* `spells_quote`, `spells_toString`: texts and numbers are read as they are written.
* `Document.parse?_lines`: the members of a document.
-/

namespace FsGateway.Toml

open Numeral (fitsInt64 natural? splitSign)

/-! ## Texts -/

namespace Text

variable {c : Char} {cs : List Char} {s : String}

/-- A character that stands for itself between quotation marks. -/
structure IsVerbatim (c : Char) : Prop where
  notMark : c ≠ '"'
  notBackslash : c ≠ '\\'
  notTab : c ≠ '\t'
  notControl : isControl c = false

theorem escape_of_isVerbatim (h : IsVerbatim c) : escape c = [c] := by
  have hshort : shortForms.find? (·.2 = c) = none := by
    rw [List.find?_eq_none]
    simp only [shortForms, List.forall_mem_cons, decide_eq_true_eq, List.not_mem_nil, false_implies,
      implies_true, and_true]
    have hcontrol : ∀ d, isControl d = true → d ≠ c := by
      rintro d hd rfl
      cases hd.symm.trans h.notControl
    exact ⟨hcontrol _ rfl, h.notTab.symm, hcontrol _ rfl, hcontrol _ rfl, hcontrol _ rfl,
      h.notMark.symm, h.notBackslash.symm⟩
  rw [escape, hshort]
  simp only [h.notControl, Bool.false_eq_true, if_false]

theorem quote_chars (h : ∀ c ∈ s.toList, IsVerbatim c) :
    (quote s).toList = '"' :: s.toList ++ ['"'] := by
  have hescape : s.toList.flatMap escape = s.toList := by
    rw [List.flatMap_congr fun c hc => escape_of_isVerbatim (h c hc), List.flatMap_singleton']
  rw [quote, String.toList_ofList, hescape]

/-- Characters that stand for themselves are read up to the closing mark. -/
theorem quoted?_append (h : ∀ c ∈ cs, IsVerbatim c) (rest : List Char) :
    quoted? false false (cs ++ '"' :: rest) = some (cs, rest) := by
  induction cs with
  | nil =>
    rw [List.nil_append, quoted?.eq_def]
    rfl
  | cons c cs ih =>
    obtain ⟨hc, hcs⟩ := List.forall_mem_cons.mp h
    have hnewline : c ≠ '\n' := by
      rintro rfl
      cases hc.notControl
    have hreturn : c ≠ '\r' := by
      rintro rfl
      cases hc.notControl
    rw [List.cons_append, quoted?.eq_def]
    simp only [hc.notMark, hc.notBackslash, hc.notControl, hnewline, hreturn, if_false,
      Bool.false_and, Bool.false_eq_true, ih hcs]
    rfl

/-- A text is read as it is written. No mark follows it, so that an empty text is not taken for the
start of one that spans lines. -/
theorem read?_append (h : ∀ c ∈ cs, IsVerbatim c) {rest : List Char}
    (hrest : rest.head? ≠ some '"') :
    read? ('"' :: (cs ++ '"' :: rest)) = some (cs, rest) := by
  have hline := quoted?_append h rest
  unfold read?
  split
  · rename_i heq
    cases cs with
    | nil =>
      cases heq
      exact absurd rfl hrest
    | cons c cs =>
      have hmark : c = '"' := (List.cons.inj (List.cons.inj heq).2).1
      exact absurd hmark (h c List.mem_cons_self).notMark
  · rename_i heq
    cases heq
  · exact hline

end Text

/-! ## Numbers -/

namespace Value

variable {cs : List Char} {n : Nat}

theorem ne_of_isDigit {c d : Char} (h : c.isDigit = true) (hd : d.isDigit = false) : c ≠ d := by
  rintro rfl
  cases h.symm.trans hd

/-- Only zero is written with a zero in front. -/
theorem toDigits_zero_cons (h : Nat.toDigits 10 n = '0' :: cs) : cs = [] := by
  obtain ⟨b, ds, hb, -, hzero⟩ := Json.Number.natLexeme_head n
  rw [Json.Number.natLexeme, h, List.map_cons, List.cons.injEq] at hb
  obtain ⟨hhead, hds⟩ := hb
  exact List.map_eq_nil_iff.mp (hds.trans (hzero hhead.symm))

/-- Digits without underscores stay as they are. -/
theorem ungroup?_of_areDigits (hne : cs ≠ []) (h : Numeral.AreDigits cs) :
    ungroup? 10 cs = some cs := by
  induction cs with
  | nil => exact absurd rfl hne
  | cons c cs ih =>
    have hdigit : Numeral.isDigit 10 c = true := by
      rw [Numeral.isDigit_ten]
      exact h c List.mem_cons_self
    have hcs : Numeral.AreDigits cs := fun d hd => h d (List.mem_cons_of_mem _ hd)
    cases cs with
    | nil => rw [ungroup?, if_pos hdigit]
    | cons d ds =>
      have hd : d ≠ '_' := by
        rintro rfl
        cases hcs '_' List.mem_cons_self
      unfold ungroup?
      split
      · rename_i heq
        cases heq
      · rename_i heq
        cases heq
      · rename_i heq
        cases heq
        exact absurd rfl hd
      · rename_i heq
        cases heq
        rw [if_pos hdigit, ih (List.cons_ne_nil _ _) hcs]
        rfl

theorem whole?_toDigits (n : Nat) : whole? (Nat.toDigits 10 n) = some (Nat.toDigits 10 n) := by
  rw [whole?, ungroup?_of_areDigits Nat.toDigits_ne_nil (Numeral.areDigits_toDigits n)]
  split
  · rename_i heq
    cases toDigits_zero_cons (Option.some.inj heq)
  · rfl

theorem wholeNumber?_toDigits (n : Nat) : wholeNumber? (Nat.toDigits 10 n) = some (n : Int) := by
  -- After a zero in front nothing follows, so no other radix is taken.
  unfold wholeNumber?
  split
  · rename_i heq
    cases toDigits_zero_cons heq
  · rename_i heq
    cases toDigits_zero_cons heq
  · rename_i heq
    cases toDigits_zero_cons heq
  · have hunsigned := Numeral.isUnsigned_of_areDigits Nat.toDigits_ne_nil
      (Numeral.areDigits_toDigits n) []
    rw [List.append_nil] at hunsigned
    rw [Numeral.splitSign_of_isUnsigned hunsigned]
    simp only [whole?_toDigits, Option.bind_some, Numeral.natural?_toDigits]
    rfl

theorem scalar?_toDigits (h : fitsInt64 n = true) :
    scalar? (Nat.toDigits 10 n) = some (.int n) := by
  have hletter : ∀ c cs, c.isDigit = false → Nat.toDigits 10 n ≠ c :: cs := fun c cs hc heq =>
    ne_of_isDigit (Numeral.areDigits_toDigits n c (heq ▸ List.mem_cons_self)) hc rfl
  rw [scalar?, if_neg (hletter _ _ rfl), if_neg (hletter _ _ rfl), wholeNumber?_toDigits]
  exact if_pos h

/-- A value that starts with a digit is no text, no array and no table. -/
theorem read?_of_isDigit {c : Char} (h : c.isDigit = true) (cs : List Char) :
    read? (c :: cs) = readScalar? (c :: cs) := by
  have hquote : c ≠ '"' ∧ c ≠ '\'' := ⟨ne_of_isDigit h rfl, ne_of_isDigit h rfl⟩
  have hopen : c ≠ '[' ∧ c ≠ '\x7b' := ⟨ne_of_isDigit h rfl, ne_of_isDigit h rfl⟩
  rw [read?, readWithin?]
  all_goals
    simp only [List.cons.injEq, hquote, hopen, false_and, false_implies, implies_true]

theorem isScalarChar_of_isDigit {c : Char} (h : c.isDigit = true) : isScalarChar c = true := by
  simp [isScalarChar, Char.isAlphanum, h]

theorem readScalar?_toDigits (h : fitsInt64 n = true) (rest : List Char) :
    readScalar? (Nat.toDigits 10 n ++ '\n' :: rest) = some (.int n, '\n' :: rest) := by
  have hchars : ∀ c ∈ Nat.toDigits 10 n, isScalarChar c = true :=
    fun c hc => isScalarChar_of_isDigit (Numeral.areDigits_toDigits n c hc)
  have hrun : (Nat.toDigits 10 n ++ '\n' :: rest).takeWhile isScalarChar = Nat.toDigits 10 n := by
    rw [List.takeWhile_append_of_pos hchars]
    exact List.append_nil _
  have hrest : (Nat.toDigits 10 n ++ '\n' :: rest).dropWhile isScalarChar = '\n' :: rest := by
    rw [List.dropWhile_append_of_pos hchars]
    rfl
  simp only [readScalar?, hrun, hrest, scalar?_toDigits h]
  rfl

end Value

/-! ## Ends of lines -/

/-- What stands for a value between a blank and the end of a line. -/
structure Spells (cs : List Char) (v : Value) : Prop where
  start : ∀ c ∈ cs.head?, Text.isBlank c = false
  read : ∀ rest, Value.read? (cs ++ '\n' :: rest) = some (v, '\n' :: rest)

/-- A text is read as it is written. -/
theorem spells_quote {s : String} (h : ∀ c ∈ s.toList, Text.IsVerbatim c) :
    Spells (Text.quote s).toList (.text s) where
  start := by
    rw [Text.quote_chars h]
    rintro _ ⟨⟩
    rfl
  read rest := by
    have hnext : ('\n' :: rest).head? ≠ some '"' := by simp
    have hread := Text.read?_append h hnext
    rw [Text.quote_chars h, List.cons_append, List.cons_append, List.append_assoc,
      List.singleton_append, Value.read?, Value.readWithin?, hread]
    simp only [Option.map_some, String.ofList_toList]

/-- A number that fits in 64 bits is read as it is written. -/
theorem spells_toString {n : Nat} (h : fitsInt64 n = true) :
    Spells (toString n).toList (.int n) := by
  have hchars : (toString n).toList = Nat.toDigits 10 n := by
    rw [Nat.toString_eq_repr, Nat.toList_repr]
  obtain ⟨c, cs, hcs⟩ := List.exists_cons_of_ne_nil (Nat.toDigits_ne_nil (b := 10) (n := n))
  have hdigit : c.isDigit = true := Numeral.areDigits_toDigits n c (hcs ▸ List.mem_cons_self)
  constructor
  · rw [hchars, hcs]
    rintro _ ⟨⟩
    simp [Text.isBlank, Value.ne_of_isDigit hdigit (d := ' ') rfl,
      Value.ne_of_isDigit hdigit (d := '\t') rfl]
  · intro rest
    have hread := Value.readScalar?_toDigits h rest
    rw [hchars]
    rw [hcs, List.cons_append] at hread ⊢
    rw [Value.read?_of_isDigit hdigit, hread]

/-! ## Blanks -/

theorem isBlank_of_isBareChar {c : Char} (h : isBareChar c = true) : Text.isBlank c = false := by
  rw [Bool.eq_false_iff]
  intro hblank
  rw [Text.isBlank, Bool.or_eq_true, decide_eq_true_eq, decide_eq_true_eq] at hblank
  rcases hblank with rfl | rfl <;> cases h

/-- Nothing is skipped where no blank stands. -/
theorem skipBlanks_of_head {cs : List Char} (h : ∀ c ∈ cs.head?, Text.isBlank c = false) :
    skipBlanks cs = cs := by
  cases cs with
  | nil => rfl
  | cons c cs => exact List.dropWhile_cons_of_neg (by simp [h c (List.head?_cons ..)])

/-! ## Lines -/

/-- A line of a document: a key, what stands for its value, and the value. -/
structure Line where
  key : String
  text : String
  value : Value

namespace Line

/-- The characters of a line. -/
def chars (l : Line) : List Char := l.key.toList ++ ' ' :: '=' :: ' ' :: (l.text.toList ++ ['\n'])

/-- A line is read as its key with its value. -/
structure IsSound (l : Line) : Prop where
  key : l.key.toList ≠ [] ∧ ∀ c ∈ l.key.toList, isBareChar c = true
  text : Spells l.text.toList l.value

variable {l : Line}

/-- A line starts with the first character of its key. -/
theorem exists_chars_eq (h : l.IsSound) : ∃ c cs, l.chars = c :: cs ∧ isBareChar c = true := by
  obtain ⟨⟨hne, hbare⟩, -⟩ := h
  obtain ⟨c, cs, hkey⟩ := List.exists_cons_of_ne_nil hne
  exact ⟨c, _, by rw [chars, hkey]; rfl, hbare c (hkey ▸ List.mem_cons_self)⟩

/-- The key of a line is read up to the blank behind it. -/
theorem readKeys?_chars (h : l.IsSound) (rest : List Char) :
    readKeys? (l.chars ++ rest) =
      some ([l.key], '=' :: ' ' :: (l.text.toList ++ '\n' :: rest)) := by
  have hstart : skipBlanks (l.chars ++ rest) = l.chars ++ rest := by
    obtain ⟨c, cs, hline, hc⟩ := exists_chars_eq h
    rw [hline]
    refine skipBlanks_of_head ?_
    rintro _ ⟨⟩
    exact isBlank_of_isBareChar hc
  obtain ⟨⟨hne, hbare⟩, -⟩ := h
  have hchars : l.chars ++ rest =
      l.key.toList ++ ' ' :: '=' :: ' ' :: (l.text.toList ++ '\n' :: rest) := by
    simp [chars]
  generalize l.text.toList ++ '\n' :: rest = tail at hchars
  have hrun : (l.chars ++ rest).takeWhile isBareChar = l.key.toList := by
    rw [hchars, List.takeWhile_append_of_pos hbare]
    exact List.append_nil _
  have hrest : (l.chars ++ rest).dropWhile isBareChar = ' ' :: '=' :: ' ' :: tail := by
    rw [hchars, List.dropWhile_append_of_pos hbare]
    rfl
  have hread : readKey? (l.chars ++ rest) = some (l.key, ' ' :: '=' :: ' ' :: tail) := by
    simp only [readKey?, hrun, hrest, if_neg hne, String.ofList_toList]
  rw [readKeys?, maxKeys, readUpTo?, hstart, hread]
  rfl

theorem readAssigned?_chars (h : l.IsSound) (rest : List Char) :
    readAssigned? (l.chars ++ rest) = some ([l.key], l.text.toList ++ '\n' :: rest) := by
  have hstart : skipBlanks (l.text.toList ++ '\n' :: rest) = l.text.toList ++ '\n' :: rest := by
    refine skipBlanks_of_head fun c hc => ?_
    cases htext : l.text.toList with
    | nil =>
      rw [htext] at hc
      cases hc
      rfl
    | cons d ds =>
      rw [htext] at hc
      exact h.text.start c (by rw [htext]; exact hc)
  rw [readAssigned?, readKeys?_chars h]
  exact congrArg (fun cs => some ([l.key], cs)) hstart

end Line

namespace Members

variable {ms : Members} {k : String}

/-- A key that is new comes after the others. -/
theorem put_of_lookup_none (h : ms.lookup k = none) (x : Item) : ms.put k x = ms ++ [(k, x)] := by
  induction ms with
  | nil => rfl
  | cons m ms ih =>
    obtain ⟨k', y⟩ := m
    rw [List.lookup_cons] at h
    have hk : k' ≠ k := by
      rintro rfl
      simp at h
    rw [beq_false_of_ne hk.symm] at h
    rw [put, if_neg hk, ih h]
    rfl

end Members

namespace Document

variable {l : Line} {ls : List Line} {ms : Members}

/-- A line puts its key with its value after the keys before it. -/
theorem statement?_chars (h : l.IsSound) (hnew : ms.lookup l.key = none) (rest : List Char) :
    statement? ⟨ms, []⟩ (l.chars ++ rest) =
      some (⟨ms ++ [(l.key, .value l.value)], []⟩, rest) := by
  have hvalue : withValue? [l.key] l.value ⟨ms, []⟩ =
      some ⟨ms ++ [(l.key, .value l.value)], []⟩ := by
    simp only [withValue?, Members.within?, Members.assign?, hnew, Option.isSome_none,
      Bool.false_eq_true, if_false, Members.put_of_lookup_none hnew, Option.map_some]
  obtain ⟨c, cs, hchars, hc⟩ := Line.exists_chars_eq h
  have hopen : c ≠ '[' := by
    rintro rfl
    cases hc
  have hassigned := Line.readAssigned?_chars h rest
  rw [hchars, List.cons_append] at hassigned ⊢
  rw [statement?]
  · simp only [hassigned, h.text.read rest, hvalue, Option.bind_eq_bind, Option.bind_some]
    rfl
  all_goals
    simp only [List.cons.injEq, hopen, false_and, false_implies, implies_true]

/-- Nothing is skipped before a line. -/
theorem skipLines?_chars (h : l.IsSound) (rest : List Char) :
    skipLines? false (l.chars ++ rest) = some (l.chars ++ rest) := by
  obtain ⟨c, cs, hchars, hc⟩ := Line.exists_chars_eq h
  have hne : ∀ d, isBareChar d = false → c ≠ d := by
    rintro d hd rfl
    cases hd.symm.trans hc
  rw [hchars, List.cons_append, skipLines?]
  simp only [hne '\n' rfl, hne '\r' rfl, hne '#' rfl, isBlank_of_isBareChar hc, if_false,
    Bool.false_eq_true]

/-- The statements of lines, whose keys are new. The induction is on the lines, each of which uses
up one unit of fuel. -/
theorem statements?_chars (h : ∀ l ∈ ls, l.IsSound) (hnew : ∀ l ∈ ls, ms.lookup l.key = none)
    (hnodup : (ls.map (·.key)).Nodup) {fuel : Nat} (hfuel : ls.length < fuel) :
    statements? fuel ⟨ms, []⟩ (ls.flatMap Line.chars) =
      some ⟨ms ++ ls.map fun l => (l.key, .value l.value), []⟩ := by
  induction ls generalizing ms fuel with
  | nil =>
    obtain ⟨fuel, rfl⟩ := Nat.exists_eq_succ_of_ne_zero (Nat.ne_of_gt hfuel)
    simp [statements?, skipLines?]
  | cons l ls ih =>
    obtain ⟨fuel, rfl⟩ := Nat.exists_eq_succ_of_ne_zero (Nat.ne_of_gt (Nat.zero_lt_of_lt hfuel))
    obtain ⟨hl, hls⟩ := List.forall_mem_cons.mp h
    obtain ⟨hnewl, hnewls⟩ := List.forall_mem_cons.mp hnew
    obtain ⟨hfresh, hnodup⟩ := List.nodup_cons.mp hnodup
    have hafter : ∀ l' ∈ ls, (ms ++ [(l.key, Item.value l.value)]).lookup l'.key = none := by
      intro l' hl'
      have hne : l'.key ≠ l.key := fun heq =>
        hfresh (List.mem_map.mpr ⟨l', hl', heq⟩)
      rw [List.lookup_append, hnewls l' hl', Option.none_or, List.lookup_cons, beq_false_of_ne hne]
      rfl
    have hrest := ih hls hafter hnodup (Nat.lt_of_succ_lt_succ hfuel)
    obtain ⟨c, cs, hchars, -⟩ := Line.exists_chars_eq hl
    have hskip := skipLines?_chars hl (ls.flatMap Line.chars)
    have hstatement := statement?_chars hl hnewl (ls.flatMap Line.chars)
    rw [List.flatMap_cons, statements?, hskip]
    rw [hchars, List.cons_append] at hstatement ⊢
    simp only [hstatement, hrest, List.map_cons, List.append_assoc, List.singleton_append]

theorem valuesOf_lines (ls : List Line) :
    valuesOf (ls.map fun l => (l.key, .value l.value)) = ls.map fun l => (l.key, l.value) := by
  induction ls with
  | nil => rfl
  | cons l ls ih => rw [List.map_cons, List.map_cons, valuesOf, ih, Item.toValue]

theorem length_le_chars (ls : List Line) : ls.length ≤ (ls.flatMap Line.chars).length := by
  induction ls with
  | nil => exact Nat.le_refl _
  | cons l ls ih =>
    rw [List.flatMap_cons, List.length_append, List.length_cons, Line.chars]
    simp only [List.length_append, List.length_cons]
    omega

/-- A document is read as the table of its lines. -/
theorem parse?_lines (h : ∀ l ∈ ls, l.IsSound) (hnodup : (ls.map (·.key)).Nodup) {s : String}
    (hs : s.toList = ls.flatMap Line.chars) :
    parse? s = some (ls.map fun l => (l.key, l.value)) := by
  have hmark : dropMark (ls.flatMap Line.chars) = ls.flatMap Line.chars := by
    cases ls with
    | nil => rfl
    | cons l ls =>
      obtain ⟨c, cs, hchars, hc⟩ := Line.exists_chars_eq (h l List.mem_cons_self)
      rw [List.flatMap_cons, hchars, List.cons_append, dropMark]
      rintro rest heq
      cases heq
      cases hc
  have hnew : ∀ l ∈ ls, List.lookup l.key ([] : Members) = none := fun _ _ => rfl
  have hstatements := statements?_chars h hnew hnodup (Nat.lt_succ_of_le (length_le_chars ls))
  rw [parse?, hs]
  simp only [hmark]
  rw [empty, hstatements, Option.map_some, List.nil_append, valuesOf_lines]

end Document

end FsGateway.Toml
