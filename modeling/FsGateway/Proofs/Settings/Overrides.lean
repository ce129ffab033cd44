import FsGateway.Proofs.Numeral.Grammar
import FsGateway.Proofs.Settings.Layers
import FsGateway.Settings.Configuration
import Mathlib

/-!
# Texts from the environment

Four settings are texts. What the environment sets one of them to is read as a truth value or as a
number if it can be, and the setting is the text of what has been read. Whatever the file says, this
is the text of the variable exactly if it is no truth value and no number, or if it is spelled as
the program spells it.

* `TextSetting`: the settings that are texts.
* `IsLiteral`: the texts that are spelled as the program spells them.
* `override_literal_iff`: what the environment sets a text to.
* `not_takesLiterally`: some texts are changed.
* `file_text_literal`: a text of a file is not changed.
-/

namespace FsGateway.Settings

open Environment (key? valueOf lower)
open Numeral (Binary64 IsNumber fitsInt64 integer? isSome_ofText?_iff)

/-! ## Settings that are texts -/

/-- The settings that are texts. -/
inductive TextSetting
  | bindHost
  | saveTo
  | backupTo
  | authScheme
  deriving DecidableEq

namespace TextSetting

/-- The key of a setting. -/
def key : TextSetting → String
  | bindHost => "bind_host"
  | saveTo => "save_to"
  | backupTo => "backup_to"
  | authScheme => "auth_scheme"

/-- The text of a setting in a configuration, if it has one. -/
def text? (c : Configuration) : TextSetting → Option String
  | bindHost => some c.bindHost
  | saveTo => c.saveTo.map (·.text)
  | backupTo => c.backupTo.map (·.text)
  | authScheme => some c.authScheme

theorem isName_key (t : TextSetting) : KeyPath.IsName t.key := by
  cases t <;> exact ⟨by decide, by decide⟩

end TextSetting

section

variable {file : Option File} {environment : List (String × String)} {c : Configuration}
  {t : TextSetting} {name s key : String} {v x : Value}

open FsGateway.Settings.Configuration (load ofValue? sources? setting? path?)

/-! ## The text of a value -/

theorem setting?_of_get? {α : Type} {read? : Value → Option α} {default : α}
    (h : v.get? key = some x) : setting? v key read? default = read? x := by
  rw [setting?, h]

theorem text?_of_path? (hx : x ≠ .nil) {p : Option Mount.Path} (h : path? x = some p) :
    ∃ s, x.text? = some s ∧ p.map (·.text) = some s := by
  unfold path? at h
  split at h
  · exact absurd rfl hx
  · obtain ⟨s, hs, rfl⟩ := Option.map_eq_some_iff.mp h
    exact ⟨s, hs, rfl⟩

/-- A setting that is a text is the text of its value, which has one. -/
theorem text?_of_ofValue? (h : ofValue? v = some c) (hv : v.get? t.key = some x)
    (hx : x ≠ .nil) : ∃ s, x.text? = some s ∧ t.text? c = some s := by
  simp only [ofValue?, bind, Option.bind_eq_some_iff, pure, Option.some.injEq] at h
  obtain ⟨bindHost, hbind, saveTo, hsave, backupTo, hbackup, encoding, -, request, -, drain, -,
    authScheme, hauth, rfl⟩ := h
  cases t with
  | bindHost => exact ⟨bindHost, (setting?_of_get? hv).symm.trans hbind, rfl⟩
  | saveTo => exact text?_of_path? hx ((setting?_of_get? hv).symm.trans hsave)
  | backupTo => exact text?_of_path? hx ((setting?_of_get? hv).symm.trans hbackup)
  | authScheme => exact ⟨authScheme, (setting?_of_get? hv).symm.trans hauth, rfl⟩

/-- Where lists and tables may have been put in the place of a value, a configuration is read from
the value itself. -/
theorem text?_of_overlaid (h : ofValue? v = some c) (hv : v.Overlaid t.key x) (hx : x ≠ .nil) :
    t.text? c = x.text? := by
  rcases hv with hv | ⟨y, hv, hy⟩
  · obtain ⟨s, hxs, hcs⟩ := text?_of_ofValue? h hv hx
    rw [hxs, hcs]
  · have hnil : y ≠ .nil := by
      rintro rfl
      cases hy
    obtain ⟨s, hys, -⟩ := text?_of_ofValue? h hv hnil
    rw [Value.text?_of_isCompound hy] at hys
    cases hys

/-! ## What a variable is read as -/

/-- A word for a truth value, in any case of letters. -/
def IsTruthWord (s : String) : Prop := s.map Char.toLower = "true" ∨ s.map Char.toLower = "false"

/-- The text of a number that fits in 64 bits with its sign. -/
def IsInt64 (s : String) : Prop := ∃ i, integer? s.toList = some i ∧ fitsInt64 i = true

/-- The texts that are spelled as the program spells them: the words for truth values in small
letters, whole numbers without needless characters, other numbers in their shortest form without an
exponent, and all that is neither a truth value nor a number. -/
inductive IsLiteral (s : String) : Prop
  | word : s = "true" ∨ s = "false" → IsLiteral s
  | whole {i : Int} : fitsInt64 i = true → s = toString i → IsLiteral s
  | float {f : Binary64} : ¬IsInt64 s → Binary64.ofText? s = some f → s = f.positional → IsLiteral s
  | other : ¬IsTruthWord s → ¬IsNumber s.toList → IsLiteral s

/-- A word for a truth value has a letter that no number has. -/
theorem not_isNumber_of_isTruthWord (h : IsTruthWord s) : ¬IsNumber s.toList := by
  have hletter : ∃ d ∈ (s.map Char.toLower).toList, d ∉ Numeral.numberChars := by
    rcases h with h | h <;> rw [h]
    · exact ⟨'u', by decide, by decide⟩
    · exact ⟨'l', by decide, by decide⟩
  obtain ⟨d, hd, hout⟩ := hletter
  rw [String.toList_map] at hd
  obtain ⟨c, hc, rfl⟩ := List.mem_map.mp hd
  exact fun hnumber => hout (hnumber.chars c hc)

theorem valueOf_eq_int {i : Int} (hword : ¬IsTruthWord s) (hi : integer? s.toList = some i)
    (hfits : fitsInt64 i = true) : valueOf s = .int i := by
  rw [IsTruthWord, not_or] at hword
  simp only [valueOf, if_neg hword.1, if_neg hword.2, hi, Option.filter, hfits, if_true]

theorem valueOf_of_not_isInt64 (hword : ¬IsTruthWord s) (hint : ¬IsInt64 s) :
    valueOf s = ((Binary64.ofText? s).map Value.float).getD (.text s) := by
  have hfilter : (integer? s.toList).filter fitsInt64 = none := by
    rw [Option.filter_eq_none_iff]
    exact fun i hi hfits => hint ⟨i, hi, hfits⟩
  rw [IsTruthWord, not_or] at hword
  simp only [valueOf, if_neg hword.1, if_neg hword.2, hfilter]
  cases Binary64.ofText? s <;> rfl

theorem text?_valueOf_of_isTruthWord (hword : IsTruthWord s) :
    (valueOf s).text? = some (s.map Char.toLower) := by
  rcases hword with h | h
  · have hvalue : valueOf s = .bool true := if_pos h
    rw [hvalue, h]
    rfl
  · have htrue : s.map Char.toLower ≠ "true" := by
      rw [h]
      decide
    have hvalue : valueOf s = .bool false := (if_neg htrue).trans (if_pos h)
    rw [hvalue, h]
    rfl

/-- A text comes back from its value exactly if it is spelled as the program spells it. -/
theorem text?_valueOf_eq_iff : (valueOf s).text? = some s ↔ IsLiteral s := by
  constructor
  · intro h
    by_cases hword : IsTruthWord s
    · rw [text?_valueOf_of_isTruthWord hword] at h
      exact .word (Option.some.inj h ▸ hword)
    · by_cases hint : IsInt64 s
      · obtain ⟨i, hi, hfits⟩ := hint
        rw [valueOf_eq_int hword hi hfits] at h
        exact .whole hfits (Option.some.inj h).symm
      · rw [valueOf_of_not_isInt64 hword hint] at h
        cases hf : Binary64.ofText? s with
        | some f =>
          rw [hf] at h
          exact .float hint hf (Option.some.inj h).symm
        | none =>
          refine .other hword fun hnumber => ?_
          rw [← isSome_ofText?_iff, hf] at hnumber
          cases hnumber
  · intro h
    cases h with
    | word h =>
      have hsmall : s.map Char.toLower = s := by rcases h with rfl | rfl <;> decide +kernel
      rw [text?_valueOf_of_isTruthWord (by rwa [IsTruthWord, hsmall]), hsmall]
    | @whole i hfits hs =>
      have hi : integer? s.toList = some i := hs ▸ Numeral.integer?_toString i
      have hword := fun h => not_isNumber_of_isTruthWord h (Numeral.isNumber_of_integer? hi)
      rw [valueOf_eq_int hword hi hfits, Value.text?, ← hs]
    | @float f hint hf hs =>
      have hnumber := isSome_ofText?_iff.mp (Option.isSome_of_eq_some hf)
      have hword := fun h => not_isNumber_of_isTruthWord h hnumber
      rw [valueOf_of_not_isInt64 hword hint, hf]
      exact congrArg some hs.symm
    | other hword hnumber =>
      have hint : ¬IsInt64 s := fun ⟨i, hi, _⟩ => hnumber (Numeral.isNumber_of_integer? hi)
      have hf : Binary64.ofText? s = none := by
        rwa [← isSome_ofText?_iff, Option.not_isSome_iff_eq_none] at hnumber
      rw [valueOf_of_not_isInt64 hword hint, hf]
      rfl

/-- A text with a character that no number has, such as a slash, a colon or an underscore, is
spelled as the program spells it, unless it is a word for a truth value. -/
theorem isLiteral_of_char {d : Char} (hword : ¬IsTruthWord s) (hd : d ∈ s.toList)
    (hchar : ¬Numeral.IsNumberChar d) : IsLiteral s :=
  .other hword fun hnumber => hchar (hnumber.chars d hd)

/-- Whatever a text is read as has a text. -/
theorem exists_text?_valueOf (s : String) : ∃ s', (valueOf s).text? = some s' := by
  by_cases hword : IsTruthWord s
  · exact ⟨_, text?_valueOf_of_isTruthWord hword⟩
  · by_cases hint : IsInt64 s
    · obtain ⟨i, hi, hfits⟩ := hint
      rw [valueOf_eq_int hword hi hfits]
      exact ⟨toString i, rfl⟩
    · rw [valueOf_of_not_isInt64 hword hint]
      cases Binary64.ofText? s <;> exact ⟨_, rfl⟩

/-! ## Variables -/

/-- The name of a variable without regard to the case of its letters. -/
def folded (name : String) : List Char := name.toList.map lower

/-- The name of a variable for a key, in any case of letters. -/
theorem folded_of_key? (h : key? name = some key) :
    folded name = Environment.lead ++ key.toList := by
  rw [key?, Option.ite_none_right_eq_some, Option.some.injEq] at h
  obtain ⟨hlead, rfl⟩ := h
  -- The sign of the kelvin has a small form of ASCII too, but it does not occur in the lead.
  have hlower : ∀ c ∈ name.toList.take Environment.lead.length, lower c = c.toLower := by
    intro c hc
    have hmem : c.toLower ∈ Environment.lead := hlead ▸ List.mem_map_of_mem hc
    refine if_neg ?_
    rintro rfl
    revert hmem
    decide
  rw [folded, String.toList_ofList]
  conv_lhs => rw [← List.take_append_drop Environment.lead.length name.toList, List.map_append,
    List.map_congr_left hlower, hlead]

/-- The name of a variable for a setting can be written in any case of letters. -/
theorem key?_of_toUpper (h : name.toList.map Char.toUpper = (Environment.nameOf t.key).toList) :
    key? name = some t.key := by
  rw [Environment.nameOf, String.toList_ofList] at h
  have hlower : ∀ c ∈ name.toList, lower c = c.toLower := by
    intro c hc
    have hmem : c.toUpper ∈ (Environment.lead ++ t.key.toList).map Char.toUpper :=
      h ▸ List.mem_map_of_mem hc
    refine if_neg ?_
    rintro rfl
    revert hmem
    cases t <;> decide
  have hsmall : ((Environment.lead ++ t.key.toList).map Char.toUpper).map Char.toLower =
      Environment.lead ++ t.key.toList := by
    cases t <;> decide
  have hchars : name.toList.map Char.toLower = Environment.lead ++ t.key.toList := by
    rw [← hsmall, ← h, List.map_map]
    exact List.map_congr_left fun c _ => (Char.toLower_toUpper_eq_toLower c).symm
  rw [key?, Option.ite_none_right_eq_some, Option.some.injEq, List.map_take, hchars]
  refine ⟨List.take_left, ?_⟩
  have hdrop : ∀ c ∈ name.toList.drop Environment.lead.length, lower c = c.toLower :=
    fun c hc => hlower c (List.mem_of_mem_drop hc)
  rw [List.map_congr_left hdrop, List.map_drop, hchars, List.drop_left, String.ofList_toList]

/-- Variables whose names differ in more than the case of letters set different keys. -/
theorem nodup_members (hdistinct : (environment.map fun v => folded v.1).Nodup) :
    ((Environment.members environment).map Prod.fst).Nodup := by
  rw [List.Nodup, List.pairwise_map] at hdistinct
  rw [List.Nodup, List.pairwise_map, Environment.members, List.pairwise_filterMap]
  refine hdistinct.imp fun {v w} hne m hm n hn hmn => hne ?_
  obtain ⟨k, hk, rfl⟩ := Option.map_eq_some_iff.mp hm
  obtain ⟨l, hl, rfl⟩ := Option.map_eq_some_iff.mp hn
  rw [folded_of_key? hk, folded_of_key? hl, show k = l from hmn]

theorem mem_members (hmem : (name, s) ∈ environment) (hkey : key? name = some key) :
    (key, valueOf s) ∈ Environment.members environment :=
  List.mem_filterMap.mpr ⟨(name, s), hmem, by rw [hkey]; rfl⟩

/-! ## Loading -/

/-- What is loaded has been read from all layers. -/
theorem ofValue?_of_load (h : load file environment = .ok c) :
    ∃ v, sources? file environment = some v ∧ ofValue? v = some c := by
  unfold load at h
  split at h
  · cases h
  · rename_i c' hc'
    split at h
    · cases h
    · cases h
      exact Option.bind_eq_some_iff.mp hc'

/-- What the environment sets a text to, whatever the file says. -/
theorem text?_of_load (hdistinct : (environment.map fun v => folded v.1).Nodup)
    (hmem : (name, s) ∈ environment) (hkey : key? name = some t.key)
    (h : load file environment = .ok c) : t.text? c = (valueOf s).text? := by
  obtain ⟨v, hv, hc⟩ := ofValue?_of_load h
  obtain ⟨ms, -, rfl⟩ := Option.map_eq_some_iff.mp hv
  obtain ⟨s', hs'⟩ := exists_text?_valueOf s
  have hscalar : ∀ x : Value, x.text? = none → valueOf s ≠ x := by
    rintro _ hx rfl
    rw [hs'] at hx
    cases hx
  have hlayer := Value.overlaid_layer_of_mem t.isName_key (fun ms => hscalar (.table ms) rfl)
    (nodup_members hdistinct) (mem_members hmem hkey) ((Value.table []).layer ms)
  exact text?_of_overlaid hc hlayer (hscalar .nil rfl)

/-- A text from the environment is taken as it is exactly if it is spelled as the program spells it.
Any other is taken as the text of its value, whatever the file says. -/
theorem override_literal_iff (hdistinct : (environment.map fun v => folded v.1).Nodup)
    (hmem : (name, s) ∈ environment) (hkey : key? name = some t.key)
    (h : load file environment = .ok c) :
    t.text? c = (valueOf s).text? ∧ (t.text? c = some s ↔ IsLiteral s) := by
  have htext := text?_of_load hdistinct hmem hkey h
  exact ⟨htext, by rw [htext, text?_valueOf_eq_iff]⟩

theorem override_literal_exponent :
    ∃ c, load none [("FUSEGATE_BIND_HOST", "[::1]:80"), ("Fusegate_Save_To", "1e3")] = .ok c ∧
      TextSetting.bindHost.text? c = some "[::1]:80" ∧
      TextSetting.saveTo.text? c = some "1000" ∧ ¬IsLiteral "1e3" := by
  have hload : load none [("FUSEGATE_BIND_HOST", "[::1]:80"), ("Fusegate_Save_To", "1e3")] =
      .ok { (default : Configuration) with bindHost := "[::1]:80", saveTo := some ⟨"1000"⟩ } := by
    decide +kernel
  have hbind : IsLiteral "[::1]:80" :=
    isLiteral_of_char (by rw [IsTruthWord]; decide +kernel) (show ':' ∈ _ by decide) (by decide)
  have hkey : key? "Fusegate_Save_To" = some TextSetting.saveTo.key := key?_of_toUpper (by decide)
  obtain ⟨-, hbindHost⟩ := override_literal_iff (t := .bindHost) (by decide) List.mem_cons_self
    (key?_of_toUpper (by decide)) hload
  obtain ⟨-, hsaveTo⟩ := override_literal_iff (by decide)
    (List.mem_cons_of_mem _ List.mem_cons_self) hkey hload
  exact ⟨_, hload, hbindHost.mpr hbind, rfl, fun h => absurd (hsaveTo.mpr h) (by decide)⟩

/-- Every text from the environment is taken as it is. -/
def TakesLiterally : Prop :=
  ∀ (file : Option File) (environment : List (String × String)) (c : Configuration)
    (t : TextSetting) (name s : String), (environment.map fun v => folded v.1).Nodup →
    (name, s) ∈ environment → key? name = some t.key → load file environment = .ok c →
    t.text? c = some s

/-- One zero in front of a number is enough to change a text. -/
theorem not_takesLiterally : ¬TakesLiterally := by
  intro h
  have hload : load none [("FUSEGATE_AUTH_SCHEME", "007")] =
      .ok { (default : Configuration) with authScheme := "7" } := by decide +kernel
  have htext := h none _ _ .authScheme _ "007" (by decide) List.mem_cons_self (by decide +kernel)
    hload
  exact absurd htext (by decide)

/-- A text of a file is taken as it is where no variable reaches below its key. -/
theorem file_text_literal {f : File} {ms : List (String × Value)} (hfile : f.members? = some ms)
    (hdistinct : (ms.map Prod.fst).Nodup) (hmem : (t.key, .text s) ∈ ms)
    (hapart : ∀ v ∈ environment, ∀ k, key? v.1 = some k → (KeyPath.ofKey k).root ≠ t.key)
    (h : load (some f) environment = .ok c) : t.text? c = some s := by
  obtain ⟨v, hv, hc⟩ := ofValue?_of_load h
  obtain ⟨ms', hms', rfl⟩ := Option.map_eq_some_iff.mp hv
  cases Option.some.inj (hfile.symm.trans hms')
  have hmembers : ∀ m ∈ Environment.members environment, (KeyPath.ofKey m.1).root ≠ t.key := by
    intro m hm
    obtain ⟨v, hv, hvm⟩ := List.mem_filterMap.mp hm
    obtain ⟨k, hk, rfl⟩ := Option.map_eq_some_iff.mp hvm
    exact hapart v hv k hk
  have hlayer := Value.overlaid_layer_of_mem t.isName_key (by rintro _ ⟨⟩) hdistinct hmem (.table [])
  rw [Value.Overlaid, ← Value.get?_layer_of_apart hmembers] at hlayer
  exact text?_of_overlaid hc hlayer (by rintro ⟨⟩)

end

end FsGateway.Settings
