import FsGateway.Proofs.Settings.Layers
import FsGateway.Proofs.Text.Characters
import FsGateway.Proofs.Toml.Lines
import FsGateway.Settings.Configuration
import Mathlib

/-!
# A dumped configuration is loaded back

A configuration is dumped as a document with a line for each setting that has a value. The document
is read as the table of these settings, which is laid over an empty one. A setting without a line is
left at its default, which is none.

* `lines`: the lines of a dump, and what is read from each.
* `sources?_dump`: what stands under each key when a dump has been read.
* `load_dump`: an accepted configuration is loaded from its dump.
-/

namespace FsGateway.Settings

open FsGateway.Mount (Path)
open Toml (Line Spells)
open Toml.Text (quote IsVerbatim)

/-! ## Files that hold a text -/

/-- The text of a file is the one that it holds, unless the text starts with a mark of the byte
order. -/
theorem File.textOf_encode {s : String} (h : File.mark.isPrefixOf (Text.encode s) = false) :
    File.textOf (Text.encode s) = s := by
  rw [File.textOf, h, Text.decodeLossy]
  simp only [Bool.false_eq_true, if_false, Text.decode_encode]

theorem Value.ofTomlMembers_map (ls : List Line) :
    Value.ofTomlMembers (ls.map fun l => (l.key, l.value)) =
      ls.map fun l => (l.key, Value.ofToml l.value) := by
  induction ls with
  | nil => rfl
  | cons l ls ih => rw [List.map_cons, List.map_cons, Value.ofTomlMembers, ih]

namespace Configuration

variable {c : Configuration} {key s : String} {n : Nat} {l : Line}

/-! ## Lines -/

/-- The line of a setting that is a text. -/
def textLine (key s : String) : Line := ⟨key, quote s, .text s⟩

/-- The line of a setting that is a number. -/
def numberLine (key : String) (n : Nat) : Line := ⟨key, toString n, .int n⟩

/-- The lines of a dump. -/
def lines (c : Configuration) : List Line :=
  [textLine "bind_host" c.bindHost]
    ++ (c.saveTo.map fun p => textLine "save_to" p.text).toList
    ++ (c.backupTo.map fun p => textLine "backup_to" p.text).toList
    ++ [textLine "encoding" c.encoding.name,
        numberLine "request_timeout_ms" c.requestTimeout.toNat,
        numberLine "drain_timeout_ms" c.drainTimeout.toNat,
        textLine "auth_scheme" c.authScheme]

theorem line_chars (l : Line) : (line l.key l.text).toList = l.chars := by
  simp [line, Line.chars]

theorem dump_chars (c : Configuration) : c.dump.toList = c.lines.flatMap Line.chars := by
  have htext : ∀ key s, (line key (quote s)).toList = (textLine key s).chars :=
    fun key s => line_chars (textLine key s)
  have hnumber : ∀ key n, (line key (toString n)).toList = (numberLine key n).chars :=
    fun key n => line_chars (numberLine key n)
  have hpath : ∀ key (p : Option Path), (p.elim "" fun p => line key (quote p.text)).toList =
      (p.map fun p => textLine key p.text).toList.flatMap Line.chars := by
    intro key p
    cases p with
    | none => rfl
    | some p => simp [htext]
  simp only [dump, lines, String.toList_append, List.flatMap_append, htext, hnumber, hpath,
    List.flatMap_cons, List.flatMap_nil, List.append_nil, List.append_assoc]

/-- The keys of a dump are those of the settings, in order, but for those without a value. -/
theorem keys_lines_sublist (c : Configuration) : (c.lines.map (·.key)).Sublist keys := by
  have hpath : ∀ key (p : Option Path),
      ((p.map fun p => textLine key p.text).toList.map (·.key)).Sublist [key] := by
    intro key p
    cases p with
    | none => exact List.nil_sublist _
    | some p => exact List.Sublist.refl _
  simp only [lines, List.map_append]
  exact (((List.Sublist.refl _).append (hpath "save_to" c.saveTo)).append
    (hpath "backup_to" c.backupTo)).append (List.Sublist.refl _)

theorem nodup_keys_lines (c : Configuration) : (c.lines.map (·.key)).Nodup :=
  c.keys_lines_sublist.nodup (by decide)

theorem key_mem_of_mem_lines (h : l ∈ c.lines) : l.key ∈ keys :=
  c.keys_lines_sublist.subset (List.mem_map_of_mem h)

/-- What is read from a line is a text or a number. -/
theorem ofToml_ne_table (h : l ∈ c.lines) (t : List (String × Value)) :
    Value.ofToml l.value ≠ .table t := by
  simp only [lines, List.mem_append, List.mem_cons, List.not_mem_nil, or_false, Option.mem_toList,
    Option.map_eq_some_iff] at h
  rcases h with ((rfl | ⟨_, _, rfl⟩) | ⟨_, _, rfl⟩) | rfl | rfl | rfl | rfl <;>
    simp [textLine, numberLine, Value.ofToml]

/-- A key of a setting is a name, and is written without marks. -/
theorem isName_of_mem_keys (h : key ∈ keys) : KeyPath.IsName key := by
  have hall : keys.all fun key => !key.toList.isEmpty && key.toList.all KeyPath.isNameChar := by
    decide
  have hkey := List.all_eq_true.mp hall key h
  rw [Bool.and_eq_true, Bool.not_eq_true', List.isEmpty_eq_false_iff] at hkey
  exact hkey

/-! ## What stands on the lines -/

/-- A plain character is no mark, no backslash and no control character. -/
theorem isVerbatim_of_isPlainChar {x : Char} (h : isPlainChar x = true) : IsVerbatim x := by
  have hne : ∀ d, isPlainChar d = false → x ≠ d := by
    rintro d hd rfl
    cases hd.symm.trans h
  have hcontrol : ∀ n < 0x20, isPlainChar (Char.ofNat n) = false := by decide
  have hlow : ¬x < ' ' := by
    intro hlt
    have hplain := hcontrol x.toNat hlt
    rw [Char.ofNat_toNat] at hplain
    cases hplain.symm.trans h
  refine ⟨hne _ rfl, hne _ rfl, hne _ rfl, ?_⟩
  simp [Toml.Text.isControl, hlow, hne '\x7f' rfl]

theorem fitsInt64_of_lt (h : n < 2 ^ 63) : Numeral.fitsInt64 n = true := by
  have hmin : Int64.minValue.toInt ≤ 0 := by decide
  have hmax : Int64.maxValue.toInt = 2 ^ 63 - 1 := by decide
  rw [Numeral.fitsInt64, hmax, Bool.and_eq_true, decide_eq_true_eq, decide_eq_true_eq]
  omega

theorem spells_textLine (key : String) (h : s.toList.all isPlainChar = true) :
    Spells (textLine key s).text.toList (textLine key s).value :=
  Toml.spells_quote fun x hx => isVerbatim_of_isPlainChar (List.all_eq_true.mp h x hx)

theorem spells_numberLine (key : String) (h : n < 2 ^ 63) :
    Spells (numberLine key n).text.toList (numberLine key n).value :=
  Toml.spells_toString (fitsInt64_of_lt h)

theorem spells_of_mem_lines (hplain : c.isPlain = true)
    (hrequest : c.requestTimeout.toNat < 2 ^ 63) (hdrain : c.drainTimeout.toNat < 2 ^ 63) :
    ∀ l ∈ c.lines, Spells l.text.toList l.value := by
  simp only [isPlain, Bool.and_eq_true] at hplain
  obtain ⟨⟨⟨hbind, hsave⟩, hbackup⟩, hscheme⟩ := hplain
  have hencoding : c.encoding.name.toList.all isPlainChar = true := by
    cases c.encoding <;> decide
  have hpath : ∀ key (p : Option Path), p.all (·.text.toList.all isPlainChar) = true →
      ∀ l ∈ (p.map fun p => textLine key p.text).toList, Spells l.text.toList l.value := by
    intro key p hp l hl
    cases p with
    | none => cases hl
    | some p =>
      cases List.mem_singleton.mp hl
      exact spells_textLine key hp
  simp only [lines, List.forall_mem_append, List.forall_mem_cons, List.not_mem_nil, false_implies,
    implies_true, and_true]
  exact ⟨⟨⟨spells_textLine _ hbind, hpath _ _ hsave⟩, hpath _ _ hbackup⟩,
    spells_textLine _ hencoding, spells_numberLine _ hrequest, spells_numberLine _ hdrain,
    spells_textLine _ hscheme⟩

theorem isSound_of_mem_lines (hspells : ∀ l ∈ c.lines, Spells l.text.toList l.value) :
    ∀ l ∈ c.lines, l.IsSound := by
  intro l hl
  have hname := isName_of_mem_keys (key_mem_of_mem_lines hl)
  exact ⟨⟨hname.1, List.all_eq_true.mp hname.2⟩, hspells l hl⟩

/-! ## What is read -/

/-- The settings of a configuration that have a value, under their keys. -/
def members (c : Configuration) : List (String × Value) :=
  c.lines.map fun l => (l.key, Value.ofToml l.value)

theorem members?_dump (hsound : ∀ l ∈ c.lines, l.IsSound) :
    File.members? ⟨"toml", some (Text.encode c.dump)⟩ = some c.members := by
  have hmark : File.mark.isPrefixOf (Text.encode c.dump) = false := by
    obtain ⟨ls, hls⟩ : ∃ ls, c.lines = textLine "bind_host" c.bindHost :: ls := ⟨_, rfl⟩
    have hfirst : "bind_host".toList = 'b' :: "ind_host".toList := by decide
    rw [Text.encode_eq_flatMap, dump_chars, hls, List.flatMap_cons, Line.chars, textLine, hfirst]
    rfl
  have hparse := Toml.Document.parse?_lines hsound c.nodup_keys_lines c.dump_chars
  rw [File.members?]
  simp only [if_true, File.textOf_encode hmark, hparse, Option.map_some, Value.ofTomlMembers_map]
  rfl

/-- What stands under each key when a dump has been read. -/
theorem sources?_dump (hsound : ∀ l ∈ c.lines, l.IsSound) :
    ∃ v, sources? (some ⟨"toml", some (Text.encode c.dump)⟩) [] = some v ∧
      ∀ key, v.get? key = c.members.lookup key := by
  refine ⟨(Value.table []).layer c.members, ?_, fun key => ?_⟩
  · simp only [sources?, members?_dump hsound]
    rfl
  · have hnames : ∀ m ∈ c.members, KeyPath.IsName m.1 := by
      intro m hm
      obtain ⟨l, hl, rfl⟩ := List.mem_map.mp hm
      exact isName_of_mem_keys (key_mem_of_mem_lines hl)
    have htables : ∀ m ∈ c.members, ∀ t, m.2 ≠ .table t := by
      intro m hm
      obtain ⟨l, hl, rfl⟩ := List.mem_map.mp hm
      exact ofToml_ne_table hl
    have hnodup : (c.members.map Prod.fst).Nodup := by
      rw [members, List.map_map]
      exact c.nodup_keys_lines
    rw [Value.get?_layer_of_isName hnames htables hnodup]
    exact Option.or_none

theorem lookup_members (c : Configuration) :
    c.members.lookup "bind_host" = some (.text c.bindHost) ∧
      c.members.lookup "save_to" = c.saveTo.map (.text ·.text) ∧
      c.members.lookup "backup_to" = c.backupTo.map (.text ·.text) ∧
      c.members.lookup "encoding" = some (.text c.encoding.name) ∧
      c.members.lookup "request_timeout_ms" = some (.int c.requestTimeout.toNat) ∧
      c.members.lookup "drain_timeout_ms" = some (.int c.drainTimeout.toNat) ∧
      c.members.lookup "auth_scheme" = some (.text c.authScheme) := by
  obtain ⟨bindHost, saveTo, backupTo, encoding, request, drain, scheme⟩ := c
  cases saveTo <;> cases backupTo <;> exact ⟨rfl, rfl, rfl, rfl, rfl, rfl, rfl⟩

theorem ofName?_name (e : Wire.Encoding) : Wire.Encoding.ofName? e.name = some e := by
  cases e <;> rfl

theorem natural?_toNat (n : UInt64) : Value.natural? (.int n.toNat) = some n := by
  rw [Value.natural?, if_pos (Int.natCast_nonneg _), Int.toNat_natCast, UInt64.ofNat_toNat]

theorem setting?_path {v : Value} {p : Option Path}
    (h : v.get? key = p.map (.text ·.text)) : setting? v key path? none = some p := by
  rw [setting?, h]
  cases p <;> rfl

/-- A configuration is read from its settings. -/
theorem ofValue?_members {v : Value} (hv : ∀ key, v.get? key = c.members.lookup key) :
    ofValue? v = some c := by
  obtain ⟨hbind, hsave, hbackup, hencoding, hrequest, hdrain, hscheme⟩ := c.lookup_members
  rw [← hv] at hbind hsave hbackup hencoding hrequest hdrain hscheme
  have hsaveTo : setting? v "save_to" path? (default : Configuration).saveTo = some c.saveTo :=
    setting?_path hsave
  have hbackupTo : setting? v "backup_to" path? (default : Configuration).backupTo =
      some c.backupTo := setting?_path hbackup
  simp only [ofValue?, hsaveTo, hbackupTo]
  simp only [setting?, hbind, hencoding, hrequest, hdrain, hscheme, encoding?, ofName?_name,
    natural?_toNat, Value.text?]
  rfl

/-- A configuration that is accepted, whose texts are made of plain characters and whose times fit
in whole numbers of TOML, is dumped as a document from which it is loaded again. -/
theorem load_dump (hdefect : c.defect? = none) (hplain : c.isPlain = true)
    (hrequest : c.requestTimeout.toNat < 2 ^ 63) (hdrain : c.drainTimeout.toNat < 2 ^ 63) :
    c.dump? = some c.dump ∧
      load (some ⟨"toml", some (Text.encode c.dump)⟩) [] = .ok c := by
  have hspells := spells_of_mem_lines hplain hrequest hdrain
  obtain ⟨v, hv, hget⟩ := sources?_dump (isSound_of_mem_lines hspells)
  constructor
  · have hfits : c.fitsToml = true := by
      rw [fitsToml, fitsInt64_of_lt hrequest, fitsInt64_of_lt hdrain, Bool.and_self]
    rw [dump?, hplain, hfits]
    rfl
  · simp only [load, hv, Option.bind_some, ofValue?_members hget, hdefect]

/-- A configuration whose texts look like a date, like nothing, and like a truth value. -/
def lookalike : Configuration where
  bindHost := "2024-02-29 12:00:00"
  saveTo := some ⟨""⟩
  backupTo := none
  encoding := .raw
  requestTimeout := 9223372036854775807
  drainTimeout := 0
  authScheme := "true"

theorem load_dump_lookalike :
    lookalike.dump? = some ("bind_host = \"2024-02-29 12:00:00\"\nsave_to = \"\"\n" ++
      "encoding = \"raw\"\nrequest_timeout_ms = 9223372036854775807\ndrain_timeout_ms = 0\n" ++
      "auth_scheme = \"true\"\n") ∧
    load (some ⟨"toml", some (Text.encode lookalike.dump)⟩) [] = .ok lookalike := by
  obtain ⟨hdump, hload⟩ :=
    load_dump (c := lookalike) (by decide) (by decide) (by decide) (by decide)
  exact ⟨hdump.trans (by decide), hload⟩

end Configuration

end FsGateway.Settings
