import FsGateway.Proofs.Mount.Path
import FsGateway.Proofs.Mount.Table
import FsGateway.Settings.Configuration
import Mathlib.Data.List.Nodup
import Mathlib.Logic.Function.Basic

/-!
# Saving is atomic under failure

A disk is a map from paths to what they show, together with what goes wrong with the changes to
come: a write that fails can leave anything at its path, a rename that fails changes nothing. Which
paths are one is left to a key.

* `Disk.entries_of_performAll`: changes leave alone what they do not name.
* `Disk.replace_cases`: a file is replaced as a whole or not at all.
* `Table.apart_of_default`: with the default backup, the four paths of a table are apart.
* `Table.saves_atomically`: what a save keeps at each of its stages, and what it leaves.
-/

namespace FsGateway.Mount

/-! ## Disks -/

/-- What a path shows. -/
inductive Entry
  | missing
  | file (content : Bytes)
  | directory
  deriving DecidableEq, Repr

/-- The bytes that are saved for an entry. Nothing is saved of a directory. -/
def Entry.bytes? : Entry → Option Bytes
  | missing => some []
  | file content => some content
  | directory => none

/-- How a change goes, with what a write leaves that fails or is cut short. -/
inductive Chance
  | made
  | failed (fault : IoFault) (left : Entry)
  deriving DecidableEq, Repr

/-- Files as a map, with the faults of reading them and the chances of the changes to come. Changes
beyond the last chance are made. -/
structure Disk (κ : Type) where
  entries : κ → Entry
  unreadable : κ → Option { fault : IoFault // fault ≠ .notFound }
  chances : List Chance

namespace Disk

variable {κ : Type} [DecidableEq κ]

def chance (d : Disk κ) : Chance := d.chances.head?.getD .made

/-- The disk after a change. -/
def next (d : Disk κ) (entries : κ → Entry) : Disk κ :=
  { d with entries := entries, chances := d.chances.tail }

omit [DecidableEq κ] in
@[simp] theorem entries_next (d : Disk κ) (entries : κ → Entry) :
    (d.next entries).entries = entries := rfl

def read (key : Path → κ) (d : Disk κ) (p : Path) : Except IoFault Bytes :=
  match d.unreadable (key p), d.entries (key p) with
  | some fault, _ => .error fault.1
  | none, .file content => .ok content
  | none, .missing => .error .notFound
  | none, .directory => .error .isADirectory

def write (key : Path → κ) (d : Disk κ) (p : Path) (content : Bytes) : Option IoFault × Disk κ :=
  match d.chance, d.entries (key p) with
  | .failed fault left, _ => (some fault, d.next (Function.update d.entries (key p) left))
  | .made, .directory => (some .isADirectory, d.next d.entries)
  | .made, _ => (none, d.next (Function.update d.entries (key p) (.file content)))

/-- Renames a file. Directories are neither renamed nor replaced. -/
def rename (key : Path → κ) (d : Disk κ) (source target : Path) : Option IoFault × Disk κ :=
  match d.chance, d.entries (key source), d.entries (key target) with
  | .failed fault _, _, _ => (some fault, d.next d.entries)
  | .made, .missing, _ => (some .notFound, d.next d.entries)
  | .made, .directory, _ => (some .isADirectory, d.next d.entries)
  | .made, .file _, .directory => (some .isADirectory, d.next d.entries)
  | .made, .file content, _ =>
    (none, d.next
      (Function.update (Function.update d.entries (key source) .missing) (key target)
        (.file content)))

/-- A disk as a file system. -/
def system (key : Path → κ) : FileSystem (Disk κ) where
  read := read key
  write := write key
  rename := rename key

end Disk

/-! ## Changes -/

/-- The keys that a change names. -/
def Step.keys {κ : Type} (key : Path → κ) : Step → List κ
  | write path _ => [key path]
  | rename source target => [key source, key target]

namespace Disk

variable {κ : Type} [DecidableEq κ] {key : Path → κ} {d d' : Disk κ} {k : κ} {p : Path}
  {content : Bytes}

theorem entries_of_perform {step : Step} (hk : k ∉ step.keys key) :
    (step.perform (system key) d).2.entries k = d.entries k := by
  cases step with
  | write path content =>
    have hne : k ≠ key path := by simpa [Step.keys] using hk
    simp only [Step.perform, system, write]
    split <;> simp [hne]
  | rename source target =>
    obtain ⟨hsource, htarget⟩ : k ≠ key source ∧ k ≠ key target := by simpa [Step.keys] using hk
    simp only [Step.perform, system, rename]
    split <;> simp [hsource, htarget]

/-- Changes leave alone what they do not name. -/
theorem entries_of_performAll {steps : List Step} (hk : ∀ step ∈ steps, k ∉ step.keys key) :
    (Step.performAll (system key) steps d).2.entries k = d.entries k := by
  induction steps generalizing d with
  | nil => rfl
  | cons step steps ih =>
    obtain ⟨hstep, hsteps⟩ := List.forall_mem_cons.mp hk
    have hfirst := entries_of_perform (d := d) hstep
    rw [Step.performAll]
    split
    · rename_i d₁ hperform
      rw [hperform] at hfirst
      rw [ih hsteps]
      exact hfirst
    · rename_i fault d₁ hperform
      rw [hperform] at hfirst
      exact hfirst

theorem write_eq_none (h : (system key).write d p content = (none, d')) :
    d'.entries (key p) = .file content := by
  simp only [system, write] at h
  split at h <;> cases h
  simp

/-- A file that was renamed is gone from where it was. -/
theorem rename_eq_none {source target : Path} (hne : key source ≠ key target)
    (hsource : d.entries (key source) = .file content)
    (h : (system key).rename d source target = (none, d')) :
    d'.entries (key target) = .file content ∧ d'.entries (key source) = .missing := by
  simp only [system, rename, hsource] at h
  split at h <;> cases h
  all_goals
    rename_i hfile _
    cases hfile
    simp [hne]

theorem rename_eq_some {source target : Path} {fault : IoFault}
    (h : (system key).rename d source target = (some fault, d')) : d'.entries = d.entries := by
  simp only [system, rename] at h
  split at h <;> cases h <;> rfl

/-- A file is replaced as a whole or not at all. -/
theorem replace_cases {result : Except TableFault Unit} (hne : key (Table.staged p) ≠ key p)
    (h : Step.performAll (system key) (Table.replace p content) d = (result, d')) :
    (result = .ok () ∧ d'.entries (key p) = .file content ∧
      d'.entries (key (Table.staged p)) = .missing) ∨
    ((∃ fault, result = .error fault) ∧ d'.entries (key p) = d.entries (key p)) := by
  have hkeys : key p ∉ (Step.write (Table.staged p) content).keys key := by
    simpa [Step.keys] using hne.symm
  have hstaging := entries_of_perform (d := d) hkeys
  simp only [Table.replace, Step.performAll] at h
  split at h
  · rename_i d₁ hwrite
    rw [hwrite] at hstaging
    split at h
    · rename_i d₂ hrename
      cases h
      exact .inl ⟨rfl, rename_eq_none hne (write_eq_none hwrite) hrename⟩
    · rename_i fault d₂ hrename
      cases h
      exact .inr ⟨⟨_, rfl⟩, by rw [rename_eq_some hrename, hstaging]⟩
  · rename_i fault d₁ hwrite
    cases h
    rw [hwrite] at hstaging
    exact .inr ⟨⟨_, rfl⟩, hstaging⟩

end Disk

/-! ## Tables -/

namespace Table

/-- The paths that a save changes. -/
def paths (t : Table) : List Path := [t.saveTo, t.backupTo, staged t.saveTo, staged t.backupTo]

/-- The paths that a save changes are told apart. -/
def Apart {κ : Type} (key : Path → κ) (t : Table) : Prop := (t.paths.map key).Nodup

/-- The files once a save has made its first changes, at most as many as given. A change that fails
is the last one. -/
def saving {σ : Type} (fs : FileSystem σ) (t : Table) (mounts : List Descriptor) (changes : Nat)
    (s : σ) : σ :=
  match t.previous fs s with
  | .error _ => s
  | .ok previous => (Step.performAll fs ((t.steps previous (encode mounts)).take changes) s).2

/-- What a save keeps at each of its stages, and what it leaves. -/
structure Atomic {κ : Type} [DecidableEq κ] (key : Path → κ) (t : Table)
    (mounts : List Descriptor) (d : Disk κ) : Prop where
  shown (changes : Nat) :
    (t.saving (Disk.system key) mounts changes d).entries (key t.saveTo) =
        d.entries (key t.saveTo) ∨
      (t.saving (Disk.system key) mounts changes d).entries (key t.saveTo) =
        .file (encode mounts)
  others (changes : Nat) {k : κ} : k ∉ t.paths.map key →
    (t.saving (Disk.system key) mounts changes d).entries k = d.entries k
  whole : t.saving (Disk.system key) mounts 4 d = (t.save (Disk.system key) mounts d).2
  saved {d' : Disk κ} : t.save (Disk.system key) mounts d = (.ok (), d') →
    ∃ previous, (d.entries (key t.saveTo)).bytes? = some previous ∧
      d'.entries (key t.saveTo) = .file (encode mounts) ∧
      d'.entries (key t.backupTo) = .file previous ∧
      d'.entries (key (staged t.saveTo)) = .missing ∧
      d'.entries (key (staged t.backupTo)) = .missing
  failed {fault : TableFault} {d' : Disk κ} :
    t.save (Disk.system key) mounts d = (.error fault, d') →
    d'.entries (key t.saveTo) = d.entries (key t.saveTo) ∧
      (d'.entries (key t.backupTo) = d.entries (key t.backupTo) ∨
        ∃ previous, (d.entries (key t.saveTo)).bytes? = some previous ∧
          d'.entries (key t.backupTo) = .file previous)

section

variable {κ : Type} [DecidableEq κ] {key : Path → κ} {t : Table} {mounts : List Descriptor}
  {d d' : Disk κ} {previous content : Bytes}

theorem previous_eq_ok (h : t.previous (Disk.system key) d = .ok previous) :
    (d.entries (key t.saveTo)).bytes? = some previous := by
  simp only [Table.previous, Disk.system, Disk.read] at h
  cases hfault : d.unreadable (key t.saveTo) with
  | some fault =>
    obtain ⟨fault, hfound⟩ := fault
    rw [hfault] at h
    cases fault <;> simp at h hfound
  | none =>
    rw [hfault] at h
    cases hentry : d.entries (key t.saveTo) <;> rw [hentry] at h <;> simp at h
    · rw [h]
      rfl
    · rw [h]
      rfl

/-! ### Stages -/

/-- A save makes four changes at most. -/
theorem saving_of_le {σ : Type} {s : σ} (fs : FileSystem σ) {changes : Nat} (h : 4 ≤ changes) :
    t.saving fs mounts changes s = (t.save fs mounts s).2 := by
  cases hprevious : t.previous fs s with
  | error fault => simp only [saving, save, hprevious]
  | ok previous =>
    have hall : (t.steps previous (encode mounts)).take changes =
        t.steps previous (encode mounts) := by
      apply List.take_of_length_le
      simpa [steps, replace] using h
    simp only [saving, save, hprevious, hall]

omit [DecidableEq κ] in
/-- The keys of each change of a save are among those of its paths. -/
theorem keys_subset {step : Step} (h : step ∈ t.steps previous content) :
    step.keys key ⊆ t.paths.map key := by
  simp only [steps, replace, List.cons_append, List.nil_append, List.mem_cons,
    List.not_mem_nil, or_false] at h
  obtain rfl | rfl | rfl | rfl := h <;> simp [Step.keys, paths]

theorem saving_others (changes : Nat) {k : κ} (hk : k ∉ t.paths.map key) :
    (t.saving (Disk.system key) mounts changes d).entries k = d.entries k := by
  unfold saving
  split
  · rfl
  · exact Disk.entries_of_performAll fun step hstep hkey =>
      hk (keys_subset (List.mem_of_mem_take hstep) hkey)

omit [DecidableEq κ] in
theorem Apart.ne (h : t.Apart key) : key t.saveTo ≠ key t.backupTo ∧
    key t.saveTo ≠ key (staged t.saveTo) ∧ key t.saveTo ≠ key (staged t.backupTo) ∧
    key t.backupTo ≠ key (staged t.saveTo) ∧ key t.backupTo ≠ key (staged t.backupTo) ∧
    key (staged t.saveTo) ≠ key (staged t.backupTo) := by
  simpa [Apart, paths, and_assoc] using h

/-- The save file is not touched before the last change. -/
theorem saving_three (hapart : t.Apart key) {changes : Nat} (h : changes ≤ 3) :
    (t.saving (Disk.system key) mounts changes d).entries (key t.saveTo) =
      d.entries (key t.saveTo) := by
  obtain ⟨hbackup, hstaged, hstaging, -⟩ := hapart.ne
  unfold saving
  split
  · rfl
  · rename_i previous hprevious
    refine Disk.entries_of_performAll fun step hstep => ?_
    have hfirst : step ∈ (t.steps previous (encode mounts)).take 3 :=
      (List.take_subset_take_left _ h) hstep
    simp only [steps, replace, List.cons_append, List.nil_append, List.take_succ_cons,
      List.take_zero, List.mem_cons, List.not_mem_nil, or_false] at hfirst
    obtain rfl | rfl | rfl := hfirst <;> simp [Step.keys, hbackup, hstaged, hstaging]

/-! ### Ends -/

/-- Replacing a file changes that file and its staging file. -/
theorem entries_of_replace {p : Path} {k : κ} {result : Except TableFault Unit}
    (h : Step.performAll (Disk.system key) (replace p content) d = (result, d'))
    (hp : k ≠ key p) (hstaged : k ≠ key (staged p)) : d'.entries k = d.entries k := by
  have hkept : (Step.performAll (Disk.system key) (replace p content) d).2.entries k =
      d.entries k := by
    refine Disk.entries_of_performAll fun step hstep => ?_
    simp only [replace, List.mem_cons, List.not_mem_nil, or_false] at hstep
    obtain rfl | rfl := hstep <;> simp [Step.keys, hp, hstaged]
  rwa [h] at hkept

/-- A save ends where the save file cannot be read, where the backup cannot be replaced, or with
the replacement of the save file. -/
theorem save_cases {result : Except TableFault Unit}
    (h : t.save (Disk.system key) mounts d = (result, d')) :
    ((∃ fault, result = .error fault) ∧ d' = d) ∨
    ∃ previous, (d.entries (key t.saveTo)).bytes? = some previous ∧
      ((∃ fault, result = .error fault ∧
          Step.performAll (Disk.system key) (replace t.backupTo previous) d =
            (.error fault, d')) ∨
        ∃ d₁, Step.performAll (Disk.system key) (replace t.backupTo previous) d = (.ok (), d₁) ∧
          Step.performAll (Disk.system key) (replace t.saveTo (encode mounts)) d₁ =
            (result, d')) := by
  unfold save at h
  split at h
  · cases h
    exact .inl ⟨⟨_, rfl⟩, rfl⟩
  · rename_i previous hprevious
    refine .inr ⟨previous, previous_eq_ok hprevious, ?_⟩
    exact (Step.performAll_append_cases h).symm

theorem saved (hapart : t.Apart key) (h : t.save (Disk.system key) mounts d = (.ok (), d')) :
    ∃ previous, (d.entries (key t.saveTo)).bytes? = some previous ∧
      d'.entries (key t.saveTo) = .file (encode mounts) ∧
      d'.entries (key t.backupTo) = .file previous ∧
      d'.entries (key (staged t.saveTo)) = .missing ∧
      d'.entries (key (staged t.backupTo)) = .missing := by
  obtain ⟨hbackup, hsaveStaged, hstaged, hbackupStaged, hstaging, hapart⟩ := hapart.ne
  obtain ⟨⟨_, hfault⟩, -⟩ |
    ⟨previous, hprevious, ⟨_, hfault, -⟩ | ⟨d₁, hfirst, hsecond⟩⟩ := save_cases h
  · cases hfault
  · cases hfault
  obtain ⟨-, hfile, hgone⟩ | ⟨⟨_, hfault⟩, -⟩ := Disk.replace_cases hstaging.symm hfirst
  · obtain ⟨-, hfile', hgone'⟩ | ⟨⟨_, hfault⟩, -⟩ := Disk.replace_cases hsaveStaged.symm hsecond
    · refine ⟨previous, hprevious, hfile', ?_, hgone', ?_⟩
      · rw [entries_of_replace hsecond hbackup.symm hbackupStaged, hfile]
      · rw [entries_of_replace hsecond hstaged.symm hapart.symm, hgone]
    · cases hfault
  · cases hfault

theorem failed (hapart : t.Apart key) {fault : TableFault}
    (h : t.save (Disk.system key) mounts d = (.error fault, d')) :
    d'.entries (key t.saveTo) = d.entries (key t.saveTo) ∧
      (d'.entries (key t.backupTo) = d.entries (key t.backupTo) ∨
        ∃ previous, (d.entries (key t.saveTo)).bytes? = some previous ∧
          d'.entries (key t.backupTo) = .file previous) := by
  obtain ⟨hbackup, hsaveStaged, hstaged, hbackupStaged, hstaging, -⟩ := hapart.ne
  obtain ⟨-, rfl⟩ | ⟨previous, hprevious, ⟨fault', -, hfirst⟩ | ⟨d₁, hfirst, hsecond⟩⟩ :=
    save_cases h
  · exact ⟨rfl, .inl rfl⟩
  · refine ⟨entries_of_replace hfirst hbackup hstaged, ?_⟩
    obtain ⟨hok, -⟩ | ⟨-, hkept⟩ := Disk.replace_cases hstaging.symm hfirst
    · cases hok
    · exact .inl hkept
  · have hsave : d₁.entries (key t.saveTo) = d.entries (key t.saveTo) :=
      entries_of_replace hfirst hbackup hstaged
    have hcopy : d'.entries (key t.backupTo) = d₁.entries (key t.backupTo) :=
      entries_of_replace hsecond hbackup.symm hbackupStaged
    obtain ⟨-, hfile, -⟩ | ⟨⟨_, hfault⟩, -⟩ := Disk.replace_cases hstaging.symm hfirst
    · obtain ⟨hok, -⟩ | ⟨-, hkept⟩ := Disk.replace_cases hsaveStaged.symm hsecond
      · cases hok
      · exact ⟨hkept.trans hsave, .inr ⟨previous, hprevious, hcopy.trans hfile⟩⟩
    · cases hfault

theorem atomic (hapart : t.Apart key) : Atomic key t mounts d where
  shown changes := by
    by_cases hlast : changes ≤ 3
    · exact .inl (saving_three hapart hlast)
    · rw [saving_of_le (Disk.system key) (by omega)]
      cases hsave : t.save (Disk.system key) mounts d with
      | mk result d' =>
        cases result with
        | error fault => exact .inl (failed hapart hsave).1
        | ok _ =>
          obtain ⟨_, -, hfile, -⟩ := saved hapart hsave
          exact .inr hfile
  others changes _ hk := saving_others changes hk
  whole := saving_of_le _ (Nat.le_refl 4)
  saved := saved hapart
  failed := failed hapart

/-! ### The default backup -/

/-- The suffixes of the paths beside a save file. -/
def suffixes : List String := [".bak", ".tmp", ".bak.tmp"]

theorem suffixes_facts : suffixes.Nodup ∧
    ∀ suffix ∈ suffixes, '/' ∉ suffix.toList ∧ 2 ≤ suffix.toList.length := by decide

/-- With the default backup, all paths that a save changes are told apart. -/
theorem apart_of_default {c : Settings.Configuration} (h : c.table = some t)
    (hdefault : c.backupTo = none) : t.Apart Path.key := by
  obtain ⟨saveTo, -, rfl⟩ := Option.map_eq_some_iff.mp h
  obtain ⟨hnodup, hsuffix⟩ := suffixes_facts
  have hstaged : staged (saveTo.withSuffix ".bak") = saveTo.withSuffix ".bak.tmp" :=
    Path.withSuffix_withSuffix saveTo ".bak" ".tmp"
  have hpaths : (Table.mk saveTo (c.backupTo.getD (saveTo.withSuffix ".bak"))).paths =
      saveTo :: suffixes.map saveTo.withSuffix := by
    rw [hdefault, Option.getD_none, paths, hstaged]
    rfl
  rw [Apart, hpaths, List.map_cons, List.map_map, List.nodup_cons]
  constructor
  · intro hmem
    obtain ⟨suffix, hin, hkey⟩ := List.mem_map.mp hmem
    obtain ⟨hslash, hlong⟩ := hsuffix suffix hin
    exact Path.withSuffix_key_ne hslash hlong hkey.symm
  · refine hnodup.map_on fun first hfirst second hsecond hkey => ?_
    obtain ⟨hslash, hlong⟩ := hsuffix first hfirst
    obtain ⟨hslash', hlong'⟩ := hsuffix second hsecond
    exact Path.withSuffix_key_inj hslash hslash' hlong hlong' hkey

/-- Whatever goes wrong in a save, the save file shows its whole previous state or the whole list at
each stage. A save that succeeds leaves the list, the copy and no staging files, one that fails
leaves the save file as it was. -/
theorem saves_atomically :
    (∀ {κ : Type} [DecidableEq κ] (key : Path → κ) (t : Table), t.Apart key →
      ∀ (mounts : List Descriptor) (d : Disk κ), Atomic key t mounts d) ∧
    ∀ (c : Settings.Configuration) (t : Table), c.table = some t → c.backupTo = none →
      t.Apart Path.key ∧ t.Apart id := by
  constructor
  · intro κ _ key t hapart mounts d
    exact atomic hapart
  · intro c t htable hdefault
    have hkey := apart_of_default htable hdefault
    have hpaths : t.paths.Nodup := List.Nodup.of_map Path.key hkey
    exact ⟨hkey, by rwa [Apart, List.map_id]⟩

end

/-- A disk with an empty list saved, which will be full when the next list is staged. -/
def sampleDisk : Disk Path where
  entries p := if p.text = "mounts.json" then .file (encode []) else .missing
  unreadable _ := none
  chances := [.made, .made, .failed (.other "No space left on device (os error 28)") (.file [])]

/-- A configuration with the default backup. -/
def sampleConfiguration : Settings.Configuration :=
  { (default : Settings.Configuration) with saveTo := some ⟨"mounts.json"⟩ }

theorem saves_atomically_full :
    ∃ t, sampleConfiguration.table = some t ∧ sampleConfiguration.backupTo = none ∧
      t.Apart Path.key ∧ t.Apart id ∧
      Atomic id t [⟨⟨"/mnt/a"⟩, "http://a", "", "", "", "", 0⟩] sampleDisk := by
  refine ⟨_, rfl, rfl, ?_⟩
  obtain ⟨hkey, hid⟩ := saves_atomically.2 sampleConfiguration _ rfl rfl
  exact ⟨hkey, hid, saves_atomically.1 id _ hid _ sampleDisk⟩

example : ((⟨⟨"mounts.json"⟩, ⟨"mounts.json.bak"⟩⟩ : Table).save (Disk.system id) [] sampleDisk).1 =
    .error (.write ⟨"mounts.json.tmp"⟩ (.other "No space left on device (os error 28)")) := by
  decide

end Table

end FsGateway.Mount
