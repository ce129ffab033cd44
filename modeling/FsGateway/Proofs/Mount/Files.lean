import FsGateway.Mount.Files
import FsGateway.Proofs.Keyed
import FsGateway.Proofs.Mount.Table
import FsGateway.Proofs.Outcome

/-!
# Files in memory behave as the table expects

A path is followed through directories only. Writing and renaming change what is no directory, so the
paths that were followed before are followed to the same places after.

* `Reached`: a place to which a path can lead.
* `system_lawful`: files in memory hold what was written to them, also when they are renamed.
-/

namespace FsGateway.Mount.Files

variable {fs fs' : Files} {place q : Place} {name : List Char} {p : Path}

/-! ## Places -/

/-- Every place on the way to a place is a directory, and so is the place itself. -/
def Reached (fs : Files) (place : Place) : Prop :=
  ∀ before, before <+: place → fs.find? before = some .directory

/-- The directories to which paths can lead are directories after a change. -/
def KeepsReached (fs fs' : Files) : Prop :=
  ∀ place, Reached fs place → fs'.find? place = some .directory

theorem reached_root (fs : Files) : Reached fs [] := by
  intro before hbefore
  rw [List.prefix_nil.mp hbefore]
  rfl

theorem Reached.of_prefix (h : Reached fs place) {before : Place} (hbefore : before <+: place) :
    Reached fs before :=
  fun first hfirst => h first (hfirst.trans hbefore)

theorem KeepsReached.reached (h : KeepsReached fs fs') (hplace : Reached fs place) :
    Reached fs' place :=
  fun before hbefore => h before (hplace.of_prefix hbefore)

theorem KeepsReached.trans {fs'' : Files} (h : KeepsReached fs fs') (h' : KeepsReached fs' fs'') :
    KeepsReached fs fs'' :=
  fun place hplace => h' place (h.reached hplace)

/-! ## Following paths -/

/-- A directory that is entered is entered after a change as well. -/
theorem enter_keeps (hkeeps : KeepsReached fs fs') (hplace : Reached fs place) {goal : Place}
    (h : fs.enter place name = .ok goal) : Reached fs goal ∧ fs'.enter place name = .ok goal := by
  unfold enter at h ⊢
  by_cases hdot : name = ['.']
  · simp only [hdot, if_true] at h ⊢
    cases h
    exact ⟨hplace, rfl⟩
  by_cases hdots : name = ['.', '.']
  · simp only [hdots, if_true] at h ⊢
    cases h
    exact ⟨hplace.of_prefix (List.dropLast_prefix _), rfl⟩
  by_cases hlong : maxName < width name
  · simp only [hdot, hdots, hlong, if_true, if_false] at h
    cases h
  simp only [hdot, hdots, hlong, if_false] at h ⊢
  split at h
  · rename_i hdirectory
    cases h
    have hgoal : Reached fs (place ++ [name]) := by
      intro before hbefore
      rcases List.prefix_concat_iff.mp hbefore with rfl | hbefore
      · exact hdirectory
      · exact hplace before hbefore
    refine ⟨hgoal, ?_⟩
    rw [hkeeps _ hgoal]
  · cases h
  · cases h

theorem enterAll_keeps (hkeeps : KeepsReached fs fs') {names : List (List Char)} {goal : Place}
    (hplace : Reached fs place) (h : names.foldlM fs.enter place = .ok goal) :
    Reached fs goal ∧ names.foldlM fs'.enter place = .ok goal := by
  induction names generalizing place with
  | nil =>
    cases h
    exact ⟨hplace, rfl⟩
  | cons name names ih =>
    rw [List.foldlM_cons] at h ⊢
    cases hfirst : fs.enter place name with
    | error fault =>
      rw [hfirst] at h
      cases h
    | ok next =>
      rw [hfirst] at h
      obtain ⟨hnext, hfirst'⟩ := enter_keeps hkeeps hplace hfirst
      rw [hfirst']
      exact ih hnext h

/-- When a path leads to a name within a directory. -/
theorem locate_eq_entry_iff {parent : Place} : fs.locate p = .ok (.entry parent name) ↔
    p.text.toList.contains '\x00' = false ∧ ¬ maxPath < width p.text.toList ∧
      p.names.getLast? = some name ∧ isDots name = false ∧
        p.names.dropLast.foldlM fs.enter [] = .ok parent := by
  constructor
  · intro h
    unfold locate at h
    split at h
    · cases h
    · rename_i hnul
      split at h
      · cases h
      · rename_i hlong
        split at h
        · cases h
        · rename_i last hlast
          split at h
          · cases hwalk : p.names.foldlM fs.enter [] with
            | error fault =>
              rw [hwalk] at h
              cases h
            | ok goal =>
              rw [hwalk] at h
              cases h
          · rename_i hdots
            cases hwalk : p.names.dropLast.foldlM fs.enter [] with
            | error fault =>
              rw [hwalk] at h
              cases h
            | ok goal =>
              rw [hwalk] at h
              cases h
              exact ⟨by simpa using hnul, hlong, hlast, by simpa using hdots, rfl⟩
  · rintro ⟨hnul, hlong, hlast, hdots, hwalk⟩
    unfold locate
    rw [hnul, hlast]
    simp only [hlong, hdots, hwalk, if_false, Bool.false_eq_true]
    rfl

/-- A path that leads to a name within a directory leads there after a change as well. -/
theorem locate_keeps (hkeeps : KeepsReached fs fs') {parent : Place}
    (h : fs.locate p = .ok (.entry parent name)) :
    fs'.locate p = .ok (.entry parent name) := by
  obtain ⟨hnul, hlong, hlast, hdots, hwalk⟩ := locate_eq_entry_iff.mp h
  obtain ⟨-, hwalk'⟩ := enterAll_keeps hkeeps (reached_root fs) hwalk
  exact locate_eq_entry_iff.mpr ⟨hnul, hlong, hlast, hdots, hwalk'⟩

/-! ## Changes -/

theorem find?_concat (fs : Files) (parent : Place) (name : List Char) :
    fs.find? (parent ++ [name]) = fs.entries.lookup (parent ++ [name]) := by
  simp [find?]

theorem find?_put (fs : Files) (parent : Place) (name : List Char) (f : File) :
    (fs.put (parent ++ [name]) f).find? (parent ++ [name]) = some f := by
  have hgone := Keyed.lookup_filter (fun k => decide (k ≠ parent ++ [name])) (parent ++ [name])
    fs.entries
  rw [find?_concat, put, List.lookup_append, hgone]
  simp

/-- Putting a file where no directory is keeps all directories. -/
theorem put_keeps (content : Bytes) (hq : fs.find? q ≠ some .directory) :
    KeepsReached fs (fs.put q (.regular content)) := by
  intro place hplace
  have hhere : fs.find? place = some .directory := hplace place (List.prefix_refl place)
  have hne : place ≠ q := by
    rintro rfl
    exact hq hhere
  unfold find? at hhere ⊢
  split
  · rfl
  · rename_i hroot
    rw [if_neg hroot] at hhere
    have hkept := Keyed.lookup_filter (fun k => decide (k ≠ q)) place fs.entries
    rw [put, List.lookup_append, hkept]
    simp [hne, hhere]

/-- Deleting what is no directory keeps the directories to which paths can lead. -/
theorem delete_keeps (hq : fs.find? q ≠ some .directory) : KeepsReached fs (fs.delete q) := by
  intro place hplace
  have hhere : fs.find? place = some .directory := hplace place (List.prefix_refl place)
  have hout : q.isPrefixOf place = false := by
    rw [← Bool.not_eq_true, List.isPrefixOf_iff_prefix]
    exact fun hbefore => hq (hplace q hbefore)
  unfold find? at hhere ⊢
  split
  · rfl
  · rename_i hroot
    rw [if_neg hroot] at hhere
    have hkept := Keyed.lookup_filter (fun k => !q.isPrefixOf k) place fs.entries
    rw [delete, hkept]
    simp [hout, hhere]

/-- Deleting makes no directories. -/
theorem find?_delete_ne {place : Place} (h : fs.find? place ≠ some .directory) :
    (fs.delete q).find? place ≠ some .directory := by
  unfold find? at h ⊢
  split
  · rename_i hroot
    simp [hroot] at h
  · rename_i hroot
    rw [if_neg hroot] at h
    have hkept := Keyed.lookup_filter (fun k => !q.isPrefixOf k) place fs.entries
    rw [delete, hkept]
    split
    · exact h
    · simp

/-! ## Operations -/

/-- A path leads to a file that can be read and written, if it exists. -/
structure LeadsToFile (fs : Files) (p : Path) (parent : Place) (name : List Char) : Prop where
  locate : fs.locate p = .ok (.entry parent name)
  short : ¬ maxName < width name
  noSlash : p.endsInSlash = false

theorem LeadsToFile.keeps {parent : Place} (hkeeps : KeepsReached fs fs')
    (h : LeadsToFile fs p parent name) : LeadsToFile fs' p parent name :=
  ⟨locate_keeps hkeeps h.locate, h.short, h.noSlash⟩

theorem LeadsToFile.read {parent : Place} {content : Bytes} (h : LeadsToFile fs p parent name)
    (hfind : fs.find? (parent ++ [name]) = some (.regular content)) :
    fs.read p = .ok content := by
  simp [Files.read, h.locate, lookUp, h.short, hfind, h.noSlash, bind, Except.bind]

theorem lookUp_eq_ok {parent : Place} {there : Option File}
    (h : fs.lookUp parent name = .ok there) :
    ¬ maxName < width name ∧ there = fs.find? (parent ++ [name]) := by
  unfold lookUp at h
  split at h
  · cases h
  · rename_i hshort
    cases h
    exact ⟨hshort, rfl⟩

/-- A file that is written is put where its path leads, and no directory was there. -/
theorem written_eq_ok {content : Bytes} (h : fs.written p content = .ok fs') :
    ∃ parent name, LeadsToFile fs p parent name ∧
      fs.find? (parent ++ [name]) ≠ some .directory ∧
      fs' = fs.put (parent ++ [name]) (.regular content) := by
  obtain ⟨goal, hlocate, h⟩ := Outcome.bind_eq_ok_iff.mp h
  cases goal with
  | directory place => cases h
  | entry parent name =>
    simp only at h
    split at h
    · cases h
    · rename_i hslash
      obtain ⟨there, hlook, h⟩ := Outcome.bind_eq_ok_iff.mp h
      obtain ⟨hshort, rfl⟩ := lookUp_eq_ok hlook
      split at h
      · cases h
      · rename_i hnone
        cases h
        exact ⟨parent, name, ⟨hlocate, hshort, by simpa using hslash⟩, hnone, rfl⟩

/-- A file that is renamed is deleted where it was and put where the other path leads, and no
directory was there. -/
theorem renamed_eq_ok {source target : Path} (h : fs.renamed source target = .ok fs') :
    ∃ parent name parent' name' content, LeadsToFile fs source parent name ∧
      LeadsToFile fs target parent' name' ∧
      fs.find? (parent ++ [name]) = some (.regular content) ∧
      fs.find? (parent' ++ [name']) ≠ some .directory ∧
      fs' = (fs.delete (parent ++ [name])).put (parent' ++ [name']) (.regular content) := by
  obtain ⟨start, hsource, hthen⟩ := Outcome.bind_eq_ok_iff.mp h
  obtain ⟨goal, htarget, hgoals⟩ := Outcome.bind_eq_ok_iff.mp hthen
  split at hgoals
  · rename_i parent name parent' name'
    obtain ⟨found, hfound, hfile⟩ := Outcome.bind_eq_ok_iff.mp hgoals
    obtain ⟨hshort, rfl⟩ := lookUp_eq_ok hfound
    split at hfile
    · cases hfile
    · cases hfile
    · rename_i content hcontent
      obtain ⟨there, hthere, hput⟩ := Outcome.bind_eq_ok_iff.mp hfile
      obtain ⟨hshort', rfl⟩ := lookUp_eq_ok hthere
      split at hput
      · cases hput
      · rename_i hslash
        obtain ⟨hslash, hslash'⟩ := not_or.mp hslash
        split at hput
        · cases hput
        · rename_i hnone
          cases hput
          exact ⟨parent, name, parent', name', content,
            ⟨hsource, hshort, by simpa using hslash⟩, ⟨htarget, hshort', by simpa using hslash'⟩,
            hcontent, hnone, rfl⟩
  · cases hgoals

theorem attempt_eq_none {change : Except IoFault Files} (h : fs.attempt change = (none, fs')) :
    change = .ok fs' := by
  unfold attempt at h
  split at h
  · cases h
    rfl
  · cases h

/-- Files in memory hold what was written to them, also when they are renamed. -/
theorem system_lawful : system.Lawful where
  read_write := by
    intro fs fs' p content h
    obtain ⟨parent, name, hleads, hnone, rfl⟩ := written_eq_ok (attempt_eq_none h)
    exact (hleads.keeps (put_keeps content hnone)).read (find?_put fs parent name _)
  read_rename := by
    intro fs fs' source target content h hread
    obtain ⟨parent, name, parent', name', content', hsource, htarget, hfind, hnone, rfl⟩ :=
      renamed_eq_ok (attempt_eq_none h)
    have hdelete : KeepsReached fs (fs.delete (parent ++ [name])) := by
      refine delete_keeps ?_
      rw [hfind]
      simp
    have hkeeps := hdelete.trans (put_keeps content' (find?_delete_ne hnone))
    have hsame : content' = content := by
      have hread' := hsource.read hfind
      exact Except.ok.inj (hread'.symm.trans hread)
    rw [← hsame]
    exact (htarget.keeps hkeeps).read (find?_put _ parent' name' _)

end FsGateway.Mount.Files
