/-!
# Paths

Paths are compared by their components: repeated slashes, a slash at the end and inner dot
components make no difference. They are shown as they were given. Every path is a text: paths that
are not UTF-8 are left out, and with them the only lists of mounts that have no JSON.
-/

namespace FsGateway.Mount

/-- A path of a file or directory, as it was given. -/
structure Path where
  text : String
  deriving DecidableEq, Repr

namespace Path

/-- Splits at slashes. -/
def parts : List Char → List (List Char)
  | [] => [[]]
  | c :: cs =>
    if c = '/' then [] :: parts cs
    else
      match parts cs with
      | p :: ps => (c :: p) :: ps
      | [] => [[c]]

/-- The names in a path, dots among them, one after another. -/
def names (p : Path) : List (List Char) := (parts p.text.toList).filter (· ≠ [])

/-- Whether a path ends with a slash, so that it can only lead to a directory. -/
def endsInSlash (p : Path) : Bool := p.text.toList.getLast? = some '/'

/-- Whether a path starts at the root. -/
def isAbsolute (p : Path) : Bool := p.text.toList.head? = some '/'

/-- The components of a path. A dot counts only at the start of a path that is not absolute. -/
def components (p : Path) : List (List Char) :=
  let ps := parts p.text.toList
  let kept := ps.filter fun c => c ≠ [] && c ≠ ['.']
  if ps.head? = some ['.'] then ['.'] :: kept else kept

/-- Whether two paths have the same components. -/
def same (p q : Path) : Bool := p.isAbsolute = q.isAbsolute && p.components = q.components

/-- A path with a suffix at the end of its text. -/
def withSuffix (p : Path) (s : String) : Path := ⟨p.text ++ s⟩

/-- A path below a directory. An absolute path stands for itself. -/
def join (dir p : Path) : Path :=
  if p.isAbsolute ∨ dir.text = "" ∨ dir.endsInSlash then
    if p.isAbsolute then p else ⟨dir.text ++ p.text⟩
  else ⟨dir.text ++ "/" ++ p.text⟩

theorem same_refl (p : Path) : p.same p = true := by simp [same]

theorem same_symm {p q : Path} (h : p.same q = true) : q.same p = true := by
  simp only [same, Bool.and_eq_true, decide_eq_true_eq] at h ⊢
  exact ⟨h.1.symm, h.2.symm⟩

theorem same_trans {p q r : Path} (h : p.same q = true) (h' : q.same r = true) :
    p.same r = true := by
  simp only [same, Bool.and_eq_true, decide_eq_true_eq] at h h' ⊢
  exact ⟨h.1.trans h'.1, h.2.trans h'.2⟩

end Path

end FsGateway.Mount
