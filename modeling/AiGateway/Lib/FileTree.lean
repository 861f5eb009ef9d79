import Mathlib.Logic.Function.Basic
import Mathlib.Data.List.Basic

/- A directory seen through its files: what each path holds, `none` where there is no
   file. Directories themselves are not tracked. The operations are those of a plain file
   interface (`write`, `unlink`, `copyFile`), a write may throw and leave the file as the
   failed call left it, and two directories are compared on a set of watched paths. -/

/-- What each path holds. -/
abbrev FileTree (π γ : Type) := π → Option γ

namespace FileTree

variable {π γ : Type}

/-- The two directories hold the same on the watched paths. -/
def SameOn (watched : π → Prop) (fs gs : FileTree π γ) : Prop := ∀ path, watched path → fs path = gs path

section SameOn
variable {fs gs hs : FileTree π γ} {watched : π → Prop}

theorem SameOn.refl (fs : FileTree π γ) : SameOn watched fs fs := fun _ _ => rfl

theorem SameOn.symm (h : SameOn watched fs gs) : SameOn watched gs fs := fun path hpath => (h path hpath).symm

theorem SameOn.trans (h : SameOn watched fs gs) (h' : SameOn watched gs hs) : SameOn watched fs hs :=
  fun path hpath => (h path hpath).trans (h' path hpath)

end SameOn

variable [DecidableEq π]

def write (fs : FileTree π γ) (path : π) (content : γ) : FileTree π γ := Function.update fs path (some content)

def unlink (fs : FileTree π γ) (path : π) : FileTree π γ := Function.update fs path none

/-- A copy throws when there is nothing to copy. -/
def copyFile (fs : FileTree π γ) (source target : π) : Option (FileTree π γ) :=
  (fs source).map fun content => fs.write target content

/-- Every path of the list is unlinked; one that is not there stays away. -/
def unlinkAll (fs : FileTree π γ) (paths : List π) : FileTree π γ := paths.foldl unlink fs

/-- How one write call ends: the file holds the new content, or the call throws. A call that
throws before the file is opened leaves it as it was (`none`), one that throws later leaves
what has reached the file by then. -/
inductive WriteEnd (γ : Type) where
  | done
  | thrown (left : Option γ)
  deriving DecidableEq, Repr

/-- The file a throwing write leaves behind. -/
def leave (fs : FileTree π γ) (path : π) : Option γ → FileTree π γ
  | none => fs
  | some content => fs.write path content

/-- Whether a file that held `before` still holds it when the write has thrown. -/
def WriteEnd.Harmless (before : Option γ) : WriteEnd γ → Prop
  | .done | .thrown none => True
  | .thrown (some content) => before = some content

instance [DecidableEq γ] (before : Option γ) : (e : WriteEnd γ) → Decidable (e.Harmless before)
  | .done | .thrown none => .isTrue trivial
  | .thrown (some content) => inferInstanceAs (Decidable (before = some content))

section Lemmas
variable {fs : FileTree π γ} {path q : π} {watched : π → Prop}

@[simp] theorem write_self (content : γ) : fs.write path content path = some content := Function.update_self ..

@[simp] theorem unlink_self : fs.unlink path path = none := Function.update_self ..

theorem write_of_ne (content : γ) (h : q ≠ path) : fs.write path content q = fs q := Function.update_of_ne h ..

theorem unlink_of_ne (h : q ≠ path) : fs.unlink path q = fs q := Function.update_of_ne h ..

theorem leave_of_ne (left : Option γ) (h : q ≠ path) : fs.leave path left q = fs q := by
  cases left with
  | none => rfl
  | some content => exact write_of_ne content h

theorem leave_self_eq_iff (left : Option γ) :
    fs.leave path left path = fs path ↔ (WriteEnd.thrown left).Harmless (fs path) := by
  cases left with
  | none => exact iff_of_true rfl trivial
  | some content =>
    show fs.write path content path = fs path ↔ fs path = some content
    rw [write_self, eq_comm]

theorem unlinkAll_apply (paths : List π) : fs.unlinkAll paths q = if q ∈ paths then none else fs q := by
  induction paths generalizing fs with
  | nil => simp [unlinkAll]
  | cons path paths ih =>
    show (fs.unlink path).unlinkAll paths q = _
    rw [ih]
    by_cases hq : q = path
    · subst hq
      simp
    · by_cases hmem : q ∈ paths
      · simp [hmem]
      · simp [hmem, hq, unlink_of_ne hq]

theorem sameOn_write (content : γ) (h : ¬ watched path) : SameOn watched (fs.write path content) fs := by
  intro q hq
  exact write_of_ne content fun heq => h (heq ▸ hq)

theorem sameOn_unlink (h : ¬ watched path) : SameOn watched (fs.unlink path) fs := by
  intro q hq
  exact unlink_of_ne fun heq => h (heq ▸ hq)

end Lemmas

end FileTree
